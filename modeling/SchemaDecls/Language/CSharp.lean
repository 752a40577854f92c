import SchemaDecls.Character.Alphanumeric
import SchemaDecls.Declaration
import SchemaDecls.Writer

/-! C# declarations: one public class in a block namespace. -/
namespace SchemaDecls.CSharp

def keywords : List String := [
  "abstract", "as", "base", "bool", "break", "byte", "case", "catch", "char", "checked",
  "class", "const", "continue", "decimal", "default", "delegate", "do", "double", "else",
  "enum", "event", "explicit", "extern", "false", "finally", "fixed", "float", "for",
  "foreach", "goto", "if", "implicit", "in", "int", "interface", "internal", "is", "lock",
  "long", "namespace", "new", "null", "object", "operator", "out", "override", "params",
  "private", "protected", "public", "readonly", "ref", "return", "sbyte", "sealed", "short",
  "sizeof", "stackalloc", "static", "string", "struct", "switch", "this", "throw", "true",
  "try", "typeof", "uint", "ulong", "unchecked", "unsafe", "ushort", "using", "virtual",
  "void", "volatile", "while"]

/-- A name that a keyword or a leading digit makes illegal is marked at its front. -/
def identifier (name : String) : String :=
  if keywords.contains name then "@" ++ name
  else if name.toList.head?.any Character.isNumeric then "_" ++ name
  else name

def renderType : TargetType → String
  | .boolean => "bool"
  | .int32 => "int"
  | .double => "double"
  | .text => "string"
  | .named name => identifier name
  | .list element => "List<" ++ renderType element ++ ">"

def fieldLine (field : Field) : String :=
  "        public " ++ (if field.required then "required " else "") ++ renderType field.type
    ++ " " ++ identifier field.identifier ++ " \x7b get; set; \x7d"

/-- Writes a unit line by line. The name of its module is used as it stands. -/
def writeUnit (moduleName : String) (imports : List String) (declaration : Declaration) :
    Writer Unit := do
  imports.forM fun name => writeLine ("using " ++ name ++ ";")
  writeLine ""
  writeLine ("namespace " ++ identifier moduleName)
  writeLine "\x7b"
  writeLine ("    public class " ++ identifier declaration.name)
  writeLine "    \x7b"
  declaration.fields.forM fun field => writeLine (fieldLine field)
  writeLine "    \x7d"
  writeLine "\x7d"

end SchemaDecls.CSharp
