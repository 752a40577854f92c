import SchemaDecls.Declaration
import SchemaDecls.Name.Snake
import SchemaDecls.Writer

/-! Rust declarations: one struct in a module file of its own. -/
namespace SchemaDecls.Rust

def keywords : List String := [
  "as", "async", "await", "break", "const", "continue", "dyn", "else", "enum", "extern",
  "false", "fn", "for", "gen", "if", "impl", "in", "let", "loop", "match", "mod", "move",
  "mut", "pub", "ref", "return", "static", "struct", "trait", "true", "type", "unsafe",
  "use", "where", "while", "abstract", "become", "box", "do", "final", "macro", "override",
  "priv", "try", "typeof", "unsized", "virtual", "yield"]

/-- Keywords that have no raw form. -/
def pathKeywords : List String := ["crate", "self", "Self", "super"]

/-- A name that a keyword or a leading digit makes illegal is marked at one end. -/
def identifier (name : String) : String :=
  if pathKeywords.contains name then name ++ "_"
  else if keywords.contains name then "r#" ++ name
  else if name.toList.head?.any Character.isNumeric then "_" ++ name
  else name

def fieldIdentifier (name : String) : String := identifier (Name.snake name)

def renderType : TargetType → String
  | .boolean => "bool"
  | .int32 => "i32"
  | .double => "f64"
  | .text => "String"
  | .named name => identifier name
  | .list element => "Vec<" ++ renderType element ++ ">"

/-- A field of a named type is boxed, so that types that contain each other have a finite size. -/
def boxedType : TargetType → String
  | .named name => "Box<" ++ renderType (.named name) ++ ">"
  | type => renderType type

def fieldType (field : Field) : String :=
  if field.required then boxedType field.type else "Option<" ++ boxedType field.type ++ ">"

def fieldLine (field : Field) : String :=
  "    pub " ++ fieldIdentifier field.identifier ++ ": " ++ fieldType field ++ ","

/-- Writes a unit line by line. The name of its module is used in snake case. -/
def writeUnit (moduleName : String) (imports : List String) (declaration : Declaration) :
    Writer Unit := do
  writeLine ("//! `" ++ declaration.name ++ "` in module `" ++ Name.snake moduleName
    ++ "`. Generated by openapi-codegen. Do not edit manually.")
  writeLine ""
  writeLine "#![allow(unused_imports)]"
  writeLine ""
  imports.forM fun name => writeLine ("use " ++ name ++ ";")
  writeLine ""
  writeLine "#[derive(Debug, Clone, PartialEq)]"
  writeLine ("pub struct " ++ identifier declaration.name ++ " \x7b")
  declaration.fields.forM fun field => writeLine (fieldLine field)
  writeLine "\x7d"

end SchemaDecls.Rust
