import SchemaDecls.Character.Alphanumeric
import SchemaDecls.Character.Case
import SchemaDecls.Text

/-! Type and property names: the runs of letters and digits of a text, each with its first
character in upper case, set side by side. -/
namespace SchemaDecls.Name

/-- The runs of letters and digits of a text, with empty runs between adjacent separators. -/
def pieces (text : List Char) : List (List Char) :=
  Text.segments (fun c => !Character.isAlphanumeric c) text

def capitalize : List Char → List Char
  | [] => []
  | c :: rest => Character.toUpper c ++ rest

def pascal (text : String) : String := String.ofList ((pieces text.toList).flatMap capitalize)

/-- A text without letters and digits names nothing. -/
def pascal? (text : String) : Option String :=
  if (pascal text).isEmpty then none else some (pascal text)

end SchemaDecls.Name
