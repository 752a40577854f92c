import SchemaDecls.Failure
import SchemaDecls.Path

/-! The formats a document may be written in. -/
namespace SchemaDecls

inductive DocumentFormat where
  | json | yaml
deriving DecidableEq, Repr

namespace DocumentFormat

def ofExtension? (extension : String) : Option DocumentFormat :=
  match String.ofList (extension.toList.map Char.toLower) with
  | "json" => some .json
  | "yaml" | "yml" => some .yaml
  | _ => none

/-- The format that the extension of a path announces; ASCII letters may be of either case. -/
def ofPath? (path : String) : Option DocumentFormat := (Path.extension? path).bind ofExtension?

def ofPath (path : String) : Except Failure DocumentFormat :=
  match ofPath? path with
  | some format => .ok format
  | none => .error (.unsupportedFormat path)

end DocumentFormat
end SchemaDecls
