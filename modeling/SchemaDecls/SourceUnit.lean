import SchemaDecls.Language

/-! Units: complete source texts of one declaration each. -/
namespace SchemaDecls

/-- A generated source text, kept in a file of its own. -/
structure SourceUnit where
  name : String
  source : String
deriving DecidableEq, Repr

namespace SourceUnit

def fileName (unit : SourceUnit) (language : Language) : String :=
  unit.name ++ ".g." ++ language.fileExtension

/-- The imports a declaration needs: the base import, and the one for lists where a field is one. -/
def imports (declaration : Declaration) (language : Language) : List String :=
  language.baseImport :: (if declaration.usesLists then [language.collectionImport] else [])

/-- Writes the unit of a declaration in the module that `moduleName` normalizes to. -/
def build (moduleName : String) (declaration : Declaration) (language : Language) :
    Except WriterFault SourceUnit := do
  let ((), source) ← (language.writeUnit (Name.pascal moduleName) (imports declaration language)
    declaration).run ""
  return ⟨declaration.name, source⟩

end SourceUnit
end SchemaDecls
