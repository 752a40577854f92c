import SchemaDecls.SourceUnit

/-! From schemas to units: every object schema declares a type, and so does every object written
inline in one of its properties. Inner units come before the one that contains them. -/
namespace SchemaDecls

mutual

/-- The units of the object schema `name`, those of its inline objects first. Any other schema has
none. -/
def compileAt (moduleName : String) (language : Language) (name path : String) :
    Schema → Except CompileFailure (List SourceUnit)
  | ⟨type?, properties, required, _, _, _⟩ =>
    if type? ≠ some .object then .ok []
    else if (Name.pascal name).isEmpty then .error (.schema ⟨path, .emptyIdentifier name⟩)
    else do
      let (units, fields) ← (match properties with
        | none => .ok ([], [])
        | some properties =>
          compileProperties moduleName language (required.getD []) path properties)
      let unit ← (SourceUnit.build moduleName (Declaration.ofFields name fields) language).mapError
        .rendering
      return units ++ [unit]

/-- The units made inline in a list of properties, and the fields of the properties. -/
def compileProperties (moduleName : String) (language : Language) (required : List String)
    (path : String) :
    List (String × Schema) → Except CompileFailure (List SourceUnit × List Field)
  | [] => .ok ([], [])
  | (key, property) :: rest => do
    let here := Pointer.push (Pointer.push path "properties") key
    let inner ← (if property.isInlineObject then compileAt moduleName language key here property
      else
        match property with
        | ⟨some .array, _, _, some items, _, _⟩ =>
          if items.isInlineObject then
            match itemTypeName? items with
            | some name => compileAt moduleName language name (Pointer.push here "items") items
            | none => .ok []
          else .ok []
        | _ => .ok [])
    let field ← (Field.ofProperty key property (required.contains key) here).mapError .schema
    let (later, fields) ← compileProperties moduleName language required path rest
    return (inner ++ later, field :: fields)

end

/-- The units of a named schema on its own. -/
def compileSchema (name : String) (schema : Schema) (moduleName : String) (settings : Settings) :
    Except CompileFailure (List SourceUnit) :=
  compileAt moduleName settings.language name (Pointer.push "" name) schema

namespace Document

/-- The title names the module unless it has no letters and digits. -/
def moduleName (document : Document) (settings : Settings) : String :=
  match document.title with
  | some title => if (Name.pascal title).isEmpty then settings.defaultNamespace else title
  | none => settings.defaultNamespace

/-- The units of a table's entries, in the order of the table. An entry that is still a reference has
none. -/
def compileTable (moduleName : String) (language : Language) :
    List (String × Schema) → Except CompileFailure (List SourceUnit)
  | [] => .ok []
  | (name, schema) :: rest => do
    let first ← (if schema.reference.isSome then .ok []
      else compileAt moduleName language name (Pointer.push "/components/schemas" name) schema)
    let others ← compileTable moduleName language rest
    return first ++ others

def compile (document : Document) (settings : Settings) : Except CompileFailure (List SourceUnit) :=
  match document.schemas with
  | none => .error .tableMissing
  | some table => compileTable (document.moduleName settings) settings.language table

end Document
end SchemaDecls
