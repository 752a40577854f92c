import SchemaDecls.Schema

/-! Documents as written: schemas whose references are not resolved yet. -/
namespace SchemaDecls

/-- The `type` keyword: one name, or a list of names. -/
inductive TypeKeyword where
  | one (name : String)
  | several (names : List String)
deriving DecidableEq, Repr

/-- A list of one name means that name; any other list is no known type. -/
def TypeKeyword.schemaType : TypeKeyword → SchemaType
  | .one name | .several [name] => SchemaType.ofName name
  | .several names => .other (String.intercalate "|" names)

structure WrittenSchema where
  reference : Option String
  type? : Option TypeKeyword
  title : Option String
  properties : Option (List (String × WrittenSchema))
  required : Option (List String)
  items : Option WrittenSchema
deriving Repr

def WrittenSchema.empty : WrittenSchema := ⟨none, none, none, none, none, none⟩

structure WrittenDocument where
  title : Option String
  schemas : Option (Members WrittenSchema)
  definitions : Option (Members WrittenSchema)

namespace WrittenDocument

def empty : WrittenDocument := ⟨none, none, none⟩

/-- The schema table: `components.schemas`, else `definitions`. -/
def table (document : WrittenDocument) : Option (Members WrittenSchema) :=
  document.schemas <|> document.definitions

end WrittenDocument

/-- The keywords of a schema, in the order they are declared. -/
inductive SchemaKey where
  | reference | type | title | properties | required | items
deriving DecidableEq, Repr

def SchemaKey.name : SchemaKey → String
  | .reference => "$ref"
  | .type => "type"
  | .title => "title"
  | .properties => "properties"
  | .required => "required"
  | .items => "items"

def SchemaKey.all : List SchemaKey := [.reference, .type, .title, .properties, .required, .items]

/-- The members of a document, in the order they are declared. -/
inductive DocumentKey where
  | info | components | definitions
deriving DecidableEq, Repr

def DocumentKey.name : DocumentKey → String
  | .info => "info"
  | .components => "components"
  | .definitions => "definitions"

def DocumentKey.all : List DocumentKey := [.info, .components, .definitions]

/-- The key among `keys` whose name is `text`. -/
def keyNamed? (name : κ → String) (keys : List κ) (text : String) : Option κ :=
  keys.find? fun key => name key == text

end SchemaDecls
