import SchemaDecls.Members

/-! Schemas: the keywords of a schema that declarations are made from. -/
namespace SchemaDecls

/-- The `type` keyword. A name outside the seven known ones is kept as it is written. -/
inductive SchemaType where
  | object | array | string | number | integer | boolean | null
  | other (name : String)
deriving DecidableEq, Repr

namespace SchemaType

def ofName (name : String) : SchemaType :=
  if name = "object" then .object
  else if name = "array" then .array
  else if name = "string" then .string
  else if name = "number" then .number
  else if name = "integer" then .integer
  else if name = "boolean" then .boolean
  else if name = "null" then .null
  else .other name

def name : SchemaType → String
  | .object => "object"
  | .array => "array"
  | .string => "string"
  | .number => "number"
  | .integer => "integer"
  | .boolean => "boolean"
  | .null => "null"
  | .other name => name

theorem name_ofName (text : String) : (ofName text).name = text := by
  unfold ofName
  repeat' split
  all_goals simp_all [name]

end SchemaType

/-- A reference to a named schema: the name it resolves to, and the locator as written. -/
structure Reference where
  id : Option String
  locator : Option String
deriving DecidableEq, Repr

/-- The text that a reference gives its type's name: the name it resolves to, else its locator. -/
def Reference.label (reference : Reference) : Option String := reference.id <|> reference.locator

/-- A schema. One that stands for a reference carries the type, title and items of its target and
never the target's properties. -/
structure Schema where
  type? : Option SchemaType
  properties : Option (List (String × Schema))
  required : Option (List String)
  items : Option Schema
  reference : Option Reference
  title : Option String
deriving Repr

namespace Schema

def empty : Schema := ⟨none, none, none, none, none, none⟩

/-- What a schema is to declarations. -/
inductive Shape where
  | reference (reference : Reference)
  | primitive (type : SchemaType)
  | object
  | array (items : Option Schema)
  | null
  | absent
  | other (name : String)

/-- A reference to an object is a reference; any other reference is what its target is. -/
def shape (schema : Schema) : Shape :=
  match schema.type? with
  | none => .absent
  | some .object =>
    match schema.reference with
    | some reference => .reference reference
    | none => .object
  | some .array => .array schema.items
  | some .null => .null
  | some (.other name) => .other name
  | some type => .primitive type

def isInlineObject (schema : Schema) : Bool :=
  match schema.shape with
  | .object => true
  | _ => false

/-- Whether the schema lists `key` as required; keys are compared exactly. -/
def requires (schema : Schema) (key : String) : Bool :=
  match schema.required with
  | some keys => keys.contains key
  | none => false

/-- The required keys in ascending order, each once. -/
def requiredKeys (schema : Schema) : Option (List String) :=
  schema.required.map fun keys => (keys.mergeSort (fun a b => decide (a ≤ b))).eraseDups

def ofType (type : SchemaType) : Schema := { empty with type? := some type }

def object (properties : List (String × Schema)) : Schema :=
  { ofType .object with properties := some (Members.ofPairs properties) }

def array (items : Schema) : Schema := { ofType .array with items := some items }

/-- A reference to the object schema `id` of the document's own schema table. -/
def objectRef (id : String) : Schema :=
  { ofType .object with reference := some ⟨some id, some ("#/components/schemas/" ++ id)⟩ }

def withRequired (schema : Schema) (keys : List String) : Schema :=
  { schema with required := some keys }

def withTitle (schema : Schema) (title : String) : Schema := { schema with title := some title }

end Schema

/-- A document: its title and its table of named schemas, in the order written. -/
structure Document where
  title : Option String
  schemas : Option (List (String × Schema))

end SchemaDecls
