import SchemaDecls.Name.Pascal
import SchemaDecls.Pointer
import SchemaDecls.TargetType

/-! Declarations: a named list of fields, and how the properties of a schema become fields. -/
namespace SchemaDecls

/-- One property of a generated type, under the key it has in the schema. -/
structure Field where
  key : String
  type : TargetType
  required : Bool
deriving DecidableEq, Repr

def Field.identifier (field : Field) : String := Name.pascal field.key

structure Declaration where
  name : String
  fields : List Field
deriving DecidableEq, Repr

namespace Declaration

def ofFields (name : String) (fields : List Field) : Declaration := ⟨Name.pascal name, fields⟩

/-- Whether some field is a list. -/
def usesLists (declaration : Declaration) : Bool :=
  declaration.fields.any fun field => field.type.isList

end Declaration

/-- The name of the type that an inline object used as array items declares. -/
def itemTypeName? (items : Schema) : Option String := items.title.bind Name.pascal?

def primitiveType (type : SchemaType) (path : String) : Except SchemaFailure TargetType :=
  type.target.mapError (SchemaFailure.mk path)

/-- The element type of an array. -/
def itemType (items : Option Schema) (path : String) : Except SchemaFailure TargetType :=
  match items with
  | none => .error ⟨path, .unsupportedItems⟩
  | some items =>
    match items.shape with
    | .primitive type => primitiveType type path
    | .reference reference =>
      match reference.label with
      | some label => .ok (.named (Name.pascal label))
      | none => .error ⟨path, .unsupportedItems⟩
    | .object =>
      match itemTypeName? items with
      | some name => .ok (.named name)
      | none => .error ⟨path, .missingItemTitle⟩
    | .array _ | .null | .absent | .other _ => .error ⟨path, .unsupportedItems⟩

/-- The type of the property `key`. -/
def propertyType (key : String) (property : Schema) (path : String) :
    Except SchemaFailure TargetType :=
  match property.shape with
  | .reference reference => .ok (.named (Name.pascal (reference.label.getD key)))
  | .primitive type => primitiveType type path
  | .object => .ok (.named (Name.pascal key))
  | .array items => (itemType items (Pointer.push path "items")).map .list
  | .null => .error ⟨path, .unsupportedType SchemaType.null.name⟩
  | .absent => .error ⟨path, .typeRequired⟩
  | .other name => .error ⟨path, .unknownType name⟩

/-- The field of the property `key`. The path addresses the property and serves reports only. -/
def Field.ofProperty (key : String) (property : Schema) (required : Bool) (path : String) :
    Except SchemaFailure Field :=
  if (Name.pascal key).isEmpty then .error ⟨path, .emptyIdentifier key⟩
  else (propertyType key property path).map fun type => ⟨key, type, required⟩

end SchemaDecls
