import SchemaDecls.Failure
import SchemaDecls.Schema

/-! Types of fields, before any language spells them. -/
namespace SchemaDecls

inductive TargetType where
  | boolean | int32 | double | text
  | named (name : String)
  | list (element : TargetType)
deriving DecidableEq, Repr

namespace TargetType

/-- The schema type that a primitive type stands for. -/
def primitive? : TargetType → Option SchemaType
  | .boolean => some .boolean
  | .int32 => some .integer
  | .double => some .number
  | .text => some .string
  | .named _ | .list _ => none

def isList : TargetType → Bool
  | .list _ => true
  | _ => false

end TargetType

namespace SchemaType

def isPrimitive : SchemaType → Bool
  | .boolean | .integer | .number | .string => true
  | _ => false

/-- The target of a primitive type, or what keeps the type from being one. -/
def target : SchemaType → Except Defect TargetType
  | .boolean => .ok .boolean
  | .integer => .ok .int32
  | .number => .ok .double
  | .string => .ok .text
  | .object => .error (.notPrimitive SchemaType.object.name)
  | .array => .error (.notPrimitive SchemaType.array.name)
  | .null => .error (.unsupportedType SchemaType.null.name)
  | .other name => .error (.unknownType name)

theorem primitive?_target (type : SchemaType) (target : TargetType)
    (mapped : type.target = .ok target) : target.primitive? = some type := by
  cases type <;> simp [SchemaType.target] at mapped <;> subst mapped <;> rfl

end SchemaType
end SchemaDecls
