import SchemaDecls.Compile
import SchemaDecls.Proofs.FieldType

/-!
The walk through an object schema and the objects written inline in it. One recursion serves every
use: what is noted on entering an object, at each of its properties after the objects inside it,
and on leaving the object.
-/
namespace SchemaDecls

/-- An object on the walk: the name it is walked under, and the path that addresses it. -/
structure Visit where
  name : String
  path : String
  object : Schema

namespace Visit
variable {α : Type}

def properties (visit : Visit) : List (String × Schema) := visit.object.properties.getD []

def propertyPath (visit : Visit) (key : String) : String :=
  Pointer.push (Pointer.push visit.path "properties") key

/-- The object written inline in a property: the property itself, walked under its key, or the
items of an array, walked under their normalized title. A reference is no inline object. -/
def inner? (key path : String) (property : Schema) : Option Visit :=
  match property.shape with
  | .object => some ⟨key, path, property⟩
  | .array (some items) =>
    if items.isInlineObject then
      (itemTypeName? items).map fun name => ⟨name, Pointer.push path "items", items⟩
    else none
  | _ => none

/-- The two ways in which a property holds an inline object. -/
theorem inner?_cases {key path : String} {property : Schema} {nested : Visit}
    (found : inner? key path property = some nested) :
    (property.type? = some .object ∧ property.reference = none ∧
      nested = ⟨key, path, property⟩) ∨
    (property.type? = some .array ∧ ∃ items name, property.items = some items ∧
      items.type? = some .object ∧ items.reference = none ∧ itemTypeName? items = some name ∧
      nested = ⟨name, Pointer.push path "items", items⟩) := by
  unfold inner? at found
  split at found
  · next inline =>
    obtain ⟨type, reference⟩ := property.shape_eq_object_iff.mp inline
    exact Or.inl ⟨type, reference, (Option.some.inj found).symm⟩
  · next items shape =>
    obtain ⟨type, written⟩ := (property.shape_eq_array_iff _).mp shape
    split at found
    · next inline =>
      obtain ⟨itemType, reference⟩ := items.isInlineObject_iff.mp inline
      obtain ⟨name, titled, same⟩ := Option.map_eq_some_iff.mp found
      exact Or.inr ⟨type, items, name, written, itemType, reference, titled, same.symm⟩
    · cases found
  · cases found

/-- What is walked inside a property is written in place, never behind a reference. -/
theorem inner?_inline {key path : String} {property : Schema} {nested : Visit}
    (found : inner? key path property = some nested) :
    nested.object.type? = some .object ∧ nested.object.reference = none := by
  rcases inner?_cases found with ⟨type, reference, rfl⟩ | ⟨_, _, _, _, type, reference, _, rfl⟩
  · exact ⟨type, reference⟩
  · exact ⟨type, reference⟩

theorem items_size {schema items : Schema} (written : schema.items = some items) :
    sizeOf items < sizeOf schema := by
  cases schema
  simp only at written
  subst written
  simp only [Schema.mk.sizeOf_spec, Option.some.sizeOf_spec]
  omega

theorem property_size {schema property : Schema} {key : String}
    (member : (key, property) ∈ schema.properties.getD []) : sizeOf property < sizeOf schema := by
  obtain ⟨type, properties, required, items, reference, title⟩ := schema
  cases properties with
  | none => simp at member
  | some properties =>
    have inside := List.sizeOf_lt_of_mem (Option.getD_some ▸ member)
    simp only [Schema.mk.sizeOf_spec, Option.some.sizeOf_spec, Prod.mk.sizeOf_spec] at inside ⊢
    omega

theorem inner?_size {visit nested : Visit} {key : String} {property : Schema}
    (member : (key, property) ∈ visit.properties)
    (found : inner? key (visit.propertyPath key) property = some nested) :
    sizeOf nested.object < sizeOf visit.object := by
  have smaller := property_size member
  rcases inner?_cases found with ⟨_, _, rfl⟩ | ⟨_, _, _, written, _, _, _, rfl⟩
  · exact smaller
  · exact Nat.lt_trans (items_size written) smaller

/-- What is noted on the walk: `enter` on entering an object, `check` at a property (its key, its
path and its schema) after the walk of the object inside it, `leave` on leaving. -/
def walk (enter : Visit → List α) (check : String → String → Schema → List α)
    (leave : Visit → List α) (visit : Visit) : List α :=
  enter visit
    ++ visit.properties.attach.flatMap (fun ⟨(key, property), _⟩ =>
      (match _found : inner? key (visit.propertyPath key) property with
        | some nested => walk enter check leave nested
        | none => [])
      ++ check key (visit.propertyPath key) property)
    ++ leave visit
termination_by sizeOf visit.object
decreasing_by exact inner?_size (by assumption) (by assumption)

/-- What is noted at one property of an object. -/
def propertyWalk (enter : Visit → List α) (check : String → String → Schema → List α)
    (leave : Visit → List α) (visit : Visit) (key : String) (property : Schema) : List α :=
  ((inner? key (visit.propertyPath key) property).elim [] (walk enter check leave))
    ++ check key (visit.propertyPath key) property

theorem walk_eq (enter : Visit → List α) (check : String → String → Schema → List α)
    (leave : Visit → List α) (visit : Visit) :
    walk enter check leave visit = enter visit
      ++ visit.properties.flatMap (fun entry => propertyWalk enter check leave visit entry.1 entry.2)
      ++ leave visit := by
  have noted : ∀ entry : { entry // entry ∈ visit.properties },
      (match _found : inner? entry.1.1 (visit.propertyPath entry.1.1) entry.1.2 with
        | some nested => walk enter check leave nested
        | none => [])
      ++ check entry.1.1 (visit.propertyPath entry.1.1) entry.1.2
        = propertyWalk enter check leave visit entry.1.1 entry.1.2 := by
    rintro ⟨⟨key, property⟩, _⟩
    simp only [propertyWalk]
    split <;> simp_all
  rw [walk]
  simp only [noted]
  conv => rhs; rw [← List.attach_map_subtype_val visit.properties, List.flatMap_map]

/-- Induction along the walk: what holds of an object when it holds of the objects written inline
in its properties holds of every object. -/
theorem walk_induction {motive : Visit → Prop}
    (step : ∀ visit, (∀ key property nested, (key, property) ∈ visit.properties →
      inner? key (visit.propertyPath key) property = some nested → motive nested) → motive visit)
    (visit : Visit) : motive visit := by
  induction size : sizeOf visit.object using Nat.strongRecOn generalizing visit with
  | ind bound ih =>
    refine step visit fun key property nested member found => ?_
    exact ih _ (size ▸ inner?_size member found) nested rfl

/-- The objects of the walk, each after the objects inside it. -/
def postOrder : Visit → List Visit :=
  walk (fun _ => []) (fun _ _ _ => []) (fun visit => [visit])

theorem postOrder_eq (visit : Visit) :
    visit.postOrder = visit.properties.flatMap (fun entry =>
      (inner? entry.1 (visit.propertyPath entry.1) entry.2).elim [] postOrder) ++ [visit] := by
  rw [postOrder, walk_eq]
  simp only [propertyWalk, List.append_nil, List.nil_append]

theorem self_mem_postOrder (visit : Visit) : visit ∈ visit.postOrder := by
  rw [postOrder_eq]
  simp

/-- An object written inline in a property of a walked object is walked. -/
theorem inner_mem_postOrder {root visit nested : Visit} {key : String} {property : Schema}
    (walked : visit ∈ root.postOrder) (member : (key, property) ∈ visit.properties)
    (found : inner? key (visit.propertyPath key) property = some nested) :
    nested ∈ root.postOrder := by
  induction root using walk_induction with
  | step root ih =>
    rw [postOrder_eq] at walked ⊢
    simp only [List.mem_append, List.mem_flatMap, List.mem_singleton] at walked ⊢
    rcases walked with ⟨⟨outerKey, outer⟩, inside, deeper⟩ | rfl
    · refine Or.inl ⟨(outerKey, outer), inside, ?_⟩
      cases entered : inner? outerKey (root.propertyPath outerKey) outer with
      | none => simp [entered] at deeper
      | some middle =>
        simp only [entered, Option.elim_some] at deeper ⊢
        exact ih outerKey outer middle inside entered deeper
    · refine Or.inl ⟨(key, property), member, ?_⟩
      rw [found]
      exact self_mem_postOrder nested

/-- What a schema hands down to its properties and its items holds of every object of the walk. -/
theorem postOrder_hereditary {holds : Schema → Prop}
    (properties : ∀ schema key property, holds schema →
      (key, property) ∈ schema.properties.getD [] → holds property)
    (items : ∀ schema items, holds schema → schema.items = some items → holds items)
    {root visit : Visit} (start : holds root.object) (walked : visit ∈ root.postOrder) :
    holds visit.object := by
  induction root using walk_induction with
  | step root ih =>
    rw [postOrder_eq, List.mem_append, List.mem_flatMap, List.mem_singleton] at walked
    rcases walked with ⟨⟨key, property⟩, member, deeper⟩ | rfl
    · cases found : inner? key (root.propertyPath key) property with
      | none => simp [found] at deeper
      | some nested =>
        simp only [found, Option.elim_some] at deeper
        have here := properties root.object key property start member
        refine ih key property nested member found ?_ deeper
        rcases inner?_cases found with ⟨_, _, rfl⟩ | ⟨_, _, _, written, _, _, _, rfl⟩
        · exact here
        · exact items property _ here written
    · exact start

/-- All objects of the walk before the last, its root, are written in place. -/
theorem postOrder_dropLast_inline {root visit : Visit} (walked : visit ∈ root.postOrder.dropLast) :
    visit.object.type? = some .object ∧ visit.object.reference = none := by
  induction root using walk_induction with
  | step root ih =>
    rw [postOrder_eq, List.dropLast_concat, List.mem_flatMap] at walked
    obtain ⟨⟨key, property⟩, member, deeper⟩ := walked
    cases found : inner? key (root.propertyPath key) property with
    | none => simp [found] at deeper
    | some nested =>
      simp only [found, Option.elim_some] at deeper
      rw [postOrder_eq, List.mem_append, List.mem_singleton] at deeper
      rcases deeper with inside | rfl
      · exact ih key property nested member found (by rwa [postOrder_eq, List.dropLast_concat])
      · exact inner?_inline found

end Visit
end SchemaDecls
