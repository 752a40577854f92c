import SchemaDecls.Proofs.Declares

/-!
One object compiled in two places. The path serves reports only: below a further path the same
object makes the same declarations, or fails with that path in front of the one reported. The name
serves the object's own declaration only: under another name the object gives the same declarations
with its own renamed.
-/
namespace SchemaDecls

/-- The same failure, its path read from further out. -/
def SchemaFailure.below (root : String) (failure : SchemaFailure) : SchemaFailure :=
  { failure with path := root ++ failure.path }

/-- A run whose report has `root` in front of its path. -/
def reportedBelow {α : Type} (root : String) (run : Except SchemaFailure α) :
    Except SchemaFailure α :=
  run.mapError (SchemaFailure.below root)

theorem push_below (root path segment : String) :
    Pointer.push (root ++ path) segment = root ++ Pointer.push path segment := by
  simp only [Pointer.push, String.append_assoc]

section Reports
variable {α β : Type} (root : String)

theorem reportedBelow_bind (run : Except SchemaFailure α) (next : α → Except SchemaFailure β) :
    reportedBelow root (run >>= next)
      = reportedBelow root run >>= fun value => reportedBelow root (next value) := by
  cases run <;> rfl

theorem reportedBelow_map (change : α → β) (run : Except SchemaFailure α) :
    reportedBelow root (run.map change) = (reportedBelow root run).map change := by
  cases run <;> rfl

theorem primitiveType_below (type : SchemaType) (path : String) :
    primitiveType type (root ++ path) = reportedBelow root (primitiveType type path) := by
  unfold primitiveType
  cases type.target <;> rfl

theorem itemType_below (items : Option Schema) (path : String) :
    itemType items (root ++ path) = reportedBelow root (itemType items path) := by
  cases items with
  | none => rfl
  | some items =>
    simp only [itemType]
    cases items.shape with
    | primitive type => exact primitiveType_below root type path
    | reference reference =>
      simp only
      cases reference.label <;> rfl
    | object =>
      simp only
      cases itemTypeName? items <;> rfl
    | _ => rfl

theorem propertyType_below (key : String) (property : Schema) (path : String) :
    propertyType key property (root ++ path)
      = reportedBelow root (propertyType key property path) := by
  unfold propertyType
  cases property.shape with
  | primitive type => exact primitiveType_below root type path
  | array items =>
    simp only
    rw [push_below, itemType_below, reportedBelow_map]
  | _ => rfl

theorem field_below (key : String) (property : Schema) (required : Bool) (path : String) :
    Field.ofProperty key property required (root ++ path)
      = reportedBelow root (Field.ofProperty key property required path) := by
  unfold Field.ofProperty
  split
  · rfl
  · rw [propertyType_below, reportedBelow_map]

namespace Visit

/-- The same object, its path read from further out. -/
def below (visit : Visit) : Visit := { visit with path := root ++ visit.path }

theorem propertyPath_below (visit : Visit) (key : String) :
    (visit.below root).propertyPath key = root ++ visit.propertyPath key := by
  simp only [propertyPath, below, push_below]

theorem inner?_below (key path : String) (property : Schema) :
    inner? key (root ++ path) property = (inner? key path property).map (below root) := by
  unfold inner?
  split
  · rfl
  · split
    · simp only [Option.map_map, push_below]
      rfl
    · rfl
  · rfl

end Visit

theorem propertyDeclarations_below (required : List String) (visit : Visit)
    (entries : List (String × Schema))
    (inside : ∀ key property nested, (key, property) ∈ entries →
      Visit.inner? key (visit.propertyPath key) property = some nested →
      objectDeclarations nested.name (root ++ nested.path) nested.object
        = reportedBelow root (objectDeclarations nested.name nested.path nested.object)) :
    propertyDeclarations required (root ++ visit.path) entries
      = reportedBelow root (propertyDeclarations required visit.path entries) := by
  induction entries with
  | nil => rfl
  | cons entry rest ih =>
    obtain ⟨key, property⟩ := entry
    have later := ih fun key property nested member => inside key property nested (by simp [member])
    have nested : visitDeclarations
          (Visit.inner? key (root ++ visit.propertyPath key) property)
        = reportedBelow root
          (visitDeclarations (Visit.inner? key (visit.propertyPath key) property)) := by
      rw [Visit.inner?_below]
      cases found : Visit.inner? key (visit.propertyPath key) property with
      | none => rfl
      | some nested => exact inside key property nested (by simp) found
    have outer := propertyDeclarations_cons required (visit.below root) key property rest
    rw [Visit.propertyPath_below, nested, field_below] at outer
    rw [propertyDeclarations_cons, reportedBelow_bind]
    simp only [reportedBelow_bind]
    rw [← later]
    exact outer

/-- Below a further path an object compiles the same, but for the path of a report. -/
theorem objectDeclarations_below (visit : Visit) :
    objectDeclarations visit.name (root ++ visit.path) visit.object
      = reportedBelow root (objectDeclarations visit.name visit.path visit.object) := by
  induction visit using Visit.walk_induction with
  | step visit ih =>
    have properties := propertyDeclarations_below root (visit.object.required.getD []) visit
      visit.properties ih
    rw [objectDeclarations_eq visit, objectDeclarations_eq { visit with path := root ++ visit.path }]
    by_cases empty : (Name.pascal visit.name).isEmpty
    · simp only [empty, ↓reduceIte]
      rfl
    · simp only [empty, Bool.false_eq_true, ↓reduceIte, reportedBelow_map]
      rw [← properties]
      rfl

end Reports

/-- What a run comes to, apart from the path of its report. -/
def outcome {α : Type} (run : Except SchemaFailure α) : Except Defect α :=
  run.mapError SchemaFailure.defect

theorem outcome_eq_ok_iff {α : Type} (run : Except SchemaFailure α) (value : α) :
    outcome run = .ok value ↔ run = .ok value :=
  mapError_eq_ok_iff

theorem outcome_reportedBelow {α : Type} (root : String) (run : Except SchemaFailure α) :
    outcome (reportedBelow root run) = outcome run := by
  cases run <;> rfl

/-- The path of an object decides nothing but the path of a report. -/
theorem objectDeclarations_outcome (visit : Visit) (elsewhere : String) :
    outcome (objectDeclarations visit.name elsewhere visit.object)
      = outcome (objectDeclarations visit.name visit.path visit.object) := by
  have fromRoot : ∀ path, outcome (objectDeclarations visit.name path visit.object)
      = outcome (objectDeclarations visit.name "" visit.object) := by
    intro path
    have moved := objectDeclarations_below path ⟨visit.name, "", visit.object⟩
    rw [String.append_empty] at moved
    rw [moved, outcome_reportedBelow]
  rw [fromRoot elsewhere, fromRoot visit.path]

/-- The declarations of an object, the last of them its own, with that one under another name. -/
def ownRenamed (name : String) (declarations : List Declaration) : List Declaration :=
  declarations.dropLast
    ++ (declarations.getLast?.map fun own => Declaration.ofFields name own.fields).toList

theorem ownRenamed_concat (name : String) (inner : List Declaration) (own : Declaration) :
    ownRenamed name (inner ++ [own]) = inner ++ [Declaration.ofFields name own.fields] := by
  simp [ownRenamed]

/-- An object that compiles under one name compiles under every name that makes an identifier. -/
theorem objectDeclarations_renamed {name path : String} {object : Schema}
    {declarations : List Declaration}
    (compiled : objectDeclarations name path object = .ok declarations)
    {other : String} (usable : Name.pascal other ≠ "") (elsewhere : String) :
    objectDeclarations other elsewhere object = .ok (ownRenamed other declarations) := by
  rw [← outcome_eq_ok_iff,
    objectDeclarations_outcome ⟨other, path, object⟩ elsewhere, outcome_eq_ok_iff]
  rw [objectDeclarations_eq ⟨name, path, object⟩] at compiled
  rw [objectDeclarations_eq ⟨other, path, object⟩]
  simp only [String.isEmpty_iff, usable, ↓reduceIte]
  split at compiled
  · cases compiled
  · simp only [Visit.properties] at compiled ⊢
    cases run : propertyDeclarations (object.required.getD []) path (object.properties.getD []) with
    | error failure => simp [run, Except.map] at compiled
    | ok made =>
      simp only [run, Except.map, Except.ok.injEq] at compiled ⊢
      rw [← compiled, ownRenamed_concat]
      rfl

end SchemaDecls
