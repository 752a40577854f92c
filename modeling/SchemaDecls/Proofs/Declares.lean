import SchemaDecls.Proofs.Checkpoint
import SchemaDecls.Proofs.Declarations

/-!
The run of the compiler against the walk. A run over an object answers the checkpoints of its walk,
and its declarations are those of the objects of the walk, one for each, inner objects first.
-/
namespace SchemaDecls

/-- The field of one property of `object`. -/
structure FieldOf (object : Schema) (entry : String × Schema) (field : Field) : Prop where
  key : field.key = entry.1
  type : HasType entry.1 entry.2 field.type
  required : field.required = true ↔ ∃ keys, object.required = some keys ∧ entry.1 ∈ keys

/-- The declaration of one object of the walk: its fields are its properties, in their order. -/
structure Declares (visit : Visit) (declaration : Declaration) : Prop where
  name : declaration.name = Name.pascal visit.name
  fields : List.Forall₂ (FieldOf visit.object) visit.properties declaration.fields

/-- Every object of a walk has its declaration in its place. -/
theorem declaration_of_mem {visits : List Visit} {declarations : List Declaration}
    (declared : List.Forall₂ Declares visits declarations) {visit : Visit} (walked : visit ∈ visits) :
    ∃ declaration, (visit, declaration) ∈ visits.zip declarations ∧ Declares visit declaration := by
  induction declared with
  | nil => simp at walked
  | cons first _ ih =>
    rcases List.mem_cons.mp walked with rfl | later
    · exact ⟨_, by simp, first⟩
    · obtain ⟨declaration, paired, declares⟩ := ih later
      exact ⟨declaration, by simp [paired], declares⟩

/-- Every declaration of a walk is made of one of its objects. -/
theorem visit_of_mem {visits : List Visit} {declarations : List Declaration}
    (declared : List.Forall₂ Declares visits declarations) {declaration : Declaration}
    (made : declaration ∈ declarations) : ∃ visit ∈ visits, Declares visit declaration := by
  induction declared with
  | nil => simp at made
  | cons first _ ih =>
    rcases List.mem_cons.mp made with rfl | later
    · exact ⟨_, by simp, first⟩
    · obtain ⟨visit, walked, declares⟩ := ih later
      exact ⟨visit, by simp [walked], declares⟩

/-- The declarations of a walk that may have nothing to visit. -/
def visitDeclarations : Option Visit → Except SchemaFailure (List Declaration)
  | some visit => objectDeclarations visit.name visit.path visit.object
  | none => .ok []

theorem objectDeclarations_eq (visit : Visit) :
    objectDeclarations visit.name visit.path visit.object =
      if (Name.pascal visit.name).isEmpty then .error ⟨visit.path, .emptyIdentifier visit.name⟩
      else (propertyDeclarations (visit.object.required.getD []) visit.path visit.properties).map
        fun (inner, fields) => inner ++ [Declaration.ofFields visit.name fields] := by
  obtain ⟨name, path, type, properties, required, items, reference, title⟩ := visit
  cases properties with
  | none =>
    simp only [objectDeclarations, Visit.properties, Option.getD_none, propertyDeclarations]
    split <;> rfl
  | some properties =>
    simp only [objectDeclarations, Visit.properties, Option.getD_some]
    split
    · rfl
    · cases propertyDeclarations (required.getD []) path properties <;> rfl

/-- The object written inline in a property is the one that the walk enters there. -/
theorem inlineObject_eq (key path : String) (property : Schema) :
    inlineObject objectDeclarations key path property
      = visitDeclarations (Visit.inner? key path property) := by
  obtain ⟨type?, properties, required, items?, reference, title⟩ := property
  cases type? with
  | none => rfl
  | some type =>
    cases type with
    | object => cases reference <;> rfl
    | array =>
      cases items? with
      | none => rfl
      | some items =>
        simp only [inlineObject, Visit.inner?, Schema.shape]
        split
        · next inline => exact absurd inline Bool.false_ne_true
        · split
          · cases itemTypeName? items <;> rfl
          · rfl
    | _ => rfl

theorem propertyDeclarations_cons (required : List String) (visit : Visit) (key : String)
    (property : Schema) (rest : List (String × Schema)) :
    propertyDeclarations required visit.path ((key, property) :: rest) = (do
      let inner ← visitDeclarations (Visit.inner? key (visit.propertyPath key) property)
      let field ← Field.ofProperty key property (required.contains key) (visit.propertyPath key)
      let (later, fields) ← propertyDeclarations required visit.path rest
      return (inner ++ later, field :: fields)) := by
  rw [propertyDeclarations_entry]
  simp only [inlineObject_eq]
  rfl

theorem fieldOf_answers (object : Schema) (key path : String) (property : Schema) :
    Answers [.identifier key path, .type property path] (FieldOf object (key, property))
      (Field.ofProperty key property ((object.required.getD []).contains key) path) := by
  by_cases empty : Name.pascal key = ""
  · simp only [Field.ofProperty, String.isEmpty_iff, empty, ↓reduceIte]
    exact .error (.here (.identifier empty))
  · have usable := (Checkpoint.identifier_sound_iff key path).mpr empty
    simp only [Field.ofProperty, String.isEmpty_iff, empty, ↓reduceIte]
    cases found : propertyType key property path with
    | error failure =>
      have fault := (propertyType_eq_error_iff key property path failure).mp found
      exact .error (.later usable (.here (.type fault)))
    | ok type =>
      have sound : (Checkpoint.type property path).Sound := by
        rintro failure (_ | fault)
        have reported := (propertyType_eq_error_iff key property path failure).mpr fault
        exact absurd (found.symm.trans reported) (by simp)
      have typed := (propertyType_eq_ok_iff key property path type).mp found
      refine .ok (by simp [usable, sound]) ⟨rfl, typed, ?_⟩
      cases object.required <;> simp

theorem visitDeclarations_answers (visit? : Option Visit)
    (visited : ∀ visit, visit? = some visit →
      Answers visit.checkpoints (List.Forall₂ Declares visit.postOrder)
        (objectDeclarations visit.name visit.path visit.object)) :
    Answers (visit?.elim [] Visit.checkpoints)
      (List.Forall₂ Declares (visit?.elim [] Visit.postOrder)) (visitDeclarations visit?) := by
  cases visit? with
  | none => exact answers_pure .nil
  | some visit => exact visited visit rfl

theorem propertyDeclarations_answers (visit : Visit) (entries : List (String × Schema))
    (inside : ∀ key property nested, (key, property) ∈ entries →
      Visit.inner? key (visit.propertyPath key) property = some nested →
      Answers nested.checkpoints (List.Forall₂ Declares nested.postOrder)
        (objectDeclarations nested.name nested.path nested.object)) :
    Answers
      (entries.flatMap fun entry =>
        (Visit.inner? entry.1 (visit.propertyPath entry.1) entry.2).elim [] Visit.checkpoints
          ++ [Checkpoint.identifier entry.1 (visit.propertyPath entry.1),
            Checkpoint.type entry.2 (visit.propertyPath entry.1)])
      (fun result => List.Forall₂ Declares
          (entries.flatMap fun entry =>
            (Visit.inner? entry.1 (visit.propertyPath entry.1) entry.2).elim [] Visit.postOrder)
          result.1
        ∧ List.Forall₂ (FieldOf visit.object) entries result.2)
      (propertyDeclarations (visit.object.required.getD []) visit.path entries) := by
  induction entries with
  | nil => exact answers_pure ⟨.nil, .nil⟩
  | cons entry rest ih =>
    obtain ⟨key, property⟩ := entry
    have nested := visitDeclarations_answers _ fun nested found =>
      inside key property nested (by simp) found
    have later := ih fun key property nested member => inside key property nested (by simp [member])
    rw [propertyDeclarations_cons]
    simp only [List.flatMap_cons, List.append_assoc]
    refine answers_bind nested fun inner declared => ?_
    refine answers_bind (fieldOf_answers visit.object key _ property) fun field built => ?_
    -- What follows the last run is pure and has no checkpoints of its own.
    rw [← List.append_nil (List.flatMap _ rest)]
    refine answers_bind later fun result collected => ?_
    exact answers_pure ⟨List.rel_append declared collected.1, .cons built collected.2⟩

/-- A run over an object answers the checkpoints of its walk with the declarations of the walk. -/
theorem objectDeclarations_answers (visit : Visit) :
    Answers visit.checkpoints (List.Forall₂ Declares visit.postOrder)
      (objectDeclarations visit.name visit.path visit.object) := by
  induction visit using Visit.walk_induction with
  | step visit ih =>
    rw [objectDeclarations_eq, Visit.checkpoints_eq, Visit.postOrder_eq]
    by_cases empty : Name.pascal visit.name = ""
    · simp only [String.isEmpty_iff, empty, ↓reduceIte]
      exact .error (.here (.identifier empty))
    · simp only [String.isEmpty_iff, empty, ↓reduceIte]
      have usable := (Checkpoint.identifier_sound_iff visit.name visit.path).mpr empty
      have run := propertyDeclarations_answers visit visit.properties ih
      generalize propertyDeclarations _ _ _ = result at run ⊢
      cases run with
      | error fault => exact .error (.later usable fault)
      | ok sound collected =>
        refine .ok (by simpa [usable] using sound) ?_
        exact List.rel_append collected.1 (.cons ⟨rfl, collected.2⟩ .nil)

end SchemaDecls
