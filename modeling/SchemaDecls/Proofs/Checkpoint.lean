import Mathlib.Data.List.Forall2
import SchemaDecls.Proofs.Walk

/-!
What the compiler looks at on its walk, in order, and what it may find there. A run answers a list
of checkpoints when it reports the first fault among them, or there is none and it has its result.
Answers compose: a run after a run answers the checkpoints of both.
-/
namespace SchemaDecls

/-- A point of the walk where the compiler may stop: a text that has to make an identifier, or a
property that has to have a type. -/
inductive Checkpoint where
  | identifier (text path : String)
  | type (property : Schema) (path : String)

namespace Checkpoint

inductive Fault : Checkpoint → SchemaFailure → Prop where
  | identifier {text path : String} (empty : Name.pascal text = "") :
      Fault (.identifier text path) ⟨path, .emptyIdentifier text⟩
  | type {property : Schema} {path : String} {failure : SchemaFailure}
      (fault : TypeFault property path failure) : Fault (.type property path) failure

def Sound (checkpoint : Checkpoint) : Prop := ∀ failure, ¬ checkpoint.Fault failure

theorem identifier_sound_iff (text path : String) :
    (identifier text path).Sound ↔ Name.pascal text ≠ "" := by
  constructor
  · intro sound empty
    exact sound _ (.identifier empty)
  · rintro usable failure (⟨empty⟩ | _)
    exact usable empty

theorem fault_unique {checkpoint : Checkpoint} {first second : SchemaFailure}
    (one : checkpoint.Fault first) (other : checkpoint.Fault second) : first = second := by
  cases one with
  | identifier _ => cases other; rfl
  | @type property path _ fault =>
    cases other with
    | type again =>
      have reported := (propertyType_eq_error_iff "" property path _).mpr fault
      have repeated := (propertyType_eq_error_iff "" property path _).mpr again
      exact Except.error.inj (reported.symm.trans repeated)

end Checkpoint

/-- The fault at the first checkpoint that has one. -/
inductive FirstFault : List Checkpoint → SchemaFailure → Prop where
  | here {checkpoint : Checkpoint} {rest : List Checkpoint} {failure : SchemaFailure}
      (fault : checkpoint.Fault failure) : FirstFault (checkpoint :: rest) failure
  | later {checkpoint : Checkpoint} {rest : List Checkpoint} {failure : SchemaFailure}
      (sound : checkpoint.Sound) (tail : FirstFault rest failure) :
      FirstFault (checkpoint :: rest) failure

theorem firstFault_append_left {before : List Checkpoint} {failure : SchemaFailure}
    (first : FirstFault before failure) (after : List Checkpoint) :
    FirstFault (before ++ after) failure := by
  induction first with
  | here fault => exact .here fault
  | later sound _ ih => exact .later sound ih

theorem firstFault_append_right {before after : List Checkpoint} {failure : SchemaFailure}
    (sound : ∀ checkpoint ∈ before, checkpoint.Sound) (first : FirstFault after failure) :
    FirstFault (before ++ after) failure := by
  induction before with
  | nil => exact first
  | cons checkpoint before ih =>
    exact .later (sound checkpoint (by simp)) (ih fun c member => sound c (by simp [member]))

theorem firstFault_member {checkpoints : List Checkpoint} {failure : SchemaFailure}
    (first : FirstFault checkpoints failure) :
    ∃ checkpoint ∈ checkpoints, checkpoint.Fault failure := by
  induction first with
  | here fault => exact ⟨_, by simp, fault⟩
  | later _ _ ih =>
    obtain ⟨checkpoint, member, fault⟩ := ih
    exact ⟨checkpoint, by simp [member], fault⟩

theorem firstFault_unique {checkpoints : List Checkpoint} {one other : SchemaFailure}
    (first : FirstFault checkpoints one) (second : FirstFault checkpoints other) : one = other := by
  induction first with
  | here fault =>
    cases second with
    | here again => exact Checkpoint.fault_unique fault again
    | later sound _ => exact absurd fault (sound _)
  | later sound _ ih =>
    cases second with
    | here fault => exact absurd fault (sound _)
    | later _ tail => exact ih tail

/-- A run answers checkpoints: it reports the first fault among them, or all of them are sound and
its value is `good`. -/
inductive Answers {α : Type} (checkpoints : List Checkpoint) (good : α → Prop) :
    Except SchemaFailure α → Prop where
  | ok {value : α} (sound : ∀ checkpoint ∈ checkpoints, checkpoint.Sound) (holds : good value) :
      Answers checkpoints good (.ok value)
  | error {failure : SchemaFailure} (first : FirstFault checkpoints failure) :
      Answers checkpoints good (.error failure)

section Answers
variable {α β : Type} {checkpoints before after : List Checkpoint}
  {good : α → Prop} {better : β → Prop} {run : Except SchemaFailure α}

theorem answers_pure {value : α} (holds : good value) : Answers [] good (.ok value) :=
  .ok (by simp) holds

theorem answers_bind {next : α → Except SchemaFailure β} (first : Answers before good run)
    (second : ∀ value, good value → Answers after better (next value)) :
    Answers (before ++ after) better (run >>= next) := by
  cases first with
  | error fault => exact .error (firstFault_append_left fault after)
  | @ok value sound holds =>
    have continued := second value holds
    simp only [bind, Except.bind]
    generalize next value = final at continued ⊢
    cases continued with
    | error fault => exact .error (firstFault_append_right sound fault)
    | ok later result =>
      refine .ok (fun checkpoint member => ?_) result
      rcases List.mem_append.mp member with early | late
      · exact sound checkpoint early
      · exact later checkpoint late

theorem answers_error_iff (answer : Answers checkpoints good run) (failure : SchemaFailure) :
    run = .error failure ↔ FirstFault checkpoints failure := by
  cases answer with
  | error first =>
    simp only [Except.error.injEq]
    exact ⟨fun same => same ▸ first, fun other => firstFault_unique first other⟩
  | ok sound _ =>
    simp only [reduceCtorEq, false_iff]
    intro first
    obtain ⟨checkpoint, member, fault⟩ := firstFault_member first
    exact sound checkpoint member failure fault

theorem answers_ok_iff (answer : Answers checkpoints good run) :
    (∃ value, run = .ok value) ↔ ∀ checkpoint ∈ checkpoints, checkpoint.Sound := by
  cases answer with
  | @error failure first =>
    simp only [reduceCtorEq, exists_false, false_iff]
    intro sound
    obtain ⟨checkpoint, member, fault⟩ := firstFault_member first
    exact sound checkpoint member failure fault
  | ok sound _ => simpa using sound

theorem answers_holds {value : α} (answer : Answers checkpoints good (.ok value)) : good value := by
  cases answer with
  | ok _ holds => exact holds

end Answers

namespace Visit

/-- The checkpoints of the walk: the name of each object, then at each of its properties those of
the object inside it, the key and the type. -/
def checkpoints : Visit → List Checkpoint :=
  walk (fun visit => [.identifier visit.name visit.path])
    (fun key path property => [.identifier key path, .type property path]) (fun _ => [])

theorem checkpoints_eq (visit : Visit) :
    visit.checkpoints = .identifier visit.name visit.path ::
      visit.properties.flatMap (fun entry =>
        (inner? entry.1 (visit.propertyPath entry.1) entry.2).elim [] checkpoints
          ++ [Checkpoint.identifier entry.1 (visit.propertyPath entry.1),
            Checkpoint.type entry.2 (visit.propertyPath entry.1)]) := by
  rw [checkpoints, walk_eq]
  simp only [propertyWalk, List.append_nil, List.singleton_append]

end Visit
end SchemaDecls
