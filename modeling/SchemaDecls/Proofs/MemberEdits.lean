import SchemaDecls.Proofs.Alias

/-!
Editing the members of one entry of a table. References take the type, title and items of their
targets and never the members, so an edit of properties and required keys shows only in the entry
itself and in the entries that stand for it. Everything else resolves and compiles as before.
-/
namespace SchemaDecls

/-- Two versions of an entry that is no reference: its properties and required keys may differ. -/
structure MemberEdit (old new : WrittenSchema) : Prop where
  plain : old.reference = none
  stillPlain : new.reference = none
  type : new.type? = old.type?
  title : new.title = old.title
  items : new.items = old.items

section Edit
variable {before after : Members WrittenSchema} {name : String} {old new : WrittenSchema}
  {visiting names : List String} {locator : String}

/-- A look-up finds the same in both tables, except where it finds the edited entry. -/
theorem find?_edit (before after : Members WrittenSchema) (name : String)
    (old new : WrittenSchema) (key : String) :
    Members.find? (before ++ (name, new) :: after) key
        = Members.find? (before ++ (name, old) :: after) key ∨
      (key = name ∧ Members.find? (before ++ (name, old) :: after) key = some old ∧
        Members.find? (before ++ (name, new) :: after) key = some new) := by
  induction before with
  | nil =>
    by_cases here : name = key
    · exact Or.inr ⟨here.symm, by simp [Members.find?, here], by simp [Members.find?, here]⟩
    · exact Or.inl (by simp [Members.find?, here])
  | cons entry rest ih =>
    obtain ⟨other, value⟩ := entry
    by_cases here : other = key
    · exact Or.inl (by simp [Members.find?, here])
    · simpa [Members.find?, here] using ih

theorem target?_edit (before after : Members WrittenSchema) (name : String)
    (old new : WrittenSchema) (locator : String) :
    target? (before ++ (name, new) :: after) locator
        = target? (before ++ (name, old) :: after) locator ∨
      (target? (before ++ (name, old) :: after) locator = some (name, old) ∧
        target? (before ++ (name, new) :: after) locator = some (name, new)) := by
  unfold target?
  split
  · cases component : Pointer.componentName? locator with
    | none => exact Or.inl rfl
    | some key =>
      simp only [Option.bind_some]
      rcases find?_edit before after name old new key with same | ⟨rfl, one, other⟩
      · exact Or.inl (by rw [same])
      · exact Or.inr (by simp [one, other])
  · exact Or.inl rfl

/-- References see no members. -/
theorem alikeTargets_edit (edit : MemberEdit old new) :
    AlikeTargets (before ++ (name, old) :: after) (before ++ (name, new) :: after) := by
  intro locator
  rcases target?_edit before after name old new locator with same | ⟨wasFound, found⟩
  · rw [same]
    cases target? (before ++ (name, old) :: after) locator with
    | none => exact .none
    | some pair => exact .some ⟨rfl, rfl, rfl, rfl, rfl⟩
  · have type : new.schemaType = old.schemaType := by
      rw [WrittenSchema.schemaType, WrittenSchema.schemaType, edit.type]
    rw [wasFound, found]
    exact .some ⟨rfl, edit.stillPlain.trans edit.plain.symm, type, edit.items, edit.title⟩

theorem resolve_edit (edit : MemberEdit old new) (written : WrittenSchema) :
    written.resolve (before ++ (name, new) :: after)
      = written.resolve (before ++ (name, old) :: after) :=
  resolve_alike (alikeTargets_edit edit) written

/-- A chain that does not end at the edited entry is the same chain in the new table. -/
theorem leads_edit (edit : MemberEdit old new) {ending : ChainEnd}
    (leads : Leads (before ++ (name, old) :: after) visiting locator names ending)
    (elsewhere : ∀ target, ending ≠ .entry name target) :
    Leads (before ++ (name, new) :: after) visiting locator names ending := by
  induction leads with
  | @outside visiting locator missing =>
    rcases target?_edit before after name old new locator with same | ⟨found, _⟩
    · exact .outside (same.trans missing)
    · simp [missing] at found
  | @cycle visiting locator reached target wasFound seen =>
    rcases target?_edit before after name old new locator with same | ⟨again, found⟩
    · exact .cycle (same.trans wasFound) seen
    · cases wasFound.symm.trans again
      exact .cycle found seen
  | @entry visiting locator reached target wasFound fresh plain =>
    rcases target?_edit before after name old new locator with same | ⟨again, _⟩
    · exact .entry (same.trans wasFound) fresh plain
    · cases wasFound.symm.trans again
      exact absurd rfl (elsewhere old)
  | @step visiting names locator reached next target ending wasFound fresh refers _ ih =>
    rcases target?_edit before after name old new locator with same | ⟨again, _⟩
    · exact .step (same.trans wasFound) fresh refers (ih elsewhere)
    · cases wasFound.symm.trans again
      simp [edit.plain] at refers

theorem entryEnd_edit (edit : MemberEdit old new) {key : String} {source : WrittenSchema}
    {ending : ChainEnd} (ends : EntryEnd (before ++ (name, old) :: after) key source ending)
    (elsewhere : ∀ target, ending ≠ .entry name target) :
    EntryEnd (before ++ (name, new) :: after) key source ending := by
  cases ends with
  | own plain => exact .own plain
  | referred refers leads => exact .referred refers (leads_edit edit leads elsewhere)

theorem resolveEntry_edit (edit : MemberEdit old new) {key : String} {source : WrittenSchema}
    (elsewhere : ∀ target,
      ¬ EntryEnd (before ++ (name, old) :: after) key source (.entry name target)) :
    resolveEntry (before ++ (name, new) :: after) key source
      = resolveEntry (before ++ (name, old) :: after) key source := by
  obtain ⟨ending, ends⟩ := entryEnd_total (before ++ (name, old) :: after) key source
  have apart : ∀ target, ending ≠ .entry name target := by
    rintro target rfl
    exact elsewhere target ends
  have still := entryEnd_edit edit ends apart
  cases ending with
  | entry last target =>
    rw [resolveEntry_endsAt (endsAt_of_entryEnd ends),
      resolveEntry_endsAt (endsAt_of_entryEnd still), resolve_edit edit]
  | outside | cycle =>
    rw [resolveEntry_of_unended ends (by simp), resolveEntry_of_unended still (by simp),
      resolve_edit edit]

end Edit

/-- Editing the members of an entry leaves every entry alone whose chain does not end at it: it
resolves to the same schema in both tables, and compiles to the same units or fails the same. -/
theorem member_edits_stay_local {before after : Members WrittenSchema} {name : String}
    {old new : WrittenSchema} (edit : MemberEdit old new) {key : String} {source : WrittenSchema}
    (elsewhere : ∀ target,
      ¬ EntryEnd (before ++ (name, old) :: after) key source (.entry name target)) :
    resolveEntry (before ++ (name, new) :: after) key source
      = resolveEntry (before ++ (name, old) :: after) key source ∧
    ∀ moduleName settings,
      compileSchema key (resolveEntry (before ++ (name, new) :: after) key source)
          moduleName settings
        = compileSchema key (resolveEntry (before ++ (name, old) :: after) key source)
          moduleName settings := by
  have same := resolveEntry_edit edit elsewhere
  refine ⟨same, ?_⟩
  intro moduleName settings
  rw [same]

namespace Household

def person : WrittenSchema :=
  { WrittenSchema.ofType "object" with
    properties := some [("name", .ofType "string")]
    required := some ["name"] }

def renamedPerson : WrittenSchema :=
  { WrittenSchema.ofType "object" with
    properties := some [("family", .ofType "string"), ("pet", .ofReference "#/definitions/pet")] }

/-- Refers to the person from a property, from array items and from an object written inline. -/
def pet : WrittenSchema :=
  { WrittenSchema.ofType "object" with
    properties := some [
      ("owner", .ofReference "#/definitions/keeper"),
      ("sitters", { WrittenSchema.ofType "array" with
        items := some (.ofReference "#/definitions/person") }),
      ("home", { WrittenSchema.ofType "object" with
        properties := some [("head", .ofReference "#/definitions/person")] })] }

def keeper : WrittenSchema := .ofReference "#/definitions/person"

/-- The table around its entry for the person. -/
def table (person : WrittenSchema) : Members WrittenSchema :=
  [("pet", pet)] ++ ("person", person) :: [("keeper", keeper)]

theorem person_edit : MemberEdit person renamedPerson := ⟨rfl, rfl, rfl, rfl, rfl⟩

end Household

open Household in
theorem member_edits_stay_local_household :
    (compileSchema "pet" (resolveEntry (table person) "pet" pet) "N" {}).map
        (·.map SourceUnit.name) = .ok ["Home", "Pet"] ∧
    resolveEntry (table renamedPerson) "pet" pet = resolveEntry (table person) "pet" pet ∧
    compileSchema "pet" (resolveEntry (table renamedPerson) "pet" pet) "N" {}
      = compileSchema "pet" (resolveEntry (table person) "pet" pet) "N" {} ∧
    compileSchema "keeper" (resolveEntry (table renamedPerson) "keeper" keeper) "N" {}
      ≠ compileSchema "keeper" (resolveEntry (table person) "keeper" keeper) "N" {} := by
  have elsewhere : ∀ target, ¬ EntryEnd (table person) "pet" pet (.entry "person" target) := by
    intro target ends
    have own : EntryEnd (table person) "pet" pet (.entry "pet" pet) := .own rfl
    exact absurd (entryEnd_unique own ends) (by simp)
  obtain ⟨same, compiled⟩ := member_edits_stay_local person_edit elsewhere
  exact ⟨by decide +kernel, same, compiled "N" {}, by decide +kernel⟩

end SchemaDecls
