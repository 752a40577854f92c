import SchemaDecls.DocumentFormat
import SchemaDecls.Proofs.NameCharacters
import SchemaDecls.SourceUnit

/-!
Paths as lists of steps. Putting a name behind a path adds one step; a path without dots looks up
the steps that it spells. The name of a unit's file is one step, and never announces a document.
-/
namespace SchemaDecls

namespace Path

/-- What may stand in a directory: a name that is one step of a path and leads down. -/
structure IsName (name : String) : Prop where
  nonempty : name ≠ ""
  unslashed : '/' ∉ name.toList
  notHere : name ≠ "."
  notUp : name ≠ ".."

instance (name : String) : Decidable (IsName name) :=
  decidable_of_iff (name ≠ "" ∧ '/' ∉ name.toList ∧ name ≠ "." ∧ name ≠ "..")
    ⟨fun ⟨nonempty, unslashed, notHere, notUp⟩ => ⟨nonempty, unslashed, notHere, notUp⟩,
      fun own => ⟨own.nonempty, own.unslashed, own.notHere, own.notUp⟩⟩

/-- The steps lead down. -/
def Down (steps : List String) : Prop := ∀ step ∈ steps, step ≠ "." ∧ step ≠ ".."

/-- A path without dots: all its steps lead down. -/
def Plain (path : String) : Prop := Down (components path)

instance (steps : List String) : Decidable (Down steps) :=
  inferInstanceAs (Decidable (∀ step ∈ steps, _))

instance (path : String) : Decidable (Plain path) :=
  inferInstanceAs (Decidable (Down (components path)))

theorem components_append_slash (path rest : String) :
    components (path ++ "/" ++ rest) = components path ++ components rest := by
  have slash : (path ++ "/" ++ rest).toList = path.toList ++ '/' :: rest.toList := by simp
  unfold components
  rw [slash, Text.segments_append_separator _ _ _ _ (by simp), List.map_append, List.filter_append]

theorem components_name {name : String} (own : IsName name) : components name = [name] := by
  have uncut : ∀ c ∈ name.toList, (c == '/') = false := by
    intro c member
    simp only [beq_eq_false_iff_ne]
    rintro rfl
    exact own.unslashed member
  unfold components
  rw [Text.segments_of_unseparated _ _ uncut]
  simp [own.nonempty]

theorem components_join (path : String) {name : String} (own : IsName name) :
    components (join path name) = components path ++ [name] := by
  have down : name.toList.head? ≠ some '/' := fun first =>
    own.unslashed (List.mem_of_mem_head? first)
  unfold join
  rw [if_neg down]
  have none : components "" = [] := by decide
  by_cases empty : path = ""
  · subst empty
    rw [if_pos (by decide), String.empty_append, components_name own, none,
      List.nil_append]
  by_cases slashed : path.toList.getLast? = some '/'
  · obtain ⟨before, same⟩ := List.getLast?_eq_some_iff.mp slashed
    have cut : path = String.ofList before ++ "/" ++ "" := by
      rw [← String.toList_inj, same]
      simp
    rw [if_pos (by simp [slashed]), cut, components_append_slash, String.append_empty,
      components_append_slash, none, List.append_nil, components_name own]
  · rw [if_neg (by simp [empty, slashed]), components_append_slash, components_name own]

theorem mem_join {path name : String} {c : Char} (member : c ∈ (join path name).toList) :
    c ∈ path.toList ∨ c = '/' ∨ c ∈ name.toList := by
  unfold join at member
  split at member
  · exact .inr (.inr member)
  · split at member
    · simp only [String.toList_append, List.mem_append] at member
      exact member.imp_right .inr
    · simp only [String.toList_append, List.mem_append] at member
      rcases member with (inPath | slash) | inName
      · exact .inl inPath
      · exact .inr (.inl (by simpa using slash))
      · exact .inr (.inr inName)

/-- A name behind a path is the last step that is looked up. -/
theorem lookupSteps_join (path : String) {name : String} (own : IsName name) :
    lookupSteps (join path name) = components path ++ [name] := by
  have filled : name.toList ≠ [] := fun none => own.nonempty (String.toList_inj.mp none)
  have last : (join path name).toList.getLast? = name.toList.getLast? := by
    unfold join
    split
    · rfl
    · split <;> simp [List.getLast?_cons, List.getLast?_eq_some_getLast filled]
  have unslashed : (join path name).toList.getLast? ≠ some '/' := fun slashed =>
    own.unslashed (List.mem_of_getLast? (last ▸ slashed))
  rw [lookupSteps, if_neg unslashed, List.append_nil, components_join path own]

section Slashed
variable (path : String) (count : Nat)

/-- A path with slashes at its end. -/
def slashed : String := path ++ String.ofList (List.replicate count '/')

theorem slashed_succ : slashed path (count + 1) = slashed path count ++ "/" ++ "" := by
  rw [← String.toList_inj]
  simp only [slashed, List.replicate_succ', String.toList_append, String.toList_ofList,
    List.append_assoc]
  rfl

theorem components_slashed : components (slashed path count) = components path := by
  have none : components "" = [] := by decide
  induction count with
  | zero => simp [slashed]
  | succ count ih => rw [slashed_succ, components_append_slash, ih, none, List.append_nil]

theorem size_slashed : (slashed path count).utf8ByteSize = path.utf8ByteSize + count := by
  induction count with
  | zero => simp [slashed]
  | succ count ih =>
    rw [slashed_succ, String.append_empty, String.utf8ByteSize_append, ih]
    rfl

theorem mem_slashed {c : Char} (member : c ∈ (slashed path count).toList) :
    c ∈ path.toList ∨ c = '/' := by
  rw [slashed, String.toList_append, String.toList_ofList, List.mem_append] at member
  exact member.imp_right List.eq_of_mem_replicate

end Slashed

theorem size_le_join (path : String) {name : String} (own : IsName name) :
    path.utf8ByteSize + name.utf8ByteSize ≤ (join path name).utf8ByteSize := by
  have down : name.toList.head? ≠ some '/' := fun first =>
    own.unslashed (List.mem_of_mem_head? first)
  unfold join
  rw [if_neg down]
  split
  · exact Nat.le_of_eq String.utf8ByteSize_append.symm
  · rw [String.utf8ByteSize_append, String.utf8ByteSize_append]
    omega

section Plain
variable {path : String}

theorem steps_plain (plain : Plain path) : steps path = components path := by
  unfold steps
  rw [List.filter_eq_self]
  intro step member
  simpa using (plain step member).1

theorem plain_join (plain : Plain path) {name : String} (own : IsName name) :
    Plain (join path name) := by
  intro step member
  rw [components_join path own, List.mem_append, List.mem_singleton] at member
  rcases member with inside | rfl
  · exact plain step inside
  · exact ⟨own.notHere, own.notUp⟩

theorem fileName?_plain (plain : Plain path) : fileName? path = (components path).getLast? := by
  unfold fileName?
  rw [steps_plain plain]
  cases last : (components path).getLast? with
  | none => rfl
  | some step =>
    have down := (plain step (List.mem_of_getLast? last)).2
    simp [Option.filter, down]

theorem beginnings_concat (steps : List α) (step : α) :
    beginnings (steps ++ [step]) = (steps ++ [step]) :: beginnings steps := by
  induction steps with
  | nil => rfl
  | cons first rest ih => simp [beginnings, ih]

/-- A path below the root and the paths above it are the beginnings of its steps. -/
theorem ancestors_plain (plain : Plain path) (below : components path ≠ []) :
    ancestors path = beginnings (components path) := by
  unfold ancestors
  rw [steps_plain plain]
  have parts := List.dropLast_concat_getLast below
  rw [← parts, beginnings_concat, List.dropLast_concat]

end Plain
end Path

section UnitFile
variable (language : Language)

theorem fileName_toList (unit : SourceUnit) : (unit.fileName language).toList
    = unit.name.toList ++ '.' :: (['g'] ++ '.' :: language.fileExtension.toList) := by
  simp [SourceUnit.fileName]

theorem fileName_isName {unit : SourceUnit} (own : Spelled [] unit.name) :
    Path.IsName (unit.fileName language) := by
  have text := fileName_toList language unit
  have long : 5 ≤ (unit.fileName language).toList.length := by
    rw [text]
    cases language <;> simp [Language.fileExtension]
  refine ⟨?_, ?_, ?_, ?_⟩
  · intro same
    simp [same] at long
  · have apart : '/' ∉ unit.name.toList := not_mem_of_spelled own (by decide) (by simp)
    rw [text]
    cases language <;> simp [Language.fileExtension, apart]
  · intro same
    simp [same] at long
  · intro same
    simp [same] at long

/-- The extension of a unit's file is that of its language, whatever its name. -/
theorem extension?_of_fileName {path : String} {unit : SourceUnit}
    (last : Path.fileName? path = some (unit.fileName language)) :
    Path.extension? path = some language.fileExtension := by
  have ends : Text.segments (· == '.') language.fileExtension.toList
      = [language.fileExtension.toList] := by cases language <;> decide
  have parts : Text.segments (· == '.') (unit.fileName language).toList
      = Text.segments (· == '.') unit.name.toList ++ [['g']]
        ++ [language.fileExtension.toList] := by
    have middle : Text.segments (· == '.') ['g'] = [['g']] := by decide
    rw [fileName_toList, Text.segments_append_separator _ _ _ _ (by simp),
      Text.segments_append_separator _ _ _ _ (by simp), middle, ends, List.append_assoc]
  unfold Path.extension?
  rw [last]
  simp only [bind, Option.bind, parts]
  have marked : Text.segments (· == '.') unit.name.toList ++ [['g']] ≠ [[]] := by
    intro same
    simpa using congrArg List.getLast? same
  simp [marked]

/-- The file of a unit is no document. -/
theorem ofPath?_of_fileName {path : String} {unit : SourceUnit}
    (last : Path.fileName? path = some (unit.fileName language)) :
    DocumentFormat.ofPath? path = none := by
  unfold DocumentFormat.ofPath?
  rw [extension?_of_fileName language last]
  cases language <;> decide

end UnitFile
end SchemaDecls
