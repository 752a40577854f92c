import SchemaDecls.Proofs.Normalization

/-!
Names from runs of letters and digits. A text is made of such runs with separators around and
between them, and its normalized name depends on the runs alone: separators in a row count as one,
and those at an end are lost. No capital vanishes, so only a text without letters and digits has an
empty name.
-/
namespace SchemaDecls.Name

/-- The longest stretches of letters and digits of a text, in order. -/
inductive Runs : List Char → List (List Char) → Prop where
  | nil : Runs [] []
  | separator {c : Char} {rest : List Char} {runs : List (List Char)}
      (separates : Character.isAlphanumeric c = false) (later : Runs rest runs) :
      Runs (c :: rest) runs
  | run {run rest : List Char} {runs : List (List Char)} (nonempty : run ≠ [])
      (alphanumeric : ∀ c ∈ run, Character.isAlphanumeric c = true)
      (ends : ∀ c ∈ rest.head?, Character.isAlphanumeric c = false) (later : Runs rest runs) :
      Runs (run ++ rest) (run :: runs)

/-- A text begins with a run, perhaps an empty one, that goes on to the next separator. -/
theorem leading_run (text : List Char) : ∃ run rest, text = run ++ rest ∧
    (∀ c ∈ run, Character.isAlphanumeric c = true) ∧
    ∀ c ∈ rest.head?, Character.isAlphanumeric c = false := by
  refine ⟨text.takeWhile Character.isAlphanumeric, text.dropWhile Character.isAlphanumeric,
    List.takeWhile_append_dropWhile.symm, ?_, ?_⟩
  · exact fun c member => List.all_eq_true.mp List.all_takeWhile c member
  · intro c first
    have stopped := List.head?_dropWhile_not Character.isAlphanumeric text
    rw [Option.mem_def.mp first] at stopped
    simpa using stopped

theorem runs_total (text : List Char) : ∃ runs, Runs text runs := by
  induction size : text.length using Nat.strongRecOn generalizing text with
  | ind n ih =>
    obtain ⟨run, rest, rfl, alphanumeric, ends⟩ := leading_run text
    cases run with
    | nil =>
      cases rest with
      | nil => exact ⟨[], .nil⟩
      | cons c later =>
        obtain ⟨runs, made⟩ := ih later.length (by simp [← size]) later rfl
        exact ⟨runs, .separator (ends c rfl) made⟩
    | cons first more =>
      have shorter : rest.length < n := by
        rw [← size, List.length_append, List.length_cons]
        omega
      obtain ⟨runs, made⟩ := ih rest.length shorter rest rfl
      exact ⟨(first :: more) :: runs, .run (by simp) alphanumeric ends made⟩

theorem pieces_cons_separator {c : Char} (separates : Character.isAlphanumeric c = false)
    (rest : List Char) : pieces (c :: rest) = [] :: pieces rest := by
  simp [pieces, Text.segments, separates]

theorem pieces_of_alphanumeric {run : List Char}
    (alphanumeric : ∀ c ∈ run, Character.isAlphanumeric c = true) : pieces run = [run] :=
  Text.segments_of_unseparated _ run (by simpa using alphanumeric)

/-- Cutting at every separator leaves the runs, and an empty piece wherever there is none. -/
theorem pieces_of_runs {text : List Char} {runs : List (List Char)} (made : Runs text runs) :
    (pieces text).filter (fun piece => !piece.isEmpty) = runs := by
  induction made with
  | nil => rfl
  | separator separates _ ih =>
    rw [pieces_cons_separator separates, List.filter_cons_of_neg (by simp), ih]
  | @run run rest _ nonempty alphanumeric ends _ ih =>
    have alone := pieces_of_alphanumeric alphanumeric
    have kept : ∀ others, (run :: others).filter (fun piece => !piece.isEmpty)
        = run :: others.filter fun piece => !piece.isEmpty :=
      fun _ => List.filter_cons_of_pos (by simpa using nonempty)
    cases rest with
    | nil =>
      rw [List.append_nil, alone, kept, ← ih]
      rfl
    | cons c later =>
      have separates := ends c rfl
      rw [pieces_cons_separator separates, List.filter_cons_of_neg (by simp)] at ih
      rw [pieces, Text.segments_append_separator _ _ _ _ (by simpa using separates), ← pieces,
        ← pieces, alone, List.singleton_append, kept, ih]

theorem runs_iff {text : List Char} {runs : List (List Char)} :
    Runs text runs ↔ (pieces text).filter (fun piece => !piece.isEmpty) = runs := by
  constructor
  · exact pieces_of_runs
  · rintro rfl
    obtain ⟨runs, made⟩ := runs_total text
    rwa [pieces_of_runs made]

instance (text : List Char) (runs : List (List Char)) : Decidable (Runs text runs) :=
  decidable_of_iff _ runs_iff.symm

theorem flatMap_capitalize_filter (all : List (List Char)) :
    (all.filter fun piece => !piece.isEmpty).flatMap capitalize = all.flatMap capitalize := by
  induction all with
  | nil => rfl
  | cons piece others ih =>
    cases piece with
    | nil =>
      rw [List.filter_cons_of_neg (by simp), ih]
      rfl
    | cons first rest =>
      rw [List.filter_cons_of_pos (by simp), List.flatMap_cons, ih]
      rfl

/-- The name of a text is its runs, each with a capital at its head. -/
theorem joined_of_runs {text : List Char} {runs : List (List Char)} (made : Runs text runs) :
    joined text = runs.flatMap capitalize := by
  rw [← pieces_of_runs made, flatMap_capitalize_filter]
  rfl

theorem capitalize_ne_nil {run : List Char} (nonempty : run ≠ [])
    (alphanumeric : ∀ c ∈ run, Character.isAlphanumeric c = true) : capitalize run ≠ [] := by
  cases run with
  | nil => exact absurd rfl nonempty
  | cons first rest =>
    obtain ⟨capital, later, upper, _⟩ := Character.toUpper_eq_cons (alphanumeric first (by simp))
    simp [capitalize, upper]

theorem joined_eq_nil_iff (text : List Char) :
    joined text = [] ↔ ∀ c ∈ text, Character.isAlphanumeric c = false := by
  obtain ⟨runs, made⟩ := runs_total text
  rw [joined_of_runs made]
  induction made with
  | nil => simp
  | separator separates _ ih =>
    rw [ih, List.forall_mem_cons]
    exact ⟨fun later => ⟨separates, later⟩, And.right⟩
  | @run run _ _ nonempty alphanumeric _ _ _ =>
    constructor
    · intro empty
      rw [List.flatMap_cons, List.append_eq_nil_iff] at empty
      exact absurd empty.1 (capitalize_ne_nil nonempty alphanumeric)
    · intro separators
      obtain ⟨c, inside⟩ := List.exists_mem_of_ne_nil run nonempty
      have neither := separators c (List.mem_append_left _ inside)
      rw [alphanumeric c inside] at neither
      cases neither

/-- Any separators between two texts, one or many, keep their names apart and are lost. -/
theorem joined_append_separators (before after : List Char) {separators : List Char}
    (nonempty : separators ≠ [])
    (separate : ∀ c ∈ separators, Character.isAlphanumeric c = false) :
    joined (before ++ separators ++ after) = joined before ++ joined after := by
  induction separators generalizing before with
  | nil => exact absurd rfl nonempty
  | cons c rest ih =>
    obtain ⟨separates, later⟩ := List.forall_mem_cons.mp separate
    rw [List.append_assoc, List.cons_append, joined_append_separator before _ separates]
    cases rest with
    | nil => rfl
    | cons d more =>
      have remains := ih [] (by simp) later
      rw [List.nil_append] at remains
      rw [remains, joined_of_runs .nil]
      rfl

/-- Texts that are set apart by separators are normalized one by one, and a name is empty exactly
when its text has no letter or digit. Every text has runs, and texts with the same runs have the
same name. -/
theorem pascal_of_runs :
    (∀ before separators after : String, separators ≠ "" →
      (∀ c ∈ separators.toList, Character.isAlphanumeric c = false) →
      pascal (before ++ separators ++ after) = pascal before ++ pascal after) ∧
    (∀ text : String,
      pascal text = "" ↔ ∀ c ∈ text.toList, Character.isAlphanumeric c = false) ∧
    (∀ text : String, ∃ runs, Runs text.toList runs) ∧
    (∀ (text other : String) (runs : List (List Char)),
      Runs text.toList runs → Runs other.toList runs → pascal text = pascal other) := by
  refine ⟨?_, ?_, fun text => runs_total text.toList, ?_⟩
  · intro before separators after nonempty separate
    have filled : separators.toList ≠ [] := fun empty =>
      nonempty (String.toList_inj.mp (empty.trans String.toList_empty.symm))
    rw [← String.toList_inj, String.toList_append]
    simp only [pascal_eq_joined, String.toList_append]
    exact joined_append_separators before.toList after.toList filled separate
  · intro text
    rw [← String.toList_inj, pascal_eq_joined, String.toList_empty]
    exact joined_eq_nil_iff text.toList
  · intro text other runs made alike
    rw [← String.toList_inj, pascal_eq_joined, pascal_eq_joined, joined_of_runs made,
      joined_of_runs alike]

theorem pascal_of_runs_widths :
    let runs := ["größe".toList, "v2".toList]
    " _#" ≠ "" ∧ (∀ c ∈ " _#".toList, Character.isAlphanumeric c = false) ∧
      pascal ("--größe." ++ " _#" ++ "/v2 id-") = "GrößeV2Id" ∧
      Runs "größe#v2".toList runs ∧ Runs "--größe _v2.".toList runs ∧
      pascal "größe#v2" = pascal "--größe _v2." := by
  intro runs
  have nonempty : " _#" ≠ "" := by decide
  have separate : ∀ c ∈ " _#".toList, Character.isAlphanumeric c = false := by
    have checked : (" _#".toList.all fun c => !Character.isAlphanumeric c) = true := by
      decide +kernel
    exact fun c inside => by simpa using List.all_eq_true.mp checked c inside
  have parts : pascal "--größe." = "Größe" ∧ pascal "/v2 id-" = "V2Id" := by decide +kernel
  have tight : Runs "größe#v2".toList runs := by decide +kernel
  have loose : Runs "--größe _v2.".toList runs := by decide +kernel
  obtain ⟨apart, _, _, alike⟩ := pascal_of_runs
  refine ⟨nonempty, separate, ?_, tight, loose, alike _ _ runs tight loose⟩
  rw [apart "--größe." " _#" "/v2 id-" nonempty separate, parts.1, parts.2]
  rfl

end SchemaDecls.Name
