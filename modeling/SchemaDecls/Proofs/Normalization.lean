import SchemaDecls.Proofs.UpperCase

/-!
Names normalized a second time. A normalized name begins with a letter or digit that is its own
upper case, so only a capital with something else in it, which splits the name again, makes a
second normalization change it. Twenty-six letters have such a capital.
-/
namespace SchemaDecls

namespace Character

/-- The letters whose upper case brings a mark with it that is neither letter nor digit. -/
def splitCapitals : List Nat :=
  [0x1F0, 0x390, 0x3B0, 0x1E96, 0x1E97, 0x1E98, 0x1E99, 0x1F50, 0x1F52, 0x1F54, 0x1F56, 0x1FB6,
    0x1FB7, 0x1FC6, 0x1FC7, 0x1FD2, 0x1FD3, 0x1FD6, 0x1FD7, 0x1FE2, 0x1FE3, 0x1FE4, 0x1FE6, 0x1FE7,
    0x1FF6, 0x1FF7]

theorem upperExpansions_split :
    (upperExpansions.all fun row => (row.images.map Char.ofNat).all isAlphanumeric
      == !splitCapitals.contains row.source) = true := by
  decide +kernel

theorem splitCapitals_expanded :
    (splitCapitals.all fun n => (expanded upperExpansions n).isSome) = true := by
  decide +kernel

theorem toUpper_alphanumeric_iff {c : Char} (alphanumeric : isAlphanumeric c = true) :
    (∀ d ∈ toUpper c, isAlphanumeric d = true) ↔ c.toNat ∉ splitCapitals := by
  unfold toUpper image
  cases expands : expanded upperExpansions c.toNat with
  | some images =>
    have row := List.all_eq_true.mp upperExpansions_split _ (expanded_eq_some expands)
    rw [beq_iff_eq] at row
    rw [← List.all_eq_true, row]
    simp
  | none =>
    have whole : c.toNat ∉ splitCapitals := by
      intro member
      have grows := List.all_eq_true.mp splitCapitals_expanded _ member
      simp [expands] at grows
    simp only [whole, not_false_eq_true, iff_true]
    intro d member
    split at member
    · next target moved =>
      rw [List.mem_singleton] at member
      exact member ▸ (toUpper_of_capital (capital_of_shifted moved)).1
    · rw [List.mem_singleton] at member
      exact member ▸ alphanumeric

end Character

namespace Name

def joined (text : List Char) : List Char := (pieces text).flatMap capitalize

theorem alphanumeric_of_mem_pieces {text piece : List Char} (member : piece ∈ pieces text) {c : Char}
    (inside : c ∈ piece) : Character.isAlphanumeric c = true := by
  simpa using Text.unseparated_of_mem_segments member inside

theorem joined_of_alphanumeric {text : List Char}
    (alphanumeric : ∀ c ∈ text, Character.isAlphanumeric c = true) :
    joined text = capitalize text := by
  have whole : pieces text = [text] :=
    Text.segments_of_unseparated _ text (by simpa using alphanumeric)
  simp [joined, whole]

theorem joined_append_separator (before after : List Char) {c : Char}
    (separator : Character.isAlphanumeric c = false) :
    joined (before ++ c :: after) = joined before ++ joined after := by
  simp [joined, pieces, Text.segments_append_separator, separator]

/-- A normalized name begins with a letter or digit that is its own upper case. -/
theorem head_of_joined {text later : List Char} {head : Char} (begins : joined text = head :: later) :
    Character.isAlphanumeric head = true ∧ Character.toUpper head = [head] := by
  have alphanumeric : ∀ piece ∈ pieces text, ∀ c ∈ piece, Character.isAlphanumeric c = true :=
    fun piece member c inside => alphanumeric_of_mem_pieces member inside
  unfold joined at begins
  generalize pieces text = all at begins alphanumeric
  induction all with
  | nil => simp at begins
  | cons piece others ih =>
    simp only [List.mem_cons, forall_eq_or_imp] at alphanumeric
    cases piece with
    | nil => exact ih (by simpa [capitalize] using begins) alphanumeric.2
    | cons first rest =>
      obtain ⟨capital, tail, upper, own⟩ :=
        Character.toUpper_eq_cons (alphanumeric.1 first (by simp))
      simp only [List.flatMap_cons, capitalize, upper, List.cons_append, List.cons.injEq] at begins
      exact begins.1 ▸ own

/-- A text that normalization leaves as it is has letters and digits only. -/
theorem alphanumeric_of_joined_eq_self {text : List Char} (fixed : joined text = text) :
    ∀ c ∈ text, Character.isAlphanumeric c = true := by
  cases found : text.find? (fun c => !Character.isAlphanumeric c) with
  | none => simpa using found
  | some c =>
    -- The text is cut at its first separator; the rest would have to begin with that separator.
    obtain ⟨separator, before, after, rfl, earlier⟩ := List.find?_eq_some_iff_append.mp found
    have kept : ∀ c ∈ before, Character.isAlphanumeric c = true := by simpa using earlier
    have cut := joined_append_separator before after (by simpa using separator)
    rw [joined_of_alphanumeric kept, fixed] at cut
    have remains : joined after = c :: after := by
      cases before with
      | nil => exact cut.symm
      | cons head rest =>
        simp only [capitalize, (head_of_joined fixed).2] at cut
        simpa using cut.symm
    rw [(head_of_joined remains).1] at separator
    cases separator

/-- A second normalization changes nothing exactly when the name has letters and digits only. -/
theorem joined_joined_iff (text : List Char) :
    joined (joined text) = joined text ↔
      ∀ c ∈ joined text, Character.isAlphanumeric c = true := by
  constructor
  · exact alphanumeric_of_joined_eq_self
  · intro alphanumeric
    rw [joined_of_alphanumeric alphanumeric]
    cases name : joined text with
    | nil => rfl
    | cons head later => simp [capitalize, (head_of_joined name).2]

/-- The capitals that normalization puts at the head of the runs of a text are letters and digits
throughout. -/
def CapitalsAlphanumeric (text : String) : Prop :=
  ∀ piece ∈ pieces text.toList, ∀ c ∈ piece.head?,
    ∀ d ∈ Character.toUpper c, Character.isAlphanumeric d = true

instance (text : String) : Decidable (CapitalsAlphanumeric text) :=
  inferInstanceAs (Decidable (∀ piece ∈ pieces text.toList, ∀ c ∈ piece.head?,
    ∀ d ∈ Character.toUpper c, Character.isAlphanumeric d = true))

theorem capitalsAlphanumeric_iff (text : String) :
    CapitalsAlphanumeric text ↔
      ∀ c ∈ joined text.toList, Character.isAlphanumeric c = true := by
  constructor
  · intro capitals c member
    obtain ⟨piece, inside, within⟩ := List.mem_flatMap.mp member
    cases piece with
    | nil => cases within
    | cons first rest =>
      rcases List.mem_append.mp within with upper | kept
      · exact capitals _ inside first rfl c upper
      · exact alphanumeric_of_mem_pieces inside (List.mem_cons_of_mem _ kept)
  · intro alphanumeric piece inside first begins d upper
    refine alphanumeric d (List.mem_flatMap.mpr ⟨piece, inside, ?_⟩)
    cases piece with
    | nil => cases begins
    | cons head rest =>
      cases begins
      exact List.mem_append_left _ upper

theorem pascal_eq_joined (text : String) : (pascal text).toList = joined text.toList := by
  simp [pascal, joined]

/-- A second normalization leaves a name as it is exactly when no run of letters and digits in the
text begins with a letter whose capital would be split. -/
theorem pascal_idempotent_iff (text : String) :
    pascal (pascal text) = pascal text ↔
      ∀ piece ∈ pieces text.toList, ∀ c ∈ piece.head?, c.toNat ∉ Character.splitCapitals := by
  rw [← String.toList_inj, pascal_eq_joined, pascal_eq_joined, joined_joined_iff,
    ← capitalsAlphanumeric_iff]
  unfold CapitalsAlphanumeric
  refine forall₂_congr fun piece member => forall₂_congr fun c begins => ?_
  exact Character.toUpper_alphanumeric_iff
    (alphanumeric_of_mem_pieces member (List.mem_of_mem_head? begins))

/-- The upper case of `j` with a caron is a capital and the caron by itself. -/
theorem pascal_caron :
    pascal "\u01f0" = "J\u030c" ∧ pascal (pascal "\u01f0") = "J" ∧
      pascal (pascal "\u01f0") ≠ pascal "\u01f0" := by
  decide +kernel

end Name
end SchemaDecls
