/-! Cutting text at separators. -/
namespace SchemaDecls.Text

/-- The stretches between separators, empty ones included: always one more than the separators. -/
def segments (separates : Char → Bool) : List Char → List (List Char)
  | [] => [[]]
  | c :: rest =>
    if separates c then [] :: segments separates rest
    else
      match segments separates rest with
      | [] => [[c]]
      | first :: others => (c :: first) :: others

theorem segments_ne_nil (separates : Char → Bool) (text : List Char) :
    segments separates text ≠ [] := by
  cases text with
  | nil => simp [segments]
  | cons c rest => simp only [segments]; split <;> (try split) <;> simp

theorem segments_append_separator (separates : Char → Bool) (before after : List Char) (c : Char)
    (cut : separates c = true) :
    segments separates (before ++ c :: after)
      = segments separates before ++ segments separates after := by
  induction before with
  | nil => simp [segments, cut]
  | cons d rest ih =>
    have some_first := segments_ne_nil separates rest
    by_cases h : separates d
    · simp [segments, h, ih]
    · simp only [List.cons_append, segments, h, Bool.false_eq_true, if_false, ih]
      cases hs : segments separates rest with
      | nil => exact absurd hs some_first
      | cons first others => simp

theorem segments_of_unseparated (separates : Char → Bool) (text : List Char)
    (uncut : ∀ c ∈ text, separates c = false) : segments separates text = [text] := by
  induction text with
  | nil => rfl
  | cons c rest ih =>
    simp only [List.mem_cons, forall_eq_or_imp] at uncut
    simp [segments, uncut.1, ih uncut.2]

theorem unseparated_of_mem_segments {separates : Char → Bool} {text segment : List Char}
    (member : segment ∈ segments separates text) {c : Char} (inside : c ∈ segment) :
    separates c = false := by
  induction text generalizing segment with
  | nil => simp_all [segments]
  | cons d rest ih =>
    have some_first := segments_ne_nil separates rest
    simp only [segments] at member
    split at member
    · rcases List.mem_cons.mp member with rfl | later
      · simp at inside
      · exact ih later inside
    · next kept =>
      cases found : segments separates rest with
      | nil => exact absurd found some_first
      | cons first others =>
        rw [found] at ih member
        rcases List.mem_cons.mp member with rfl | later
        · rcases List.mem_cons.mp inside with rfl | deeper
          · simpa using kept
          · exact ih (by simp) deeper
        · exact ih (List.mem_cons_of_mem _ later) inside

/-- Lines of a text, each ended by a line feed. -/
def unlines (lines : List String) : String := String.join (lines.map (· ++ "\n"))

end SchemaDecls.Text
