import SchemaDecls.Name.Snake
import SchemaDecls.Proofs.Normalization

/-!
The characters of generated names. Normalized names hold no ASCII character but letters and digits,
and names in snake case add the underscore, whatever the text they are made from. The case tables
are checked once for this and the checks carried over to every text.
-/
namespace SchemaDecls

namespace Character

/-- Not a separator, bracket, quote or control character of ASCII. -/
def Wordlike (c : Char) : Prop := c.toNat < 128 → c.isAlphanum = true

instance (c : Char) : Decidable (Wordlike c) := inferInstanceAs (Decidable (_ → _))

theorem alphanumeric_ascii :
    ∀ n < 128, (covers alphabeticRuns n || covers numericRuns n) = true →
      (Char.ofNat n).isAlphanum = true := by
  decide +kernel

theorem wordlike_of_alphanumeric {c : Char} (alphanumeric : isAlphanumeric c = true) :
    Wordlike c := by
  intro low
  have ascii := alphanumeric_ascii c.toNat low alphanumeric
  rwa [Char.ofNat_toNat] at ascii

/-- All images of a shift lie above ASCII, or each of them is wordlike. -/
def Shift.wordlike (shift : Shift) : Bool :=
  (Nat.ble 128 shift.image && (Nat.blt shift.lastImage 0xD800
      || (Nat.blt 0xDFFF shift.image && Nat.blt shift.lastImage 0x110000)))
    || (List.range (shift.last - shift.first + 1)).all fun k =>
      decide (Wordlike (Char.ofNat (shift.image + k)))

def Expansion.wordlike (row : Expansion) : Bool :=
  row.images.all fun n => decide (Wordlike (Char.ofNat n))

theorem upperShifts_wordlike : upperShifts.all Shift.wordlike = true := by decide +kernel

theorem lowerShifts_wordlike : lowerShifts.all Shift.wordlike = true := by decide +kernel

theorem upperExpansions_wordlike : upperExpansions.all Expansion.wordlike = true := by
  decide +kernel

theorem lowerExpansions_wordlike : lowerExpansions.all Expansion.wordlike = true := by
  decide +kernel

theorem wordlike_ofNat {n : Nat} (valid : n.isValidChar) (high : 128 ≤ n) :
    Wordlike (Char.ofNat n) := by
  intro low
  have same : (Char.ofNat n).toNat = n := by
    rw [Char.ofNat, dif_pos valid]
    rfl
  omega

theorem wordlike_of_shifted {shifts : List Shift} (checked : shifts.all Shift.wordlike = true)
    {n m : Nat} (moved : shifted shifts n = some m) : Wordlike (Char.ofNat m) := by
  obtain ⟨shift, member, lower, upper, -, rfl⟩ := shifted_eq_some moved
  have own := List.all_eq_true.mp checked shift member
  simp only [Shift.wordlike, Shift.lastImage, Bool.or_eq_true, Bool.and_eq_true, Nat.ble_eq,
    Nat.blt_eq] at own
  rcases own with ⟨high, low | middle⟩ | each
  · exact wordlike_ofNat (Or.inl (by omega)) (by omega)
  · exact wordlike_ofNat (Or.inr (by omega)) (by omega)
  · have inside : n - shift.first ∈ List.range (shift.last - shift.first + 1) := by
      rw [List.mem_range]
      omega
    exact of_decide_eq_true (List.all_eq_true.mp each _ inside)

theorem wordlike_of_expanded {rows : List Expansion}
    (checked : rows.all Expansion.wordlike = true) {n : Nat} {images : List Nat}
    (expands : expanded rows n = some images) : ∀ m ∈ images, Wordlike (Char.ofNat m) := by
  intro m member
  have own := List.all_eq_true.mp checked _ (expanded_eq_some expands)
  exact of_decide_eq_true (List.all_eq_true.mp own m member)

/-- The image of a wordlike character under a checked case mapping is wordlike throughout. -/
theorem image_wordlike {shifts : List Shift} {rows : List Expansion}
    (checked : shifts.all Shift.wordlike = true) (checkedRows : rows.all Expansion.wordlike = true)
    {c : Char} (own : Wordlike c) : ∀ d ∈ image shifts rows c, Wordlike d := by
  intro d member
  unfold image at member
  split at member
  · next images expands =>
    obtain ⟨m, inside, rfl⟩ := List.mem_map.mp member
    exact wordlike_of_expanded checkedRows expands m inside
  · split at member
    · next m moved =>
      rw [List.mem_singleton] at member
      exact member ▸ wordlike_of_shifted checked moved
    · rw [List.mem_singleton] at member
      exact member ▸ own

theorem toUpper_wordlike {c : Char} (own : Wordlike c) : ∀ d ∈ toUpper c, Wordlike d :=
  image_wordlike upperShifts_wordlike upperExpansions_wordlike own

theorem toLower_wordlike {c : Char} (own : Wordlike c) : ∀ d ∈ toLower c, Wordlike d :=
  image_wordlike lowerShifts_wordlike lowerExpansions_wordlike own

end Character

/-- Every character of the text is wordlike or one of `marks`. -/
def Spelled (marks : List Char) (text : String) : Prop :=
  ∀ c ∈ text.toList, Character.Wordlike c ∨ c ∈ marks

instance (marks : List Char) (text : String) : Decidable (Spelled marks text) :=
  List.decidableBAll (fun c => Character.Wordlike c ∨ c ∈ marks) text.toList

section Spelled
variable {marks more : List Char} {text other : String}

theorem spelled_append (one : Spelled marks text) (second : Spelled marks other) :
    Spelled marks (text ++ other) := by
  intro c member
  rw [String.toList_append, List.mem_append] at member
  rcases member with first | later
  · exact one c first
  · exact second c later

theorem spelled_mono (own : Spelled marks text) (subset : marks ⊆ more) : Spelled more text := by
  intro c member
  exact (own c member).imp_right fun marked => subset marked

theorem not_mem_of_spelled (own : Spelled marks text) {c : Char}
    (mark : ¬ Character.Wordlike c) (absent : c ∉ marks) : c ∉ text.toList := by
  intro member
  rcases own c member with word | marked
  · exact mark word
  · exact absent marked

end Spelled

namespace Name

theorem pascal_spelled (text : String) : Spelled [] (pascal text) := by
  intro c member
  rw [pascal_eq_joined] at member
  obtain ⟨piece, inside, within⟩ := List.mem_flatMap.mp member
  have own : ∀ c ∈ piece, Character.Wordlike c := fun c here =>
    Character.wordlike_of_alphanumeric (alphanumeric_of_mem_pieces inside here)
  cases piece with
  | nil => cases within
  | cons first rest =>
    rcases List.mem_append.mp within with capital | kept
    · exact Or.inl (Character.toUpper_wordlike (own first (by simp)) c capital)
    · exact Or.inl (own c (List.mem_cons_of_mem _ kept))

/-- The words of a run hold the characters of the run. -/
theorem mem_of_mem_wordsFrom {seen : WordCase} {begun run : List Char} {word : List Char}
    (member : word ∈ wordsFrom seen begun run) {c : Char} (inside : c ∈ word) :
    c ∈ begun ∨ c ∈ run := by
  induction seen, begun, run using wordsFrom.induct with
  | case1 => simp [wordsFrom] at member
  | case2 seen begun d =>
    simp only [wordsFrom, List.mem_singleton] at member
    subst member
    simpa using inside
  | case3 seen begun d next rest ends ih =>
    rw [wordsFrom, if_pos ends, List.mem_cons] at member
    rcases member with rfl | later
    · simp only [List.mem_append, List.mem_singleton] at inside
      rcases inside with before | rfl
      · exact Or.inl before
      · simp
    · rcases ih later with begun | run
      · cases begun
      · exact Or.inr (List.mem_cons_of_mem _ run)
  | case4 seen begun d next rest goes splits ih =>
    rw [wordsFrom, if_neg goes, if_pos splits, List.mem_cons] at member
    rcases member with rfl | later
    · exact Or.inl inside
    · rcases ih later with first | run
      · rw [List.mem_singleton] at first
        subst first
        simp
      · exact Or.inr (List.mem_cons_of_mem _ run)
  | case5 seen begun d next rest goes joins ih =>
    rw [wordsFrom, if_neg goes, if_neg joins] at member
    rcases ih member with before | run
    · simp only [List.mem_append, List.mem_singleton] at before
      rcases before with begun | rfl
      · exact Or.inl begun
      · simp
    · exact Or.inr (List.mem_cons_of_mem _ run)

theorem wordlike_of_mem_words {text word : List Char} (member : word ∈ words text) {c : Char}
    (inside : c ∈ word) : Character.Wordlike c := by
  obtain ⟨piece, cut, within⟩ := List.mem_flatMap.mp member
  rcases mem_of_mem_wordsFrom within inside with begun | run
  · cases begun
  · exact Character.wordlike_of_alphanumeric (alphanumeric_of_mem_pieces cut run)

theorem lowerWord_wordlike {word : List Char} (own : ∀ c ∈ word, Character.Wordlike c) :
    ∀ c ∈ lowerWord word, Character.Wordlike c := by
  induction word using lowerWord.induct with
  | case1 => simp [lowerWord]
  | case2 =>
    have sigma : Character.Wordlike 'ς' := by decide
    simpa [lowerWord] using sigma
  | case3 c other =>
    rw [lowerWord, if_neg other]
    exact Character.toLower_wordlike (own c (by simp))
  | case4 c next rest ih =>
    intro d member
    rw [lowerWord, List.mem_append] at member
    rcases member with first | later
    · exact Character.toLower_wordlike (own c (by simp)) d first
    · exact ih (fun e inside => own e (List.mem_cons_of_mem _ inside)) d later

theorem mem_of_mem_intercalate {separator : List Char} {parts : List (List Char)} {c : Char}
    (member : c ∈ List.intercalate separator parts) : c ∈ separator ∨ ∃ part ∈ parts, c ∈ part := by
  induction parts with
  | nil => simp at member
  | cons part rest ih =>
    cases rest with
    | nil =>
      rw [List.intercalate_singleton] at member
      exact Or.inr ⟨part, by simp, member⟩
    | cons next others =>
      rw [List.intercalate_cons_cons, List.mem_append, List.mem_append] at member
      rcases member with (here | joint) | later
      · exact Or.inr ⟨part, by simp, here⟩
      · exact Or.inl joint
      · rcases ih later with joint | ⟨found, listed, inside⟩
        · exact Or.inl joint
        · exact Or.inr ⟨found, List.mem_cons_of_mem _ listed, inside⟩

theorem snake_spelled (text : String) : Spelled ['_'] (snake text) := by
  intro c member
  rw [snake, String.toList_ofList] at member
  rcases mem_of_mem_intercalate member with joint | ⟨part, listed, inside⟩
  · exact Or.inr joint
  · obtain ⟨word, found, rfl⟩ := List.mem_map.mp listed
    have own : ∀ c ∈ word, Character.Wordlike c := fun c here => wordlike_of_mem_words found here
    exact Or.inl (lowerWord_wordlike own c inside)

end Name
end SchemaDecls
