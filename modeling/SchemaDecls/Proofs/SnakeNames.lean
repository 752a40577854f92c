import Mathlib.Data.List.Basic
import SchemaDecls.Proofs.NameCharacters

/-!
The shape of names in snake case. No word is empty, so an underscore stands between two words only
and never at an end of a name; and a text with a letter or digit has a word.
-/
namespace SchemaDecls

namespace Text

/-- Cutting loses separators only. -/
theorem mem_segments {separates : Char → Bool} {text : List Char} {c : Char} (inside : c ∈ text)
    (kept : separates c = false) : ∃ segment ∈ segments separates text, c ∈ segment := by
  induction text with
  | nil => simp at inside
  | cons d rest ih =>
    by_cases cut : separates d
    · have later : c ∈ rest := by
        rcases List.mem_cons.mp inside with rfl | later
        · rw [cut] at kept
          cases kept
        · exact later
      obtain ⟨segment, member, within⟩ := ih later
      exact ⟨segment, by simp [segments, cut, member], within⟩
    · cases found : segments separates rest with
      | nil => exact absurd found (segments_ne_nil separates rest)
      | cons first others =>
        have longer : segments separates (d :: rest) = (d :: first) :: others := by
          simp [segments, cut, found]
        rw [longer]
        rw [found] at ih
        rcases List.mem_cons.mp inside with rfl | later
        · exact ⟨c :: first, by simp, by simp⟩
        · obtain ⟨segment, member, within⟩ := ih later
          rcases List.mem_cons.mp member with rfl | deeper
          · exact ⟨d :: segment, by simp, List.mem_cons_of_mem _ within⟩
          · exact ⟨segment, List.mem_cons_of_mem _ deeper, within⟩

end Text

namespace Character

theorem lowerExpansions_inhabited :
    lowerExpansions.all (fun row => !row.images.isEmpty) = true := by decide

theorem toLower_ne_nil (c : Char) : toLower c ≠ [] := by
  unfold toLower image
  split
  · next images expands =>
    have row := List.all_eq_true.mp lowerExpansions_inhabited _ (expanded_eq_some expands)
    simpa using row
  · split <;> simp

end Character

namespace Name

theorem wordsFrom_ne_nil (seen : WordCase) (begun : List Char) {run : List Char}
    (some_char : run ≠ []) : wordsFrom seen begun run ≠ [] := by
  induction seen, begun, run using wordsFrom.induct with
  | case1 => exact absurd rfl some_char
  | case2 => simp [wordsFrom]
  | case3 seen begun c next rest ends => simp [wordsFrom, ends]
  | case4 seen begun c next rest goes splits =>
    rw [wordsFrom, if_neg goes, if_pos splits]
    exact List.cons_ne_nil _ _
  | case5 seen begun c next rest goes joins ih =>
    rw [wordsFrom, if_neg goes, if_neg joins]
    exact ih (by simp)

/-- A word is cut off before a capital only where a capital was read, so it is never empty. -/
theorem ne_nil_of_mem_wordsFrom {seen : WordCase} {begun run word : List Char}
    (begins : seen = .upper → begun ≠ []) (member : word ∈ wordsFrom seen begun run) :
    word ≠ [] := by
  induction seen, begun, run using wordsFrom.induct with
  | case1 => simp [wordsFrom] at member
  | case2 seen begun c =>
    rw [wordsFrom, List.mem_singleton] at member
    simp [member]
  | case3 seen begun c next rest ends ih =>
    rw [wordsFrom, if_pos ends, List.mem_cons] at member
    rcases member with rfl | later
    · simp
    · exact ih (by simp) later
  | case4 seen begun c next rest goes splits ih =>
    rw [wordsFrom, if_neg goes, if_pos splits, List.mem_cons] at member
    rcases member with rfl | later
    · exact begins splits.1
    · exact ih (by simp) later
  | case5 seen begun c next rest goes joins ih =>
    rw [wordsFrom, if_neg goes, if_neg joins] at member
    exact ih (by simp) member

theorem ne_nil_of_mem_words {text word : List Char} (member : word ∈ words text) : word ≠ [] := by
  obtain ⟨piece, -, inside⟩ := List.mem_flatMap.mp member
  exact ne_nil_of_mem_wordsFrom (by simp) inside

theorem words_ne_nil {text : List Char} {c : Char} (inside : c ∈ text)
    (alphanumeric : Character.isAlphanumeric c = true) : words text ≠ [] := by
  have kept : (!Character.isAlphanumeric c) = false := by simp [alphanumeric]
  obtain ⟨piece, cut, within⟩ :=
    @Text.mem_segments (fun c => !Character.isAlphanumeric c) text c inside kept
  have some_word := wordsFrom_ne_nil .boundary [] (List.ne_nil_of_mem within)
  intro none
  exact some_word (List.flatMap_eq_nil_iff.mp none piece cut)

theorem lowerWord_ne_nil {word : List Char} (some_char : word ≠ []) : lowerWord word ≠ [] := by
  cases word with
  | nil => exact absurd rfl some_char
  | cons c rest =>
    cases rest with
    | nil =>
      unfold lowerWord
      split
      · simp
      · exact Character.toLower_ne_nil c
    | cons next rest =>
      rw [lowerWord]
      exact List.append_ne_nil_of_left_ne_nil (Character.toLower_ne_nil c) _

/-- The words of a text in lower case. -/
def snakeWords (text : String) : List (List Char) := (words text.toList).map lowerWord

theorem snake_toList (text : String) :
    (snake text).toList = List.intercalate ['_'] (snakeWords text) := by
  rw [snake, String.toList_ofList, snakeWords]

/-- A word of a name is a word: not empty, and without an underscore. -/
theorem snakeWords_whole {text : String} {part : List Char} (member : part ∈ snakeWords text) :
    part ≠ [] ∧ '_' ∉ part := by
  obtain ⟨word, found, rfl⟩ := List.mem_map.mp member
  refine ⟨lowerWord_ne_nil (ne_nil_of_mem_words found), ?_⟩
  intro mark
  have own : ∀ c ∈ word, Character.Wordlike c := fun c here => wordlike_of_mem_words found here
  exact absurd (lowerWord_wordlike own '_' mark) (by decide)

/-- Words joined by a mark that is in none of them neither begin nor end with it. -/
theorem ends_intercalate {mark : Char} {parts : List (List Char)}
    (whole : ∀ part ∈ parts, part ≠ [] ∧ mark ∉ part) :
    (parts ≠ [] → List.intercalate [mark] parts ≠ []) ∧
      (List.intercalate [mark] parts).head? ≠ some mark ∧
      (List.intercalate [mark] parts).getLast? ≠ some mark := by
  induction parts with
  | nil => simp
  | cons first others ih =>
    obtain ⟨⟨some_char, unmarked⟩, later⟩ := List.forall_mem_cons.mp whole
    have head : first.head? ≠ some mark := fun begins => unmarked (List.mem_of_mem_head? begins)
    have last : first.getLast? ≠ some mark := fun ends => unmarked (List.mem_of_mem_getLast? ends)
    cases others with
    | nil => simp [List.intercalate_singleton, some_char, head, last]
    | cons second more =>
      obtain ⟨some_rest, -, ends⟩ := ih later
      have rest := some_rest (by simp)
      rw [List.intercalate_cons_cons, List.append_assoc]
      refine ⟨fun _ => List.append_ne_nil_of_left_ne_nil some_char _, ?_, ?_⟩
      · rwa [List.head?_append_of_ne_nil _ some_char]
      · rwa [List.getLast?_append_of_ne_nil _ (by simp), List.getLast?_append_of_ne_nil _ rest]

theorem snake_ends (text : String) :
    (snake text).toList.head? ≠ some '_' ∧ (snake text).toList.getLast? ≠ some '_' := by
  rw [snake_toList]
  exact (ends_intercalate fun part member => snakeWords_whole member).2

theorem snake_ne_empty {text : String} {c : Char} (inside : c ∈ text.toList)
    (alphanumeric : Character.isAlphanumeric c = true) : snake text ≠ "" := by
  have some_part : snakeWords text ≠ [] := by
    simpa [snakeWords] using words_ne_nil inside alphanumeric
  have joined := (ends_intercalate fun part member => snakeWords_whole member).1 some_part
  rwa [← snake_toList, ne_eq, String.toList_eq_nil_iff] at joined

/-- A name that normalization leaves anything of has a form in snake case. -/
theorem snake_pascal_ne_empty {text : String} (named : pascal text ≠ "") :
    snake (pascal text) ≠ "" := by
  cases name : (pascal text).toList with
  | nil => exact absurd (String.toList_inj.mp name) named
  | cons head later =>
    have begins : joined text.toList = head :: later := by rw [← pascal_eq_joined, name]
    exact snake_ne_empty (by simp [name]) (head_of_joined begins).1

end Name
end SchemaDecls
