import SchemaDecls.Name.Pascal

/-!
The upper case of letters and digits: it begins with a letter or digit that is its own upper case.
The tables are checked run against run, and the checks carried over to every character.
-/
namespace SchemaDecls.Character

/-- Runs that begin at `low` or later, each after the end of the one before. -/
def ascendingFrom (low : Nat) : List Run → Bool
  | [] => true
  | run :: later =>
    Nat.ble low run.first && Nat.ble run.first run.last && ascendingFrom (run.last + 1) later

theorem alphabeticRuns_ascending : ascendingFrom 0 alphabeticRuns = true := by decide +kernel

theorem first_ge_of_ascendingFrom {low : Nat} {runs : List Run}
    (ascending : ascendingFrom low runs = true) {run : Run} (member : run ∈ runs) :
    low ≤ run.first := by
  induction runs generalizing low with
  | nil => simp at member
  | cons head later ih =>
    simp only [ascendingFrom, Bool.and_eq_true, Nat.ble_eq] at ascending
    rcases List.mem_cons.mp member with rfl | later
    · exact ascending.1.1
    · have := ih ascending.2 later
      omega

/-- The search in an ascending table finds every member of its runs. -/
theorem covers_of_mem {low n : Nat} {runs : List Run} (ascending : ascendingFrom low runs = true)
    {run : Run} (member : run ∈ runs) (lower : run.first ≤ n) (upper : n ≤ run.last)
    (step : (n - run.first) % run.step = 0) : covers runs n = true := by
  induction runs generalizing low with
  | nil => simp at member
  | cons head later ih =>
    simp only [ascendingFrom, Bool.and_eq_true, Nat.ble_eq] at ascending
    rcases List.mem_cons.mp member with rfl | deeper
    · simp [covers, Nat.not_lt.mpr lower, upper, step]
    · have after := first_ge_of_ascendingFrom ascending.2 deeper
      have notBefore : ¬ n < head.first := by omega
      have notInside : ¬ n ≤ head.last := by omega
      simp only [covers, notBefore, notInside, if_false]
      exact ih ascending.2 deeper

theorem shifted_eq_some {shifts : List Shift} {n m : Nat} (moved : shifted shifts n = some m) :
    ∃ shift ∈ shifts, shift.first ≤ n ∧ n ≤ shift.last ∧ (n - shift.first) % shift.step = 0 ∧
      m = shift.image + (n - shift.first) := by
  induction shifts with
  | nil => simp [shifted] at moved
  | cons shift later ih =>
    simp only [shifted, beq_iff_eq] at moved
    split at moved
    · cases moved
    · next lower =>
      split at moved
      · next upper =>
        split at moved
        · next step =>
          cases moved
          exact ⟨shift, by simp, by omega, upper, step, rfl⟩
        · cases moved
      · obtain ⟨found, member, inside⟩ := ih moved
        exact ⟨found, by simp [member], inside⟩

theorem expanded_eq_some {rows : List Expansion} {n : Nat} {images : List Nat}
    (expands : expanded rows n = some images) : ⟨n, images⟩ ∈ rows := by
  induction rows with
  | nil => simp [expanded] at expands
  | cons row later ih =>
    simp only [expanded] at expands
    split at expands
    · cases expands
    · split at expands
      · next same =>
        cases expands
        rw [same]
        simp
      · exact List.mem_cons_of_mem _ (ih expands)

/-- A letter that the upper case leaves as it is. -/
def Capital (n : Nat) : Prop :=
  n.isValidChar ∧ covers alphabeticRuns n = true ∧ expanded upperExpansions n = none
    ∧ shifted upperShifts n = none

instance (n : Nat) : Decidable (Capital n) := inferInstanceAs (Decidable (_ ∧ _ ∧ _ ∧ _))

/-- An expansion begins with a capital. -/
def Expansion.headed (row : Expansion) : Bool := row.images.head?.any fun n => decide (Capital n)

def Shift.lastImage (shift : Shift) : Nat := shift.image + (shift.last - shift.first)

/-- The images of a shift are characters, and none of them has an expansion. -/
def Shift.plain (shift : Shift) : Bool :=
  (Nat.blt shift.lastImage 0xD800 || (Nat.blt 0xDFFF shift.image && Nat.blt shift.lastImage 0x110000))
    && upperExpansions.all fun row =>
      Nat.blt row.source shift.image || Nat.blt shift.lastImage row.source

/-- No image of a shift is moved by another one. -/
def Shift.misses (shift other : Shift) : Bool :=
  Nat.blt shift.lastImage other.first || Nat.blt other.last shift.image
    || (other.step == 2 && (shift.step == 2 || shift.first == shift.last)
      && shift.image % 2 != other.first % 2)

/-- A run holds all images of a shift. -/
def Shift.inside (shift : Shift) (run : Run) : Bool :=
  Nat.ble run.first shift.image && Nat.ble shift.lastImage run.last
    && (run.step == 1 || (run.step == 2 && shift.step == 2 && (shift.image - run.first) % 2 == 0))

/-- The images of a shift are letters; those that no single run holds are looked up one by one. -/
def Shift.lettered (shift : Shift) : Bool :=
  alphabeticRuns.any shift.inside
    || (List.range (shift.last - shift.first + 1)).all fun k =>
      k % shift.step != 0 || covers alphabeticRuns (shift.image + k)

theorem upperExpansions_headed : upperExpansions.all Expansion.headed = true := by decide +kernel

theorem upperShifts_plain : upperShifts.all Shift.plain = true := by decide +kernel

theorem upperShifts_miss :
    (upperShifts.all fun shift => upperShifts.all shift.misses) = true := by decide +kernel

theorem upperShifts_lettered : upperShifts.all Shift.lettered = true := by decide +kernel

theorem expanded_of_plain {shift : Shift} {k : Nat} (plain : shift.plain = true)
    (bound : k ≤ shift.last - shift.first) :
    (shift.image + k).isValidChar ∧ expanded upperExpansions (shift.image + k) = none := by
  simp only [Shift.plain, Shift.lastImage, Bool.and_eq_true, Bool.or_eq_true, Nat.blt_eq,
    List.all_eq_true] at plain
  constructor
  · rcases plain.1 with low | high
    · exact Or.inl (by omega)
    · exact Or.inr (by omega)
  · cases found : expanded upperExpansions (shift.image + k) with
    | none => rfl
    | some images =>
      have row := plain.2 _ (expanded_eq_some found)
      dsimp only at row
      omega

theorem shifted_of_misses {shift : Shift} {k : Nat}
    (misses : upperShifts.all shift.misses = true) (bound : k ≤ shift.last - shift.first)
    (step : k % shift.step = 0) : shifted upperShifts (shift.image + k) = none := by
  cases found : shifted upperShifts (shift.image + k) with
  | none => rfl
  | some target =>
    obtain ⟨other, member, lower, upper, stride, -⟩ := shifted_eq_some found
    have missed := List.all_eq_true.mp misses other member
    simp only [Shift.misses, Shift.lastImage, Bool.or_eq_true, Bool.and_eq_true, Nat.blt_eq,
      beq_iff_eq, bne_iff_ne] at missed
    -- Only the last case needs the strides: images and sources lie on different parities.
    rcases missed with (before | after) | ⟨⟨two, alone⟩, parity⟩
    · omega
    · omega
    · rw [two] at stride
      rcases alone with both | single
      · rw [both] at step
        omega
      · omega

theorem covers_of_inside {shift : Shift} {k : Nat}
    (held : alphabeticRuns.any shift.inside = true) (bound : k ≤ shift.last - shift.first)
    (step : k % shift.step = 0) : covers alphabeticRuns (shift.image + k) = true := by
  obtain ⟨run, member, inside⟩ := List.any_eq_true.mp held
  simp only [Shift.inside, Shift.lastImage, Bool.and_eq_true, Bool.or_eq_true, Nat.ble_eq,
    beq_iff_eq] at inside
  obtain ⟨⟨lower, upper⟩, strides⟩ := inside
  refine covers_of_mem alphabeticRuns_ascending member (by omega) (by omega) ?_
  rcases strides with one | ⟨⟨two, both⟩, even⟩
  · rw [one]
    exact Nat.mod_one _
  · rw [both] at step
    rw [two]
    omega

theorem covers_of_lettered {shift : Shift} {k : Nat} (lettered : shift.lettered = true)
    (bound : k ≤ shift.last - shift.first) (step : k % shift.step = 0) :
    covers alphabeticRuns (shift.image + k) = true := by
  rcases Bool.or_eq_true _ _ ▸ lettered with held | each
  · exact covers_of_inside held bound step
  · have found := List.all_eq_true.mp each k (List.mem_range.mpr (by omega))
    simpa [step] using found

/-- The images of every shift are capitals. -/
theorem capital_of_shifted {n m : Nat} (moved : shifted upperShifts n = some m) : Capital m := by
  obtain ⟨shift, member, lower, upper, step, rfl⟩ := shifted_eq_some moved
  have bound : n - shift.first ≤ shift.last - shift.first := by omega
  obtain ⟨valid, unexpanded⟩ :=
    expanded_of_plain (List.all_eq_true.mp upperShifts_plain shift member) bound
  have letter := covers_of_lettered (List.all_eq_true.mp upperShifts_lettered shift member) bound step
  have unmoved := shifted_of_misses (List.all_eq_true.mp upperShifts_miss shift member) bound step
  exact ⟨valid, letter, unexpanded, unmoved⟩

theorem capital_of_expanded {n : Nat} {images : List Nat}
    (expands : expanded upperExpansions n = some images) :
    ∃ head later, images = head :: later ∧ Capital head := by
  have headed := List.all_eq_true.mp upperExpansions_headed _ (expanded_eq_some expands)
  cases images with
  | nil => simp [Expansion.headed] at headed
  | cons head later => exact ⟨head, later, rfl, by simpa [Expansion.headed] using headed⟩

theorem toUpper_of_capital {n : Nat} (capital : Capital n) :
    isAlphanumeric (Char.ofNat n) = true ∧ toUpper (Char.ofNat n) = [Char.ofNat n] := by
  obtain ⟨valid, letter, unexpanded, unmoved⟩ := capital
  have same : (Char.ofNat n).toNat = n := by
    rw [Char.ofNat, dif_pos valid]
    rfl
  constructor
  · simp [isAlphanumeric, isAlphabetic, same, letter]
  · simp [toUpper, image, same, unexpanded, unmoved]

/-- The upper case of a letter or digit begins with one that is its own upper case. -/
theorem toUpper_eq_cons {c : Char} (alphanumeric : isAlphanumeric c = true) :
    ∃ head later, toUpper c = head :: later ∧ isAlphanumeric head = true ∧
      toUpper head = [head] := by
  cases expands : expanded upperExpansions c.toNat with
  | some images =>
    obtain ⟨head, later, rfl, capital⟩ := capital_of_expanded expands
    exact ⟨Char.ofNat head, later.map Char.ofNat, by simp [toUpper, image, expands],
      toUpper_of_capital capital⟩
  | none =>
    cases moved : shifted upperShifts c.toNat with
    | some target =>
      exact ⟨Char.ofNat target, [], by simp [toUpper, image, expands, moved],
        toUpper_of_capital (capital_of_shifted moved)⟩
    | none =>
      have same : toUpper c = [c] := by simp [toUpper, image, expands, moved]
      exact ⟨c, [], same, alphanumeric, same⟩

end SchemaDecls.Character
