import SchemaDecls.Json.Token

/-!
The words of JSON as a grammar, apart from any reader of it: blanks, strings in every spelling and
numbers. Each has a single token for the scanner. A string is one token whatever stands behind it; a
number ends where something stands that cannot belong to it.
-/
namespace SchemaDecls.Json

theorem forall_mem_of_all {α : Type} {list : List α} {p : α → Prop} [DecidablePred p]
    (checked : (list.all fun x => decide (p x)) = true) : ∀ x ∈ list, p x := by
  simpa using checked

def blanks : List Char := [' ', '\t', '\n', '\r']

def Blank (text : List Char) : Prop := ∀ c ∈ text, c ∈ blanks

def decimals : List Char := ['0', '1', '2', '3', '4', '5', '6', '7', '8', '9']

/-- Hexadecimal digits and their values. -/
def hexadecimals : List (Char × Nat) := [
  ('0', 0), ('1', 1), ('2', 2), ('3', 3), ('4', 4),
  ('5', 5), ('6', 6), ('7', 7), ('8', 8), ('9', 9),
  ('a', 10), ('b', 11), ('c', 12), ('d', 13), ('e', 14), ('f', 15),
  ('A', 10), ('B', 11), ('C', 12), ('D', 13), ('E', 14), ('F', 15)]

/-- Letters behind a backslash and the characters that they stand for. -/
def shortEscapes : List (Char × Char) := [
  ('"', '"'), ('\\', '\\'), ('/', '/'), ('b', '\x08'), ('f', '\x0c'), ('n', '\n'), ('r', '\r'),
  ('t', '\t')]

inductive UnitText : Nat → List Char → Prop where
  | digits {a b c d : Char × Nat} (first : a ∈ hexadecimals) (second : b ∈ hexadecimals)
      (third : c ∈ hexadecimals) (fourth : d ∈ hexadecimals) :
      UnitText (((a.2 * 16 + b.2) * 16 + c.2) * 16 + d.2) [a.1, b.1, c.1, d.1]

/-- A character that may stand in a string as itself. -/
def Unescaped (c : Char) : Prop := c ≠ '"' ∧ c ≠ '\\' ∧ 0x20 ≤ c.toNat

instance (c : Char) : Decidable (Unescaped c) := inferInstanceAs (Decidable (_ ∧ _))

/-- The spellings of a character inside a string. One beyond the first 65536 takes a surrogate pair
when it is escaped. -/
inductive CharText : Char → List Char → Prop where
  | plain {c : Char} (unescaped : Unescaped c) : CharText c [c]
  | short {letter c : Char} (escape : (letter, c) ∈ shortEscapes) : CharText c ['\\', letter]
  | unit {c : Char} {digits : List Char} (spelled : UnitText c.toNat digits) :
      CharText c ('\\' :: 'u' :: digits)
  | pair {c : Char} {first second : List Char} (beyond : 0x10000 ≤ c.toNat)
      (high : UnitText (0xD800 + (c.toNat - 0x10000) / 0x400) first)
      (low : UnitText (0xDC00 + (c.toNat - 0x10000) % 0x400) second) :
      CharText c (('\\' :: 'u' :: first) ++ ('\\' :: 'u' :: second))

inductive CharsText : List Char → List Char → Prop where
  | nil : CharsText [] []
  | cons {c : Char} {chars part text : List Char} (first : CharText c part)
      (rest : CharsText chars text) : CharsText (c :: chars) (part ++ text)

def StringText (content : String) (text : List Char) : Prop :=
  ∃ inside, CharsText content.toList inside ∧ text = '"' :: (inside ++ ['"'])

theorem charsText_unescaped {chars : List Char} (unescaped : ∀ c ∈ chars, Unescaped c) :
    CharsText chars chars := by
  induction chars with
  | nil => exact .nil
  | cons c rest ih =>
    obtain ⟨here, later⟩ := List.forall_mem_cons.mp unescaped
    exact .cons (.plain here) (ih later)

theorem stringText_unescaped (content : String)
    (unescaped : (content.toList.all fun c => decide (Unescaped c)) = true) :
    StringText content ('"' :: (content.toList ++ ['"'])) :=
  ⟨content.toList, charsText_unescaped (forall_mem_of_all unescaped), rfl⟩

/-- What the grammar of strings allows, also where surrogates do not form pairs. -/
inductive LooseChars : List Char → Prop where
  | nil : LooseChars []
  | plain {c : Char} {text : List Char} (unescaped : Unescaped c) (rest : LooseChars text) :
      LooseChars (c :: text)
  | short {letter c : Char} {text : List Char} (escape : (letter, c) ∈ shortEscapes)
      (rest : LooseChars text) : LooseChars ('\\' :: letter :: text)
  | unit {code : Nat} {digits text : List Char} (spelled : UnitText code digits)
      (rest : LooseChars text) : LooseChars ('\\' :: 'u' :: (digits ++ text))

def LooseString (text : List Char) : Prop :=
  ∃ inside, LooseChars inside ∧ text = '"' :: (inside ++ ['"'])

def Digits (text : List Char) : Prop := text ≠ [] ∧ ∀ c ∈ text, c ∈ decimals

inductive SignText : List Char → Prop where
  | positive : SignText []
  | negative : SignText ['-']

inductive WholeText : List Char → Prop where
  | zero : WholeText ['0']
  | digits {first : Char} {rest : List Char} (leads : first ∈ decimals) (nonzero : first ≠ '0')
      (more : ∀ c ∈ rest, c ∈ decimals) : WholeText (first :: rest)

inductive FractionText : List Char → Prop where
  | absent : FractionText []
  | digits {digits : List Char} (spelled : Digits digits) : FractionText ('.' :: digits)

inductive ExponentText : List Char → Prop where
  | absent : ExponentText []
  | digits {letter : Char} {sign digits : List Char} (marked : letter ∈ ['e', 'E'])
      (signed : sign ∈ [[], ['+'], ['-']]) (spelled : Digits digits) :
      ExponentText (letter :: (sign ++ digits))

inductive NumberText : List Char → Prop where
  | parts {sign whole fraction exponent : List Char} (signed : SignText sign)
      (integer : WholeText whole) (decimal : FractionText fraction)
      (scaled : ExponentText exponent) :
      NumberText (sign ++ (whole ++ (fraction ++ exponent)))

namespace ScanState

theorem scan_cons (state : ScanState) (c : Char) (rest : List Char) :
    state.scan [] (c :: rest) = (state.step c).1 ++ (state.step c).2.scan [] rest := by
  rw [scan, scan_eq_append]
  simp

/-- The text leads from one state to another without a token. -/
def Reaches (state : ScanState) (text : List Char) (next : ScanState) : Prop :=
  ∀ rest, state.scan [] (text ++ rest) = next.scan [] rest

variable {state middle next : ScanState} {c : Char} {text more : List Char}

theorem reaches_nil : Reaches state [] state := fun _ => rfl

theorem reaches_append (first : Reaches state text middle) (second : Reaches middle more next) :
    Reaches state (text ++ more) next := by
  intro rest
  rw [List.append_assoc, first, second]

theorem reaches_cons (stepped : state.step c = ([], middle)) (later : Reaches middle text next) :
    Reaches state (c :: text) next := by
  intro rest
  rw [List.cons_append, scan_cons, stepped, List.nil_append, later]

theorem reaches_one (stepped : state.step c = ([], next)) : Reaches state [c] next :=
  reaches_cons stepped reaches_nil

theorem scan_blank (blank : Blank text) : Reaches between text between := by
  induction text with
  | nil => exact reaches_nil
  | cons c rest ih =>
    obtain ⟨here, later⟩ := List.forall_mem_cons.mp blank
    have passed : ∀ c ∈ blanks, between.step c = ([], between) :=
      forall_mem_of_all (by decide)
    exact reaches_cons (passed c here) (ih later)

section Strings

theorem hexDigit?_of_mem : ∀ digit ∈ hexadecimals,
    hexDigit? digit.1 = some digit.2 ∧ digit.1.utf8Size = 1 :=
  forall_mem_of_all (by decide)

theorem escaped?_of_mem : ∀ escape ∈ shortEscapes,
    escape.1 ≠ 'u' ∧ escaped? escape.1 = some escape.2 :=
  forall_mem_of_all (by decide)

theorem scan_unit {unit : Nat} {digits : List Char} (spelled : UnitText unit digits)
    (read : PartialText) :
    Reaches (.string read) ('\\' :: 'u' :: digits) (.string (read.pushUnit unit)) := by
  cases spelled with
  | @digits a b c d first second third fourth =>
    obtain ⟨valueA, sizeA⟩ := hexDigit?_of_mem a first
    obtain ⟨valueB, sizeB⟩ := hexDigit?_of_mem b second
    obtain ⟨valueC, sizeC⟩ := hexDigit?_of_mem c third
    obtain ⟨valueD, sizeD⟩ := hexDigit?_of_mem d fourth
    refine reaches_cons rfl (reaches_cons rfl ?_)
    have one : (hex read 0 (some 0)).step a.1 = ([], hex read 1 (some a.2)) := by
      simp [step, valueA, sizeA]
    have two : (hex read 1 (some a.2)).step b.1
        = ([], hex read 2 (some (a.2 * 16 + b.2))) := by simp [step, valueB, sizeB]
    have three : (hex read 2 (some (a.2 * 16 + b.2))).step c.1
        = ([], hex read 3 (some ((a.2 * 16 + b.2) * 16 + c.2))) := by simp [step, valueC, sizeC]
    refine reaches_cons one (reaches_cons two (reaches_cons three (reaches_one ?_)))
    simp [step, valueD, sizeD]

theorem scan_short {letter c : Char} (escape : (letter, c) ∈ shortEscapes) (read : PartialText) :
    Reaches (.string read) ['\\', letter] (.string (read.dropLead.push c)) := by
  obtain ⟨apart, means⟩ := escaped?_of_mem _ escape
  exact reaches_cons rfl (reaches_one (by simp [step, apart, means]))

theorem scan_unescaped (unescaped : Unescaped c) (read : PartialText) :
    Reaches (.string read) [c] (.string (read.dropLead.push c)) := by
  obtain ⟨quote, backslash, visible⟩ := unescaped
  exact reaches_one (by simp [step, quote, backslash, Nat.not_lt.mpr visible])

/-- A string that is read so far, all of it in pairs. -/
def soFar (content : String) : PartialText := ⟨content, true, none⟩

theorem pushUnit_char (content : String) (c : Char) :
    (soFar content).pushUnit c.toNat = soFar (content.push c) := by
  have valid : c.toNat < 0xD800 ∨ 0xDFFF < c.toNat ∧ c.toNat < 0x110000 := c.valid
  have notSecond : ¬ (0xDC00 ≤ c.toNat ∧ c.toNat ≤ 0xDFFF) := by omega
  have notFirst : ¬ (0xD800 ≤ c.toNat ∧ c.toNat ≤ 0xDBFF) := by omega
  simp only [PartialText.pushUnit, soFar, notSecond, notFirst, if_false, PartialText.push,
    Char.ofNat_toNat]

theorem pushUnit_first (content : String) {high : Nat} (lower : 0xD800 ≤ high)
    (upper : high ≤ 0xDBFF) : (soFar content).pushUnit high = ⟨content, true, some high⟩ := by
  have notSecond : ¬ (0xDC00 ≤ high ∧ high ≤ 0xDFFF) := by omega
  simp only [PartialText.pushUnit, soFar, notSecond, lower, upper, and_self, if_false, if_true]

theorem pushUnit_second (content : String) (high : Nat) {low : Nat} (lower : 0xDC00 ≤ low)
    (upper : low ≤ 0xDFFF) :
    PartialText.pushUnit ⟨content, true, some high⟩ low
      = soFar (content.push (Char.ofNat (0x10000 + (high - 0xD800) * 0x400 + (low - 0xDC00)))) := by
  simp only [PartialText.pushUnit, soFar, lower, upper, and_self, if_true, PartialText.push]

theorem pushUnit_pair (content : String) {c : Char} (beyond : 0x10000 ≤ c.toNat) :
    ((soFar content).pushUnit (0xD800 + (c.toNat - 0x10000) / 0x400)).pushUnit
      (0xDC00 + (c.toNat - 0x10000) % 0x400) = soFar (content.push c) := by
  have valid : c.toNat < 0xD800 ∨ 0xDFFF < c.toNat ∧ c.toNat < 0x110000 := c.valid
  -- A character beyond the first 65536 comes back from the two halves of its offset.
  have joined : 0x10000 + (0xD800 + (c.toNat - 0x10000) / 0x400 - 0xD800) * 0x400
      + (0xDC00 + (c.toNat - 0x10000) % 0x400 - 0xDC00) = c.toNat := by omega
  rw [pushUnit_first content (by omega) (by omega), pushUnit_second content _ (by omega) (by omega),
    joined, Char.ofNat_toNat]

theorem scan_char {part : List Char} (spelled : CharText c part) (content : String) :
    Reaches (.string (soFar content)) part (.string (soFar (content.push c))) := by
  cases spelled with
  | plain unescaped => exact scan_unescaped unescaped _
  | short escape => exact scan_short escape _
  | unit digits =>
    rw [← pushUnit_char]
    exact scan_unit digits _
  | pair beyond high low =>
    rw [← pushUnit_pair content beyond]
    exact reaches_append (scan_unit high _) (scan_unit low _)

theorem scan_chars {chars : List Char} (spelled : CharsText chars text) (content : String) :
    Reaches (.string (soFar content)) text (.string (soFar (content ++ String.ofList chars))) := by
  induction spelled generalizing content with
  | nil =>
    have same : content ++ String.ofList [] = content := by simp
    rw [same]
    exact reaches_nil
  | @cons c chars _ _ first _ ih =>
    have same : content ++ String.ofList (c :: chars) = content.push c ++ String.ofList chars := by
      apply String.toList_inj.mp
      simp
    rw [same]
    exact reaches_append (scan_char first content) (ih _)

theorem scan_loose (loose : LooseChars text) (read : PartialText) :
    ∃ more, Reaches (.string read) text (.string more) := by
  induction loose generalizing read with
  | nil => exact ⟨read, reaches_nil⟩
  | plain unescaped _ ih =>
    obtain ⟨more, reaches⟩ := ih (read.dropLead.push _)
    exact ⟨more, reaches_append (scan_unescaped unescaped read) reaches⟩
  | short escape _ ih =>
    obtain ⟨more, reaches⟩ := ih (read.dropLead.push _)
    exact ⟨more, reaches_append (scan_short escape read) reaches⟩
  | unit spelled _ ih =>
    obtain ⟨more, reaches⟩ := ih (read.pushUnit _)
    exact ⟨more, reaches_append (scan_unit spelled read) reaches⟩

theorem scan_quoted {read : PartialText} (inside : Reaches (.string .empty) text (.string read))
    (rest : List Char) :
    between.scan [] ('"' :: (text ++ ['"']) ++ rest)
      = .text ⟨read.content, (read.dropLead).paired⟩ :: between.scan [] rest := by
  have opened : between.step '"' = ([], .string .empty) := rfl
  have closed : (string read).step '"'
      = ([.text ⟨read.content, (read.dropLead).paired⟩], between) := rfl
  rw [List.cons_append, scan_cons, opened, List.nil_append, List.append_assoc, inside,
    List.singleton_append, scan_cons, closed]
  rfl

theorem scan_string {content : String} (spelled : StringText content text) (rest : List Char) :
    between.scan [] (text ++ rest) = .text ⟨content, true⟩ :: between.scan [] rest := by
  obtain ⟨inside, chars, rfl⟩ := spelled
  have read := scan_chars chars ""
  have whole : "" ++ String.ofList content.toList = content := by simp
  rw [whole] at read
  exact scan_quoted read rest

theorem scan_looseString (loose : LooseString text) :
    ∃ literal, ∀ rest, between.scan [] (text ++ rest) = .text literal :: between.scan [] rest := by
  obtain ⟨inside, chars, rfl⟩ := loose
  obtain ⟨read, reaches⟩ := scan_loose chars .empty
  exact ⟨_, scan_quoted reaches⟩

end Strings

section Numbers

/-- What may stand directly behind a value. -/
def delimiters : List Char := blanks ++ [',', ']', '}']

def Delimited (rest : List Char) : Prop := ∀ c ∈ rest.head?, c ∈ delimiters

/-- The number that is read ends before any delimiter. -/
def Complete (state : ScanState) : Prop :=
  ∃ inRange, ∀ rest, Delimited rest →
    state.scan [] rest = .number inRange :: between.scan [] rest

theorem complete_of_close (m : Magnitude) (finished : state.finish = [.number m.inRange])
    (closed : ∀ c ∈ delimiters, state.step c = close m c) : Complete state := by
  refine ⟨m.inRange, fun rest delimited => ?_⟩
  cases rest with
  | nil =>
    rw [scan, finished]
    rfl
  | cons c rest =>
    have followed : c ∈ delimiters := delimited c rfl
    rw [scan_cons, closed c followed, scan_cons]
    rfl

theorem delimiter_facts : ∀ c ∈ delimiters,
    c.isDigit = false ∧ digit? c = none ∧ c ≠ '.' ∧ c ≠ 'e' ∧ c ≠ 'E' :=
  forall_mem_of_all (by decide)

theorem complete_zero : Complete .zero := by
  refine complete_of_close (.ofDigit 0) rfl fun c member => ?_
  obtain ⟨noDigit, _, point, lower, upper⟩ := delimiter_facts c member
  simp [step, afterInteger, noDigit, point, lower, upper]

theorem complete_integer (m : Magnitude) : Complete (.integer m) := by
  refine complete_of_close m rfl fun c member => ?_
  obtain ⟨_, noDigit, point, lower, upper⟩ := delimiter_facts c member
  simp [step, afterInteger, noDigit, point, lower, upper]

theorem complete_fraction (m : Magnitude) : Complete (.fraction m) := by
  refine complete_of_close m rfl fun c member => ?_
  obtain ⟨_, noDigit, _, lower, upper⟩ := delimiter_facts c member
  simp [step, noDigit, lower, upper]

theorem complete_exponent (m : Magnitude) (negative : Bool) (digits : Nat) :
    Complete (.exponent m negative digits) := by
  refine complete_of_close (m.scale negative digits) rfl fun c member => ?_
  obtain ⟨_, noDigit, _⟩ := delimiter_facts c member
  simp [step, noDigit]

theorem digit?_of_mem {c : Char} (digit : c ∈ decimals) : ∃ d, digit? c = some d := by
  have each : ∀ c ∈ decimals, (digit? c).isSome = true := forall_mem_of_all (by decide)
  exact Option.isSome_iff_exists.mp (each c digit)

/-- Digits are taken up one after the other by a state that stays the same but for what it has
read. -/
theorem scan_digits {α : Type} (family : α → ScanState)
    (steps : ∀ read d c, digit? c = some d → ∃ more, (family read).step c = ([], family more))
    (digits : ∀ c ∈ text, c ∈ decimals) (read : α) :
    ∃ more, Reaches (family read) text (family more) := by
  induction text generalizing read with
  | nil => exact ⟨read, reaches_nil⟩
  | cons c rest ih =>
    obtain ⟨here, later⟩ := List.forall_mem_cons.mp digits
    obtain ⟨d, value⟩ := digit?_of_mem here
    obtain ⟨first, stepped⟩ := steps read d c value
    obtain ⟨more, reaches⟩ := ih later first
    exact ⟨more, reaches_cons stepped reaches⟩

theorem scan_someDigits {α : Type} (entry : ScanState) (family : α → ScanState)
    (enters : ∀ d c, digit? c = some d → ∃ first, entry.step c = ([], family first))
    (steps : ∀ read d c, digit? c = some d → ∃ more, (family read).step c = ([], family more))
    (digits : Digits text) : ∃ more, Reaches entry text (family more) := by
  obtain ⟨filled, each⟩ := digits
  cases text with
  | nil => exact absurd rfl filled
  | cons c rest =>
    obtain ⟨here, later⟩ := List.forall_mem_cons.mp each
    obtain ⟨d, value⟩ := digit?_of_mem here
    obtain ⟨first, entered⟩ := enters d c value
    obtain ⟨more, reaches⟩ := scan_digits family steps later first
    exact ⟨more, reaches_cons entered reaches⟩

/-- A state behind the digits before the point. -/
inductive Whole : ScanState → Prop where
  | zero : Whole .zero
  | integer (m : Magnitude) : Whole (.integer m)

/-- A state behind all digits but those of an exponent. -/
inductive Mantissa : ScanState → Prop where
  | whole {state : ScanState} (whole : Whole state) : Mantissa state
  | fraction (m : Magnitude) : Mantissa (.fraction m)

theorem complete_of_mantissa (mantissa : Mantissa state) : Complete state := by
  rcases mantissa with (_ | m) | m
  · exact complete_zero
  · exact complete_integer m
  · exact complete_fraction m

theorem scan_whole {whole : List Char} (integer : WholeText whole)
    (starts : state = between ∨ state = minus) : ∃ next, Reaches state whole next ∧ Whole next := by
  cases integer with
  | zero =>
    refine ⟨zero, ?_, .zero⟩
    rcases starts with rfl | rfl <;> exact reaches_one rfl
  | @digits first rest leads nonzero more =>
    have leading : ∀ c ∈ decimals, c ≠ '0' →
        between.step c = ([], .integer (.ofDigit (c.toNat - '0'.toNat))) ∧
          minus.step c = ([], .integer (.ofDigit (c.toNat - '0'.toNat))) :=
      forall_mem_of_all (by decide)
    obtain ⟨plain, negative⟩ := leading first leads nonzero
    obtain ⟨m, reaches⟩ := scan_digits integer
      (fun m d c value => ⟨m.pushInteger d, by simp [step, value]⟩) more
      (.ofDigit (first.toNat - '0'.toNat))
    refine ⟨.integer m, ?_, .integer m⟩
    rcases starts with rfl | rfl
    · exact reaches_cons plain reaches
    · exact reaches_cons negative reaches

theorem scan_fraction {fraction : List Char} (decimal : FractionText fraction)
    (whole : Whole state) : ∃ next, Reaches state fraction next ∧ Mantissa next := by
  cases decimal with
  | absent => exact ⟨state, reaches_nil, .whole whole⟩
  | @digits digits spelled =>
    obtain ⟨m, pointed⟩ : ∃ m, state.step '.' = ([], .point m) := by
      cases whole <;> exact ⟨_, rfl⟩
    obtain ⟨more, reaches⟩ := scan_someDigits (point m) fraction
      (fun d c value => ⟨m.pushFraction d, by simp [step, value]⟩)
      (fun m d c value => ⟨m.pushFraction d, by simp [step, value]⟩) spelled
    exact ⟨.fraction more, reaches_cons pointed reaches, .fraction more⟩

theorem digit?_signless {c : Char} {d : Nat} (value : digit? c = some d) : c ≠ '+' ∧ c ≠ '-' := by
  constructor <;> rintro rfl <;> cases value

theorem scan_exponent {exponent : List Char} (scaled : ExponentText exponent)
    (mantissa : Mantissa state) : ∃ next, Reaches state exponent next ∧ Complete next := by
  cases scaled with
  | absent => exact ⟨state, reaches_nil, complete_of_mantissa mantissa⟩
  | @digits letter sign digits marked signed spelled =>
    obtain ⟨m, entered⟩ : ∃ m, state.step letter = ([], .exponentSign m) := by
      simp only [List.mem_cons, List.not_mem_nil, or_false] at marked
      rcases mantissa with (_ | m) | m <;> rcases marked with rfl | rfl <;> exact ⟨_, rfl⟩
    have continues (negative : Bool) (read d : Nat) (c : Char) (value : digit? c = some d) :
        ∃ more, (ScanState.exponent m negative read).step c
          = ([], .exponent m negative more) := ⟨read * 10 + d, by simp [step, value]⟩
    simp only [List.mem_cons, List.not_mem_nil, or_false] at signed
    obtain ⟨negative, more, reaches⟩ : ∃ negative more,
        Reaches (.exponentSign m) (sign ++ digits) (.exponent m negative more) := by
      rcases signed with rfl | rfl | rfl
      · obtain ⟨more, reaches⟩ := scan_someDigits (exponentSign m) (exponent m false)
          (fun d c value => ⟨d, by simp [step, digit?_signless value, value]⟩) (continues false)
          spelled
        exact ⟨false, more, reaches⟩
      · obtain ⟨more, reaches⟩ := scan_someDigits (exponentFirst m false) (exponent m false)
          (fun d c value => ⟨d, by simp [step, value]⟩) (continues false) spelled
        exact ⟨false, more, reaches_cons rfl reaches⟩
      · obtain ⟨more, reaches⟩ := scan_someDigits (exponentFirst m true) (exponent m true)
          (fun d c value => ⟨d, by simp [step, value]⟩) (continues true) spelled
        exact ⟨true, more, reaches_cons rfl reaches⟩
    exact ⟨_, reaches_cons entered reaches, complete_exponent m negative more⟩

theorem scan_number {number : List Char} (spelled : NumberText number) :
    ∃ inRange, ∀ rest, Delimited rest →
      between.scan [] (number ++ rest) = .number inRange :: between.scan [] rest := by
  cases spelled with
  | @parts sign whole fraction exponent signed integer decimal scaled =>
    obtain ⟨first, afterSign, starts⟩ : ∃ first, Reaches between sign first ∧
        (first = between ∨ first = minus) := by
      cases signed with
      | positive => exact ⟨between, reaches_nil, .inl rfl⟩
      | negative => exact ⟨minus, reaches_one rfl, .inr rfl⟩
    obtain ⟨second, afterWhole, isWhole⟩ := scan_whole integer starts
    obtain ⟨third, afterFraction, mantissa⟩ := scan_fraction decimal isWhole
    obtain ⟨last, afterExponent, inRange, closes⟩ := scan_exponent scaled mantissa
    have reaches := reaches_append afterSign
      (reaches_append afterWhole (reaches_append afterFraction afterExponent))
    refine ⟨inRange, fun rest delimited => ?_⟩
    rw [reaches, closes rest delimited]

end Numbers

end ScanState
end SchemaDecls.Json
