import Mathlib.Data.List.Forall2
import Mathlib.Tactic.Choose
import SchemaDecls.Json.Decode
import SchemaDecls.Proofs.JsonGrammar

/-!
JSON values as a grammar: arrays and objects of any depth with blanks anywhere between the words.
The text of a value puts one tree, whole, into the container around it and leaves the reader where
the value ends. Any value that is not read is passed over.
-/
namespace SchemaDecls.Json
open ScanState

inductive Padded (inner : List Char) : List Char → Prop where
  | between {before after : List Char} (left : Blank before) (right : Blank after) :
      Padded inner (before ++ (inner ++ after))

/-- Parts with a comma between any two. -/
inductive SequenceText {α : Type} (Part : α → List Char → Prop) : List α → List Char → Prop where
  | one {part : α} {inner text : List Char} (spelled : Part part inner)
      (padded : Padded inner text) : SequenceText Part [part] text
  | more {part : α} {parts : List α} {inner text rest : List Char} (spelled : Part part inner)
      (padded : Padded inner text) (later : SequenceText Part parts rest) :
      SequenceText Part (part :: parts) (text ++ ',' :: rest)

inductive BracketText {α : Type} (opening closing : Char) (Part : α → List Char → Prop) :
    List α → List Char → Prop where
  | empty {inside : List Char} (blank : Blank inside) :
      BracketText opening closing Part [] (opening :: (inside ++ [closing]))
  | filled {parts : List α} {inside : List Char} (sequence : SequenceText Part parts inside) :
      BracketText opening closing Part parts (opening :: (inside ++ [closing]))

/-- An array, given the texts of its elements. -/
def ArrayText (elements : List (List Char)) (text : List Char) : Prop :=
  BracketText '[' ']' (fun element part => part = element) elements text

inductive MemberText {κ : Type} (KeyText : κ → List Char → Prop) :
    κ × List Char → List Char → Prop where
  | pair {key : κ} {spelled before after value : List Char} (named : KeyText key spelled)
      (left : Blank before) (right : Blank after) :
      MemberText KeyText (key, value) (spelled ++ (before ++ ':' :: (after ++ value)))

/-- An object, given its keys and the texts of their values. -/
def ObjectText {κ : Type} (KeyText : κ → List Char → Prop) (members : List (κ × List Char))
    (text : List Char) : Prop :=
  BracketText '\x7b' '\x7d' (MemberText KeyText) members text

inductive ValueText : List Char → Prop where
  | null : ValueText ['n', 'u', 'l', 'l']
  | true : ValueText ['t', 'r', 'u', 'e']
  | false : ValueText ['f', 'a', 'l', 's', 'e']
  | number {text : List Char} (spelled : NumberText text) : ValueText text
  | string {text : List Char} (spelled : LooseString text) : ValueText text
  | array {elements : List (List Char)} {text : List Char}
      (values : ∀ element ∈ elements, ValueText element) (layout : ArrayText elements text) :
      ValueText text
  | object {members : List (List Char × List Char)} {text : List Char}
      (keys : ∀ member ∈ members, LooseString member.1)
      (values : ∀ member ∈ members, ValueText member.2)
      (layout : ObjectText (fun key spelled => spelled = key) members text) : ValueText text

/-- Reads on behind a complete value. -/
def resume (value : Tree) (frames : List Frame) (tokens : List Token) : Parsed :=
  match place value frames with
  | .go awaiting frames => assemble awaiting frames tokens
  | .whole root => ⟨root, !tokens.isEmpty⟩
  | .stuck fault => breakOff fault .next frames

inductive TakesValue : Awaiting → Prop where
  | value : TakesValue .value
  | element : TakesValue .element

/-- Where a value is due, the text puts a tree into its place. -/
def Parses (text : List Char) (tree : Tree) : Prop :=
  ∀ awaiting frames rest, TakesValue awaiting → Delimited rest →
    assemble awaiting frames (between.scan [] (text ++ rest))
      = resume tree frames (between.scan [] rest)

theorem assemble_place {awaiting : Awaiting} {frames outer : List Frame} {token : Token}
    {value : Tree} (placed : advance awaiting frames token = place value outer)
    (tokens : List Token) :
    assemble awaiting frames (token :: tokens) = resume value outer tokens := by
  rw [assemble, placed]
  unfold resume
  match outer with
  | [] => rfl
  | .array _ :: _ => rfl
  | .object _ :: _ => rfl
  | .member _ _ :: _ => rfl

theorem parses_token {text : List Char} {tree : Tree} (token : Token)
    (scanned : ∀ rest, Delimited rest →
      between.scan [] (text ++ rest) = token :: between.scan [] rest)
    (begins : ∀ frames, beginValue frames token = place tree frames)
    (apart : token ≠ .closeArray) : Parses text tree := by
  intro awaiting frames rest takes delimited
  rw [scanned rest delimited]
  apply assemble_place
  cases takes with
  | value => exact begins frames
  | element => rw [advance, if_neg apart, begins]

theorem parses_null : Parses ['n', 'u', 'l', 'l'] .null :=
  parses_token .null (fun rest _ => scan_eq_append between [.null] rest)
    (fun _ => rfl) (by decide)

theorem parses_true : Parses ['t', 'r', 'u', 'e'] (.boolean true) :=
  parses_token (.boolean true) (fun rest _ => scan_eq_append between [.boolean true] rest)
    (fun _ => rfl) (by decide)

theorem parses_false : Parses ['f', 'a', 'l', 's', 'e'] (.boolean false) :=
  parses_token (.boolean false) (fun rest _ => scan_eq_append between [.boolean false] rest)
    (fun _ => rfl) (by decide)

theorem parses_number {text : List Char} (spelled : NumberText text) :
    ∃ inRange, Parses text (.number inRange) := by
  obtain ⟨inRange, scanned⟩ := scan_number spelled
  exact ⟨inRange, parses_token _ scanned (fun _ => rfl) (by simp)⟩

theorem parses_string {content : String} {text : List Char} (spelled : StringText content text) :
    Parses text (.text ⟨content, true⟩) :=
  parses_token _ (fun rest _ => scan_string spelled rest) (fun _ => rfl) (by simp)

theorem parses_looseString {text : List Char} (spelled : LooseString text) :
    ∃ literal, Parses text (.text literal) := by
  obtain ⟨literal, scanned⟩ := scan_looseString spelled
  exact ⟨literal, parses_token _ (fun rest _ => scanned rest) (fun _ => rfl) (by simp)⟩

theorem delimited_blank {blank rest : List Char} (isBlank : Blank blank)
    (delimited : Delimited rest) : Delimited (blank ++ rest) := by
  cases blank with
  | nil => exact delimited
  | cons c more =>
    intro first begins
    obtain rfl : c = first := by simpa using begins
    exact List.mem_append_left _ (isBlank c (by simp))

/-- How a container is read whose parts have been turned into trees, last first. -/
structure Container (β : Type) where
  opening : Char
  closing : Char
  frame : List β → Frame
  tree : List β → Tree
  /-- What is due behind the opening bracket. -/
  first : Awaiting
  /-- What is due behind a comma. -/
  later : Awaiting
  opens : ∀ awaiting frames rest, TakesValue awaiting →
    assemble awaiting frames (between.scan [] (opening :: rest))
      = assemble first (frame [] :: frames) (between.scan [] rest)
  separates : ∀ before frames rest,
    assemble .next (frame before :: frames) (between.scan [] (',' :: rest))
      = assemble later (frame before :: frames) (between.scan [] rest)
  closes : ∀ awaiting before frames rest, awaiting = .next ∨ awaiting = first →
    assemble awaiting (frame before :: frames) (between.scan [] (closing :: rest))
      = resume (tree before) frames (between.scan [] rest)
  delimits : closing ∈ delimiters

def arrays : Container Tree where
  opening := '['
  closing := ']'
  frame := .array
  tree before := .array (.prepend before .closed)
  first := .element
  later := .value
  opens awaiting frames rest takes := by
    rw [scan_cons]
    cases takes <;> rfl
  separates before frames rest := by
    rw [scan_cons]
    rfl
  closes awaiting before frames rest due := by
    rw [scan_cons]
    rcases due with rfl | rfl <;> exact assemble_place rfl _
  delimits := by decide

def objects : Container (Text × Tree) where
  opening := '\x7b'
  closing := '\x7d'
  frame := .object
  tree before := .object (.prepend before .closed)
  first := .firstKey
  later := .key
  opens awaiting frames rest takes := by
    rw [scan_cons]
    cases takes <;> rfl
  separates before frames rest := by
    rw [scan_cons]
    rfl
  closes awaiting before frames rest due := by
    rw [scan_cons]
    rcases due with rfl | rfl <;> exact assemble_place rfl _
  delimits := by decide

section Brackets
variable {α β : Type} (kind : Container β) {Part : α → List Char → Prop} {Reads : α → β → Prop}

/-- The text of a part adds what it reads to its container. -/
def Adds (part : List Char) (value : β) : Prop :=
  ∀ awaiting before frames rest, awaiting = kind.first ∨ awaiting = kind.later → Delimited rest →
    assemble awaiting (kind.frame before :: frames) (between.scan [] (part ++ rest))
      = assemble .next (kind.frame (value :: before) :: frames) (between.scan [] rest)

theorem adds_padded {inner text : List Char} {value : β} (adds : Adds kind inner value)
    (padded : Padded inner text) : Adds kind text value := by
  cases padded with
  | @between left right blankLeft blankRight =>
    intro awaiting before frames rest due delimited
    rw [List.append_assoc, scan_blank blankLeft, List.append_assoc,
      adds awaiting before frames _ due (delimited_blank blankRight delimited),
      scan_blank blankRight]

theorem sequence_adds (adds : ∀ part value text, Part part text → Reads part value →
      Adds kind text value)
    {parts : List α} {text : List Char} (sequence : SequenceText Part parts text) {values : List β}
    (read : List.Forall₂ Reads parts values) (awaiting : Awaiting) (before : List β)
    (frames : List Frame) (rest : List Char) (due : awaiting = kind.first ∨ awaiting = kind.later)
    (delimited : Delimited rest) :
    assemble awaiting (kind.frame before :: frames) (between.scan [] (text ++ rest))
      = assemble .next (kind.frame (values.reverse ++ before) :: frames)
          (between.scan [] rest) := by
  induction sequence generalizing values awaiting before with
  | @one part inner text spelled padded =>
    cases read with
    | cons here none =>
      cases none
      exact adds_padded kind (adds _ _ _ spelled here) padded awaiting before frames rest due
        delimited
  | @more part parts inner text more spelled padded later ih =>
    cases read with
    | @cons _ value _ values here others =>
      -- The comma ends the part even where it is a number.
      have behind : Delimited (',' :: (more ++ rest)) := by
        intro c first
        obtain rfl : ',' = c := by simpa using first
        decide
      have step := adds_padded kind (adds _ _ _ spelled here) padded awaiting before frames _ due
        behind
      rw [List.append_assoc, List.cons_append, step, kind.separates,
        ih others kind.later (value :: before) (.inr rfl), List.reverse_cons, List.append_assoc,
        List.singleton_append]

theorem bracket_parses (adds : ∀ part value text, Part part text → Reads part value →
      Adds kind text value)
    {parts : List α} {text : List Char}
    (layout : BracketText kind.opening kind.closing Part parts text) {values : List β}
    (read : List.Forall₂ Reads parts values) : Parses text (kind.tree values.reverse) := by
  intro awaiting frames rest takes delimited
  cases layout with
  | @empty inside blank =>
    cases read
    rw [List.cons_append, kind.opens awaiting frames _ takes, List.append_assoc, scan_blank blank,
      List.singleton_append, kind.closes _ _ frames rest (.inr rfl)]
    rfl
  | @filled parts inside sequence =>
    have closing : Delimited (kind.closing :: rest) := by
      intro c first
      obtain rfl : kind.closing = c := by simpa using first
      exact kind.delimits
    rw [List.cons_append, kind.opens awaiting frames _ takes, List.append_assoc,
      List.singleton_append,
      sequence_adds kind adds sequence read kind.first [] frames _ (.inl rfl) closing,
      kind.closes _ _ frames rest (.inl rfl), List.append_nil]

end Brackets

instance : Inhabited Text := ⟨⟨"", true⟩⟩

instance : Inhabited Tree := ⟨.null⟩

def Elements.ofList (trees : List Tree) : Elements := trees.foldr .cons .closed

def Entries.ofList (members : List (Text × Tree)) : Entries :=
  members.foldr (fun member rest => .cons member.1 member.2 rest) .closed

theorem parses_array {elements : List (List Char)} {text : List Char}
    (layout : ArrayText elements text) {trees : List Tree}
    (read : List.Forall₂ Parses elements trees) : Parses text (.array (.ofList trees)) := by
  have parsed := bracket_parses arrays ?_ layout read
  · have same : Elements.prepend trees.reverse .closed = .ofList trees := List.foldl_reverse
    exact same ▸ parsed
  · rintro element tree _ rfl parses awaiting before frames rest due delimited
    refine parses awaiting (.array before :: frames) rest ?_ delimited
    rcases due with rfl | rfl
    · exact .element
    · exact .value

/-- A text that is one token, namely a string. -/
def ScansKey (text : List Char) (key : Text) : Prop :=
  ∀ rest, between.scan [] (text ++ rest) = .text key :: between.scan [] rest

theorem parses_object {κ : Type} {KeyText : κ → List Char → Prop}
    {members : List (κ × List Char)} {text : List Char} (layout : ObjectText KeyText members text)
    {entries : List (Text × Tree)}
    (read : List.Forall₂ (fun member entry =>
      (∀ spelled, KeyText member.1 spelled → ScansKey spelled entry.1) ∧
        Parses member.2 entry.2) members entries) :
    Parses text (.object (.ofList entries)) := by
  have parsed := bracket_parses objects ?_ layout read
  · have same : Entries.prepend entries.reverse .closed = .ofList entries := List.foldl_reverse
    exact same ▸ parsed
  · rintro _ ⟨key, tree⟩ _ ⟨named, left, right⟩ ⟨scans, parses⟩ awaiting before frames rest due
      delimited
    -- A key is due, be it the first one or one behind a comma.
    have keyed : ∀ tokens, assemble awaiting (.object before :: frames) (.text key :: tokens)
        = assemble (.colon key) (.object before :: frames) tokens := by
      intro tokens
      rcases due with rfl | rfl <;> rfl
    have colon : ∀ rest, assemble (.colon key) (.object before :: frames)
        (between.scan [] (':' :: rest))
          = assemble .value (.member before key :: frames) (between.scan [] rest) := by
      intro rest
      rw [scan_cons]
      rfl
    simp only [List.append_assoc, List.cons_append]
    rw [scans _ named, show objects.frame before = .object before from rfl, keyed, scan_blank left,
      colon, scan_blank right, parses _ _ rest .value delimited]
    rfl

theorem skip_elements {trees : List Tree} (skipped : ∀ tree ∈ trees, tree.skip = .ok ()) :
    (Elements.ofList trees).skip = .ok () := by
  induction trees with
  | nil => rfl
  | cons tree rest ih =>
    obtain ⟨here, later⟩ := List.forall_mem_cons.mp skipped
    rw [Elements.ofList, List.foldr_cons, Elements.skip, here]
    exact ih later

theorem skip_entries {entries : List (Text × Tree)}
    (skipped : ∀ entry ∈ entries, entry.2.skip = .ok ()) :
    (Entries.ofList entries).skip = .ok () := by
  induction entries with
  | nil => rfl
  | cons entry rest ih =>
    obtain ⟨here, later⟩ := List.forall_mem_cons.mp skipped
    rw [Entries.ofList, List.foldr_cons, Entries.skip, here]
    exact ih later

/-- A value of any kind and depth is passed over. -/
theorem parses_value {text : List Char} (value : ValueText text) :
    ∃ tree, Parses text tree ∧ tree.skip = .ok () := by
  induction value with
  | null => exact ⟨_, parses_null, rfl⟩
  | true => exact ⟨_, parses_true, rfl⟩
  | false => exact ⟨_, parses_false, rfl⟩
  | number spelled =>
    obtain ⟨inRange, parses⟩ := parses_number spelled
    exact ⟨_, parses, rfl⟩
  | string spelled =>
    obtain ⟨literal, parses⟩ := parses_looseString spelled
    exact ⟨_, parses, rfl⟩
  | @array elements _ values layout ih =>
    choose! tree parses skipped using ih
    refine ⟨.array (.ofList (elements.map tree)), parses_array layout ?_, skip_elements ?_⟩
    · rw [List.forall₂_map_right_iff, List.forall₂_same]
      exact parses
    · simpa using skipped
  | @object members _ keys values layout ih =>
    have literals : ∀ member ∈ members, ∃ literal, ScansKey member.1 literal := fun member listed =>
      scan_looseString (keys member listed)
    choose! literal scans using literals
    choose! tree parses skipped using ih
    refine ⟨.object (.ofList (members.map fun member => (literal member, tree member))),
      parses_object layout ?_, skip_entries ?_⟩
    · rw [List.forall₂_map_right_iff, List.forall₂_same]
      rintro member listed
      exact ⟨fun _ same => same ▸ scans member listed, parses member listed⟩
    · intro entry listed
      obtain ⟨member, inside, rfl⟩ := List.mem_map.mp listed
      exact skipped member inside

end SchemaDecls.Json
