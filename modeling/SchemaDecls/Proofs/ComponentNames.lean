import Mathlib.Data.List.Induction
import SchemaDecls.Proofs.PointerSegments

/-!
The locators that name a schema. There is a name exactly where the fragment of a locator is the path
of a member of a schema table, and the name is the last segment, its escapes read in one pass.
Undoing `~1` everywhere and `~0` afterwards is such a pass, since no step of it makes a new escape.
-/
namespace SchemaDecls

namespace Text
variable {c : Char}

theorem segments_cons_self (rest : List Char) :
    segments (· == c) (c :: rest) = [] :: segments (· == c) rest := by
  simp [segments]

theorem intercalate_segments (text : List Char) :
    List.intercalate [c] (segments (· == c) text) = text := by
  induction text with
  | nil => simp [segments, List.intercalate]
  | cons d rest ih =>
    cases parts : segments (· == c) rest with
    | nil => exact absurd parts (segments_ne_nil _ rest)
    | cons first others =>
      rw [parts] at ih
      by_cases cut : d = c
      · subst cut
        rw [segments_cons_self, parts, List.intercalate_cons_cons, ih]
        rfl
      · have kept : segments (· == c) (d :: rest) = (d :: first) :: others := by
          simp [segments, cut, parts]
        rw [kept]
        cases others with
        | nil => simpa [List.intercalate] using ih
        | cons second more =>
          rw [List.intercalate_cons_cons] at ih ⊢
          rw [List.cons_append, List.cons_append, ih]

theorem segments_intercalate {parts : List (List Char)} (some_part : parts ≠ [])
    (whole : ∀ part ∈ parts, c ∉ part) :
    segments (· == c) (List.intercalate [c] parts) = parts := by
  induction parts with
  | nil => exact absurd rfl some_part
  | cons first others ih =>
    have uncut : ∀ d ∈ first, (d == c) = false := by
      intro d inside
      rw [beq_eq_false_iff_ne]
      rintro rfl
      exact whole first (by simp) inside
    cases others with
    | nil => simpa [List.intercalate] using segments_of_unseparated _ first uncut
    | cons second more =>
      have later := ih (by simp) fun part member => whole part (List.mem_cons_of_mem _ member)
      rw [List.intercalate_cons_cons, List.append_assoc, List.singleton_append,
        segments_append_separator _ _ _ _ (by simp), later, segments_of_unseparated _ first uncut,
        List.singleton_append]

/-- A text is cut in one way only. -/
theorem segments_eq_iff {text : List Char} {parts : List (List Char)} :
    segments (· == c) text = parts ↔
      parts ≠ [] ∧ (∀ part ∈ parts, c ∉ part) ∧ text = List.intercalate [c] parts := by
  constructor
  · rintro rfl
    refine ⟨segments_ne_nil _ text, ?_, (intercalate_segments text).symm⟩
    intro part member inside
    simpa using unseparated_of_mem_segments member inside
  · rintro ⟨some_part, whole, rfl⟩
    exact segments_intercalate some_part whole

end Text

namespace Pointer

/-- What an escaped segment says, read once: a `~` with neither `0` nor `1` behind it is a `~`. -/
def decode : List Char → List Char
  | [] => []
  | [c] => [c]
  | c :: d :: rest =>
    if c = '~' ∧ d = '1' then '/' :: decode rest
    else if c = '~' ∧ d = '0' then '~' :: decode rest
    else c :: decode (d :: rest)

theorem replaceEscape_head (digit plain d : Char) (rest : List Char) :
    ∃ head tail, replaceEscape digit plain (d :: rest) = head :: tail ∧
      (head = d ∨ head = plain) := by
  cases rest with
  | nil => exact ⟨d, [], rfl, Or.inl rfl⟩
  | cons e rest =>
    unfold replaceEscape
    split
    · exact ⟨plain, _, rfl, Or.inr rfl⟩
    · exact ⟨d, _, rfl, Or.inl rfl⟩

/-- Undoing `~1` leaves a `~` in front of a `0` only where one was. -/
theorem unescapeChars_eq_decode (segment : List Char) : unescapeChars segment = decode segment := by
  unfold unescapeChars
  induction segment using decode.induct with
  | case1 => rfl
  | case2 c => rfl
  | case3 c d rest escape ih =>
    obtain ⟨rfl, rfl⟩ := escape
    have slash : replaceEscape '1' '/' ('~' :: '1' :: rest)
        = '/' :: replaceEscape '1' '/' rest := by simp [replaceEscape]
    rw [slash, replaceEscape_cons_of_ne (by decide), ih]
    simp [decode]
  | case4 c d rest _ escape ih =>
    obtain ⟨rfl, rfl⟩ := escape
    have tilde : replaceEscape '0' '~' ('~' :: '0' :: replaceEscape '1' '/' rest)
        = '~' :: replaceEscape '0' '~' (replaceEscape '1' '/' rest) := by simp [replaceEscape]
    rw [replaceEscape_cons_cons_of_ne (by decide),
      replaceEscape_cons_of_ne (c := '0') (by decide), tilde, ih]
    simp [decode]
  | case5 c d rest notSlash notTilde ih =>
    have read : decode (c :: d :: rest) = c :: decode (d :: rest) := by
      simp [decode, notSlash, notTilde]
    rw [read, ← ih]
    by_cases mark : c = '~'
    · subst mark
      have noOne : d ≠ '1' := fun same => notSlash ⟨rfl, same⟩
      have noZero : d ≠ '0' := fun same => notTilde ⟨rfl, same⟩
      obtain ⟨head, tail, first, origin⟩ := replaceEscape_head '1' '/' d rest
      have apart : head ≠ '0' := by
        rcases origin with rfl | rfl
        · exact noZero
        · decide
      rw [replaceEscape_cons_cons_of_ne noOne, first, replaceEscape_cons_cons_of_ne apart]
    · rw [replaceEscape_cons_of_ne mark, replaceEscape_cons_of_ne mark]

theorem decode_of_plain {text : List Char} (noTilde : '~' ∉ text) : decode text = text := by
  induction text using decode.induct with
  | case1 => rfl
  | case2 c => rfl
  | case3 c d rest escape ih => simp [escape] at noTilde
  | case4 c d rest _ escape ih => simp [escape] at noTilde
  | case5 c d rest notSlash notTilde ih =>
    simp [decode, notSlash, notTilde, ih (fun inside => noTilde (List.mem_cons_of_mem _ inside))]

/-- An escape leaves its mark, so a text without `/` and `~` is read only where it is spelled. -/
theorem eq_of_decode_plain {segment : List Char} (noSlash : '/' ∉ decode segment)
    (noTilde : '~' ∉ decode segment) : segment = decode segment := by
  induction segment using decode.induct with
  | case1 => rfl
  | case2 c => rfl
  | case3 c d rest escape ih => simp [decode, escape] at noSlash
  | case4 c d rest _ escape ih => simp [decode, escape] at noTilde
  | case5 c d rest notSlash notTilde ih =>
    have read : decode (c :: d :: rest) = c :: decode (d :: rest) := by
      simp [decode, notSlash, notTilde]
    rw [read] at noSlash noTilde ⊢
    rw [← ih (fun inside => noSlash (List.mem_cons_of_mem _ inside))
      (fun inside => noTilde (List.mem_cons_of_mem _ inside))]

theorem decode_escape (segment : String) : decode (escape segment).toList = segment.toList := by
  rw [← unescapeChars_eq_decode, ← String.toList_ofList (l := unescapeChars _),
    unescapeChars_escape]

theorem fragment?_eq_some_iff {text rest : List Char} :
    fragment? text = some rest ↔ ∃ before, '#' ∉ before ∧ text = before ++ '#' :: rest := by
  induction text with
  | nil => simp [fragment?]
  | cons c later ih =>
    by_cases mark : c = '#'
    · subst mark
      simp only [fragment?, Option.some.injEq]
      constructor
      · rintro rfl
        exact ⟨[], by simp, rfl⟩
      · rintro ⟨before, unmarked, same⟩
        cases before with
        | nil => exact (List.cons.inj same).2
        | cons d before =>
          obtain ⟨rfl, _⟩ := List.cons.inj same
          simp at unmarked
    · have skipped : fragment? (c :: later) = fragment? later := by simp [fragment?]
      rw [skipped, ih]
      constructor
      · rintro ⟨before, unmarked, rfl⟩
        exact ⟨c :: before, by simp [unmarked, Ne.symm mark], rfl⟩
      · rintro ⟨before, unmarked, same⟩
        cases before with
        | nil => exact absurd (List.cons.inj same).1 mark
        | cons d before =>
          obtain ⟨rfl, rfl⟩ := List.cons.inj same
          exact ⟨before, fun inside => unmarked (List.mem_cons_of_mem _ inside), rfl⟩

theorem fragmentSegments?_eq_some_iff {locator : String} {read : List String} :
    fragmentSegments? locator = some read ↔ ∃ before rest, '#' ∉ before ∧
      locator.toList = before ++ '#' :: '/' :: rest ∧
      (Text.segments (· == '/') rest).map (fun part => String.ofList (decode part)) = read := by
  have cut : ∀ rest, fragment? locator.toList = some ('/' :: rest) ↔
      ∃ before, '#' ∉ before ∧ locator.toList = before ++ '#' :: '/' :: rest :=
    fun rest => fragment?_eq_some_iff
  unfold fragmentSegments?
  simp only [unescapeChars_eq_decode]
  constructor
  · intro found
    split at found
    · next rest fragment =>
      obtain ⟨before, unmarked, same⟩ := (cut rest).mp fragment
      exact ⟨before, rest, unmarked, same, Option.some.inj found⟩
    · cases found
  · rintro ⟨before, rest, unmarked, same, rfl⟩
    rw [(cut rest).mpr ⟨before, unmarked, same⟩]
    rfl

theorem componentName?_eq_some_iff_segments {locator name : String} :
    componentName? locator = some name ↔
      name ≠ "" ∧ ∃ table ∈ schemaTables, fragmentSegments? locator = some (table ++ [name]) := by
  unfold componentName?
  cases read : fragmentSegments? locator with
  | none => simp
  | some segments =>
    cases segments using List.reverseRecOn with
    | nil => simp
    | append_singleton before last =>
      simp only [Option.bind_eq_bind, Option.bind_some, List.getLast?_concat, List.dropLast_concat,
        Option.ite_none_right_eq_some, Bool.and_eq_true, List.contains_iff_mem, Bool.not_eq_true',
        Option.some.injEq, List.append_singleton_inj]
      constructor
      · rintro ⟨⟨listed, named⟩, rfl⟩
        exact ⟨by simpa using named, before, listed, rfl, rfl⟩
      · rintro ⟨named, table, listed, rfl, rfl⟩
        exact ⟨⟨listed, by simpa using named⟩, rfl⟩

/-- The paths of the schema tables. -/
def tablePaths : List String := ["/components/schemas", "/definitions", "/$defs"]

/-- A path of segments that need no escapes. -/
def plainPath (segments : List String) : List Char :=
  segments.flatMap fun part => '/' :: part.toList

theorem tablePaths_plain : tablePaths.map String.toList = schemaTables.map plainPath := by decide

theorem schemaTables_plain : ∀ table ∈ schemaTables, ∀ segment ∈ table,
    '/' ∉ segment.toList ∧ '~' ∉ segment.toList := by decide

/-- The segments of a table hold no escapes, so they are read only where they are spelled. -/
theorem map_decode_eq_iff {table : List String}
    (plain : ∀ segment ∈ table, '/' ∉ segment.toList ∧ '~' ∉ segment.toList) {name : String}
    {parts : List (List Char)} :
    parts.map (fun part => String.ofList (decode part)) = table ++ [name] ↔
      ∃ escaped, parts = table.map String.toList ++ [escaped] ∧ decode escaped = name.toList := by
  induction table generalizing parts with
  | nil =>
    cases parts with
    | nil => simp
    | cons first others =>
      simp only [List.map_cons, List.nil_append, List.cons.injEq, List.map_eq_nil_iff, List.map_nil,
        ← String.toList_inj, String.toList_ofList]
      constructor
      · rintro ⟨read, alone⟩
        exact ⟨first, ⟨rfl, alone⟩, read⟩
      · rintro ⟨escaped, ⟨rfl, alone⟩, read⟩
        exact ⟨read, alone⟩
  | cons segment rest ih =>
    obtain ⟨own, later⟩ := List.forall_mem_cons.mp plain
    cases parts with
    | nil => simp
    | cons first others =>
      have same : String.ofList (decode first) = segment ↔ first = segment.toList := by
        rw [← String.toList_inj, String.toList_ofList]
        constructor
        · intro read
          rw [← read] at own ⊢
          exact eq_of_decode_plain own.1 own.2
        · rintro rfl
          exact decode_of_plain own.2
      rw [List.map_cons, List.cons_append, List.cons.injEq, same, ih later]
      simp only [List.map_cons, List.cons_append, List.cons.injEq]
      constructor
      · rintro ⟨rfl, escaped, rfl, read⟩
        exact ⟨escaped, ⟨rfl, rfl⟩, read⟩
      · rintro ⟨escaped, ⟨rfl, rfl⟩, read⟩
        exact ⟨rfl, escaped, rfl, read⟩

theorem intercalate_member (table : List String) (escaped : List Char) :
    '/' :: List.intercalate ['/'] (table.map String.toList ++ [escaped])
      = plainPath table ++ '/' :: escaped := by
  induction table with
  | nil => simp [plainPath]
  | cons segment rest ih =>
    have path : plainPath (segment :: rest) = '/' :: segment.toList ++ plainPath rest := by
      simp [plainPath]
    rw [path, List.append_assoc, ← ih]
    cases rest <;> simp [List.intercalate_cons_cons]

theorem fragmentSegments?_member_iff {locator name : String} {table : List String}
    (plain : ∀ segment ∈ table, '/' ∉ segment.toList ∧ '~' ∉ segment.toList) :
    fragmentSegments? locator = some (table ++ [name]) ↔ ∃ before escaped, '#' ∉ before ∧
      '/' ∉ escaped ∧ locator.toList = before ++ '#' :: (plainPath table ++ '/' :: escaped) ∧
      decode escaped = name.toList := by
  simp only [fragmentSegments?_eq_some_iff, map_decode_eq_iff plain, ← intercalate_member,
    Text.segments_eq_iff]
  constructor
  · rintro ⟨before, _, unmarked, same, escaped, ⟨_, whole, rfl⟩, read⟩
    exact ⟨before, escaped, unmarked, whole escaped (by simp), same, read⟩
  · rintro ⟨before, escaped, unmarked, whole, same, read⟩
    refine ⟨before, _, unmarked, same, escaped, ⟨by simp, ?_, rfl⟩, read⟩
    intro part member
    rcases List.mem_append.mp member with inTable | last
    · obtain ⟨segment, listed, rfl⟩ := List.mem_map.mp inTable
      exact (plain segment listed).1
    · exact List.mem_singleton.mp last ▸ whole

theorem componentName?_eq_some_iff {locator name : String} :
    componentName? locator = some name ↔ name ≠ "" ∧ ∃ before table escaped,
      '#' ∉ before.toList ∧ table ∈ tablePaths ∧ '/' ∉ escaped.toList ∧
      locator = before ++ "#" ++ table ++ "/" ++ escaped ∧
      name.toList = decode escaped.toList := by
  rw [componentName?_eq_some_iff_segments]
  refine and_congr_right fun _ => ?_
  constructor
  · rintro ⟨table, listed, read⟩
    obtain ⟨before, escaped, unmarked, whole, same, decoded⟩ :=
      (fragmentSegments?_member_iff (schemaTables_plain table listed)).mp read
    have path : plainPath table ∈ tablePaths.map String.toList := by
      rw [tablePaths_plain]
      exact List.mem_map_of_mem listed
    obtain ⟨spelled, among, text⟩ := List.mem_map.mp path
    refine ⟨String.ofList before, spelled, String.ofList escaped, ?_, among, ?_, ?_, ?_⟩
    · simpa using unmarked
    · simpa using whole
    · rw [← String.toList_inj, same, ← text]
      simp
    · simpa using decoded.symm
  · rintro ⟨before, spelled, escaped, unmarked, among, whole, rfl, decoded⟩
    have path : spelled.toList ∈ schemaTables.map plainPath := by
      rw [← tablePaths_plain]
      exact List.mem_map_of_mem among
    obtain ⟨table, listed, text⟩ := List.mem_map.mp path
    refine ⟨table, listed, (fragmentSegments?_member_iff (schemaTables_plain table listed)).mpr ?_⟩
    exact ⟨before.toList, escaped.toList, unmarked, whole, by simp [text], decoded.symm⟩

/-- A locator names the schema `name` exactly when its fragment is the path of a member of a schema
table, with an escaped name that reads as `name` in one pass. So every name but the empty one is
read back from the fragment that `push` makes of it. -/
theorem componentName?_reads_members (name : String) :
    (∀ locator, componentName? locator = some name ↔ name ≠ "" ∧ ∃ before table escaped,
      '#' ∉ before.toList ∧ table ∈ tablePaths ∧ '/' ∉ escaped.toList ∧
      locator = before ++ "#" ++ table ++ "/" ++ escaped ∧
      name.toList = decode escaped.toList) ∧
    (name ≠ "" → ∀ table ∈ tablePaths, componentName? ("#" ++ push table name) = some name) := by
  refine ⟨fun _ => componentName?_eq_some_iff, ?_⟩
  intro named table listed
  rw [componentName?_eq_some_iff]
  refine ⟨named, "", table, escape name, by simp, listed, ?_, ?_, (decode_escape name).symm⟩
  · intro inside
    simpa using escape_unseparated name '/' inside
  · rw [← String.toList_inj]
    simp [push]

theorem componentName?_reads_members_marked :
    "~01/#~" ≠ "" ∧ "/$defs" ∈ tablePaths ∧ "#" ++ push "/$defs" "~01/#~" = "#/$defs/~001~1#~0" ∧
      componentName? "#/$defs/~001~1#~0" = some "~01/#~" := by
  have named : "~01/#~" ≠ "" := by decide
  have listed : "/$defs" ∈ tablePaths := by decide
  have spelled : "#" ++ push "/$defs" "~01/#~" = "#/$defs/~001~1#~0" := by decide
  refine ⟨named, listed, spelled, ?_⟩
  rw [← spelled]
  exact (componentName?_reads_members "~01/#~").2 named "/$defs" listed

end Pointer
end SchemaDecls
