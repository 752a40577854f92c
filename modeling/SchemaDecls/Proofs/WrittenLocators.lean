import SchemaDecls.Proofs.ComponentNames
import SchemaDecls.Schema

/-!
Locators that references are made with. A reference to a named schema writes the name into its
locator as it is, and a locator is read with the escapes of a JSON Pointer undone. So the locator
leads back to the name where nothing in the name has to be escaped, and else to no schema or to
another one.
-/
namespace SchemaDecls

namespace Pointer

/-- A segment that a path spells as it is: no slash cuts it and no escape is in it. -/
structure Verbatim (segment : List Char) : Prop where
  unslashed : '/' ∉ segment
  noTilde : ¬ ['~', '0'] <:+: segment
  noSlash : ¬ ['~', '1'] <:+: segment

theorem length_decode_le (segment : List Char) : (decode segment).length ≤ segment.length := by
  induction segment using decode.induct with
  | case1 => simp [decode]
  | case2 c => simp [decode]
  | case3 c d rest escape ih =>
    rw [decode, if_pos escape, List.length_cons, List.length_cons, List.length_cons]
    omega
  | case4 c d rest notSlash escape ih =>
    rw [decode, if_neg notSlash, if_pos escape, List.length_cons, List.length_cons,
      List.length_cons]
    omega
  | case5 c d rest notSlash notTilde ih =>
    rw [decode, if_neg notSlash, if_neg notTilde, List.length_cons, List.length_cons]
    omega

theorem decode_eq_nil_iff (segment : List Char) : decode segment = [] ↔ segment = [] := by
  cases segment with
  | nil => simp [decode]
  | cons c rest =>
    cases rest with
    | nil => simp [decode]
    | cons d more =>
      unfold decode
      split
      · simp
      · split <;> simp

theorem pair_infix_cons_cons_iff {a b c d : Char} {rest : List Char} :
    [a, b] <:+: c :: d :: rest ↔ (c = a ∧ d = b) ∨ [a, b] <:+: d :: rest := by
  rw [List.infix_cons_iff, List.cons_prefix_cons, List.cons_prefix_cons]
  simp [eq_comm]

/-- Reading changes a segment exactly where an escape stands in it. -/
theorem decode_eq_self_iff (segment : List Char) :
    decode segment = segment ↔ ¬ ['~', '0'] <:+: segment ∧ ¬ ['~', '1'] <:+: segment := by
  induction segment using decode.induct with
  | case1 => simp [decode]
  | case2 c =>
    have alone : ∀ d, ¬ ['~', d] <:+: [c] := fun d inside => by simpa using inside.length_le
    simp [decode, alone]
  | case3 c d rest escape _ =>
    obtain ⟨rfl, rfl⟩ := escape
    simp [decode, pair_infix_cons_cons_iff]
  | case4 c d rest _ escape _ =>
    obtain ⟨rfl, rfl⟩ := escape
    have read : decode ('~' :: '0' :: rest) = '~' :: decode rest := by simp [decode]
    have shorter : '~' :: decode rest ≠ '~' :: '0' :: rest := by
      intro same
      have bound := length_decode_le rest
      have lengths := congrArg List.length same
      simp only [List.length_cons] at lengths
      omega
    simp [read, shorter, pair_infix_cons_cons_iff]
  | case5 c d rest notSlash notTilde ih =>
    have read : decode (c :: d :: rest) = c :: decode (d :: rest) := by
      simp [decode, notSlash, notTilde]
    simp only [read, List.cons.injEq, true_and, ih, pair_infix_cons_cons_iff, notSlash, notTilde,
      false_or]

theorem segments_eq_singleton_iff {c : Char} {text part : List Char} :
    Text.segments (· == c) text = [part] ↔ c ∉ text ∧ part = text := by
  rw [Text.segments_eq_iff, List.intercalate_singleton, List.forall_mem_singleton]
  constructor
  · rintro ⟨_, absent, rfl⟩
    exact ⟨absent, rfl⟩
  · rintro ⟨absent, rfl⟩
    exact ⟨by simp, absent, rfl⟩

/-- Slashes in a name cut it like any other part of the path. -/
theorem fragmentSegments?_written (name : String) :
    fragmentSegments? ("#/components/schemas/" ++ name)
      = some ("components" :: "schemas" :: (Text.segments (· == '/') name.toList).map
          fun part => String.ofList (decode part)) := by
  refine fragmentSegments?_eq_some_iff.mpr
    ⟨[], "components/schemas/".toList ++ name.toList, by simp, by simp, ?_⟩
  have front : "components/schemas/".toList ++ name.toList
      = "components".toList ++ '/' :: ("schemas".toList ++ '/' :: name.toList) := by simp
  have plain : ∀ word ∈ ["components".toList, "schemas".toList],
      Text.segments (· == '/') word = [word] ∧ decode word = word := by decide
  simp only [List.forall_mem_cons] at plain
  obtain ⟨⟨first, firstRead⟩, ⟨second, secondRead⟩, _⟩ := plain
  rw [front, Text.segments_append_separator _ _ _ _ rfl,
    Text.segments_append_separator _ _ _ _ rfl, first, second]
  simp only [List.singleton_append, List.map_cons, firstRead, secondRead, String.ofList_toList]

theorem componentName?_written_iff {name read : String} :
    componentName? ("#/components/schemas/" ++ name) = some read ↔
      name ≠ "" ∧ '/' ∉ name.toList ∧ read.toList = decode name.toList := by
  have oneTable : ∀ parts : List String,
      (∃ table ∈ schemaTables, "components" :: "schemas" :: parts = table ++ [read]) ↔
        parts = [read] := by
    intro parts
    simp [schemaTables]
  have oneSegment : (Text.segments (· == '/') name.toList).map
      (fun part => String.ofList (decode part)) = [read] ↔
        '/' ∉ name.toList ∧ read.toList = decode name.toList := by
    simp only [List.map_eq_singleton_iff, segments_eq_singleton_iff]
    constructor
    · rintro ⟨part, ⟨absent, rfl⟩, rfl⟩
      exact ⟨absent, String.toList_ofList⟩
    · rintro ⟨absent, same⟩
      exact ⟨name.toList, ⟨absent, rfl⟩, by rw [← same, String.ofList_toList]⟩
  have filled : read.toList = decode name.toList → (read ≠ "" ↔ name ≠ "") := by
    intro same
    rw [not_iff_not, ← String.toList_inj, ← String.toList_inj, same, String.toList_empty,
      decode_eq_nil_iff]
  rw [componentName?_eq_some_iff_segments]
  simp only [fragmentSegments?_written, Option.some.injEq, oneTable, oneSegment]
  constructor
  · rintro ⟨named, absent, same⟩
    exact ⟨(filled same).mp named, absent, same⟩
  · rintro ⟨named, absent, same⟩
    exact ⟨(filled same).mpr named, absent, same⟩

end Pointer

namespace Schema

/-- The reference to a named schema has a local locator. What is read from it is the name with its
escapes undone, or nothing if a slash is in the name: the name itself exactly where the name spells
itself in a path. -/
theorem objectRef_names_itself_iff (id : String) : ∃ locator,
    (objectRef id).reference = some ⟨some id, some locator⟩ ∧
    Pointer.isLocal locator = true ∧
    (∀ read, Pointer.componentName? locator = some read ↔
      id ≠ "" ∧ '/' ∉ id.toList ∧ read.toList = Pointer.decode id.toList) ∧
    (Pointer.componentName? locator = some id ↔ id ≠ "" ∧ Pointer.Verbatim id.toList) := by
  refine ⟨"#/components/schemas/" ++ id, rfl, ?_, fun read => Pointer.componentName?_written_iff,
    ?_⟩
  · simp [Pointer.isLocal]
  · have spelled := eq_comm.trans (Pointer.decode_eq_self_iff id.toList)
    rw [Pointer.componentName?_written_iff, spelled]
    constructor
    · rintro ⟨named, unslashed, noTilde, noSlash⟩
      exact ⟨named, unslashed, noTilde, noSlash⟩
    · rintro ⟨named, unslashed, noTilde, noSlash⟩
      exact ⟨named, unslashed, noTilde, noSlash⟩

/-- A slash in the name hides the schema from its own reference, and an escape in the name makes the
reference mean another schema. -/
theorem objectRef_astray :
    (objectRef "a/b").reference = some ⟨some "a/b", some "#/components/schemas/a/b"⟩ ∧
      Pointer.componentName? "#/components/schemas/a/b" = none ∧
      (objectRef "a~1b").reference = some ⟨some "a~1b", some "#/components/schemas/a~1b"⟩ ∧
      Pointer.componentName? "#/components/schemas/a~1b" = some "a/b" ∧ "a/b" ≠ "a~1b" := by
  decide

end Schema
end SchemaDecls
