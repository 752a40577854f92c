import SchemaDecls.Proofs.SnakeNames
import SchemaDecls.Proofs.SourceText

/-!
The marks that make a name legal. A reserved word or a leading digit is marked at one end of the
name, with characters that no normalized name holds there, so a marked name is legal and the name
it stands for can be told from it.
-/
namespace SchemaDecls

/-- A name that can be declared where the words `reserved` have another meaning. -/
structure LegalName (reserved : List String) (name : String) : Prop where
  nonempty : name ≠ ""
  unreserved : name ∉ reserved
  undigited : ∀ c ∈ name.toList.head?, Character.isNumeric c = false

theorem undigited_of_not_any {name : String}
    (free : ¬ (name.toList.head?.any Character.isNumeric) = true) :
    ∀ c ∈ name.toList.head?, Character.isNumeric c = false := by
  intro c begins
  rw [Option.mem_def.mp begins] at free
  simpa using free

theorem CSharp.identifier_legal {name : String} (named : name ≠ "") :
    LegalName keywords (identifier name) := by
  refine ⟨?_, fun listed => identifier_ne_keyword listed rfl, ?_⟩
  · unfold identifier
    split
    · simp
    · split
      · simp
      · exact named
  · unfold identifier
    split
    · have mark : Character.isNumeric '@' = false := by decide +kernel
      simp [mark]
    · split
      · have mark : Character.isNumeric '_' = false := by decide +kernel
        simp [mark]
      · next free => exact undigited_of_not_any free

namespace Rust

/-- The words that mean something else, with or without a raw form. -/
def reserved : List String := pathKeywords ++ keywords

theorem reserved_unmarked : ∀ word ∈ reserved,
    word.toList.head? ≠ some '_' ∧ '#' ∉ word.toList := by decide

theorem marked_pathKeywords_legal :
    ∀ word ∈ pathKeywords, (word ++ "_") ∉ reserved ∧
      ¬ ((word ++ "_").toList.head?.any Character.isNumeric) = true := by
  decide +kernel

theorem identifier_legal {name : String} (named : name ≠ "") :
    LegalName reserved (identifier name) := by
  unfold identifier
  split
  · next path =>
    have legal := marked_pathKeywords_legal name (by simpa using path)
    exact ⟨by simp, legal.1, undigited_of_not_any legal.2⟩
  · next free =>
    split
    · refine ⟨by simp, ?_, ?_⟩
      · intro listed
        exact (reserved_unmarked _ listed).2 (by simp)
      · have mark : Character.isNumeric 'r' = false := by decide +kernel
        simp [mark]
    · next unlisted =>
      split
      · refine ⟨by simp, ?_, ?_⟩
        · intro listed
          exact (reserved_unmarked _ listed).1 (by simp)
        · have mark : Character.isNumeric '_' = false := by decide +kernel
          simp [mark]
      · next undigited =>
        have unreserved : name ∉ reserved := by
          rw [reserved, List.mem_append, not_or]
          exact ⟨by simpa using free, by simpa using unlisted⟩
        exact ⟨named, unreserved, undigited_of_not_any undigited⟩

/-- A name with no mark of an identifier at its ends. -/
structure Unmarked (name : String) : Prop where
  front : name.toList.head? ≠ some '_'
  back : name.toList.getLast? ≠ some '_'
  raw : '#' ∉ name.toList

instance (name : String) : Decidable (Unmarked name) :=
  decidable_of_iff (name.toList.head? ≠ some '_' ∧ name.toList.getLast? ≠ some '_' ∧
      '#' ∉ name.toList)
    ⟨fun own => ⟨own.1, own.2.1, own.2.2⟩, fun own => ⟨own.front, own.back, own.raw⟩⟩

/-- What an identifier stands for: its mark is taken off. -/
def stem : List Char → List Char
  | 'r' :: '#' :: rest => rest
  | '_' :: rest => rest
  | text => if text.getLast? = some '_' then text.dropLast else text

theorem stem_pathKeywords :
    ∀ word ∈ pathKeywords, stem (word ++ "_").toList = word.toList := by decide

theorem stem_unmarked {name : String} (own : Unmarked name) : stem name.toList = name.toList := by
  unfold stem
  split
  · next rest spelled => exact absurd (by simp [spelled]) own.raw
  · next rest spelled => exact absurd (by simp [spelled]) own.front
  · rw [if_neg own.back]

/-- The name that an identifier stands for can be told from it. -/
theorem stem_identifier {name : String} (own : Unmarked name) :
    stem (identifier name).toList = name.toList := by
  unfold identifier
  split
  · next path => exact stem_pathKeywords name (by simpa using path)
  · split
    · simp [stem]
    · split
      · simp [stem]
      · exact stem_unmarked own

theorem identifier_eq_iff {name other : String} (own : Unmarked name) (ownOther : Unmarked other) :
    identifier name = identifier other ↔ name = other := by
  constructor
  · intro same
    have stems := congrArg (fun text => stem text.toList) same
    simp only [stem_identifier own, stem_identifier ownOther] at stems
    exact String.toList_inj.mp stems
  · rintro rfl
    rfl

theorem unmarked_pascal (text : String) : Unmarked (Name.pascal text) := by
  have own := Name.pascal_spelled text
  have underscore : '_' ∉ (Name.pascal text).toList :=
    not_mem_of_spelled own (by decide) (by simp)
  exact ⟨fun begins => underscore (List.mem_of_mem_head? begins),
    fun ends => underscore (List.mem_of_mem_getLast? ends),
    not_mem_of_spelled own (by decide) (by simp)⟩

theorem unmarked_snake (text : String) : Unmarked (Name.snake text) :=
  ⟨(Name.snake_ends text).1, (Name.snake_ends text).2,
    not_mem_of_spelled (Name.snake_spelled text) (by decide) (by decide)⟩

end Rust

/-- Every normalized name that is not empty makes legal identifiers in both languages. Two such
names make one identifier of a type only when they are one name, and one identifier of a field in
Rust only when their forms in snake case are one. -/
theorem identifiers_legal_and_distinct (text other : String) :
    let name := Name.pascal text
    let second := Name.pascal other
    (name ≠ "" →
      LegalName CSharp.keywords (CSharp.identifier name) ∧
      LegalName Rust.reserved (Rust.identifier name) ∧
      LegalName Rust.reserved (Rust.fieldIdentifier name)) ∧
    (CSharp.identifier name = CSharp.identifier second ↔ name = second) ∧
    (Rust.identifier name = Rust.identifier second ↔ name = second) ∧
    (Rust.fieldIdentifier name = Rust.fieldIdentifier second ↔
      Name.snake name = Name.snake second) := by
  intro name second
  refine ⟨?_, ?_, ?_, ?_⟩
  · intro named
    exact ⟨CSharp.identifier_legal named, Rust.identifier_legal named,
      Rust.identifier_legal (Name.snake_pascal_ne_empty named)⟩
  · constructor
    · exact CSharp.identifier_inj (Name.pascal_spelled text) (Name.pascal_spelled other)
    · intro same
      rw [same]
  · exact Rust.identifier_eq_iff (Rust.unmarked_pascal text) (Rust.unmarked_pascal other)
  · exact Rust.identifier_eq_iff (Rust.unmarked_snake name) (Rust.unmarked_snake second)

theorem identifiers_legal_and_distinct_self :
    Name.pascal "self" ≠ "" ∧ LegalName CSharp.keywords "Self" ∧ LegalName Rust.reserved "Self_" ∧
      LegalName Rust.reserved "self_" ∧
      Rust.fieldIdentifier (Name.pascal "self") ≠ Rust.fieldIdentifier (Name.pascal "type") := by
  have named : Name.pascal "self" ≠ "" := by decide +kernel
  have csharp : CSharp.identifier (Name.pascal "self") = "Self" := by decide +kernel
  have rust : Rust.identifier (Name.pascal "self") = "Self_" := by decide +kernel
  have field : Rust.fieldIdentifier (Name.pascal "self") = "self_" := by decide +kernel
  have apart : Name.snake (Name.pascal "self") ≠ Name.snake (Name.pascal "type") := by
    decide +kernel
  obtain ⟨legal, -, -, fields⟩ := identifiers_legal_and_distinct "self" "type"
  obtain ⟨inCSharp, inRust, ofField⟩ := legal named
  exact ⟨named, csharp ▸ inCSharp, rust ▸ inRust, field ▸ ofField,
    fun same => apart (fields.mp same)⟩

end SchemaDecls
