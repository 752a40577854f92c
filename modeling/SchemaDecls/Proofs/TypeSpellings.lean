import SchemaDecls.Generate
import SchemaDecls.Proofs.Declarations
import SchemaDecls.Proofs.EscapedNames

/-!
Types against their spellings in Rust. A list opens with a bracket, which no name holds, and of the
words for built-in types only `String` begins with a capital, as a normalized name does. So a class
of that name is the only class that is spelled as a built-in type.
-/
namespace SchemaDecls

theorem Name.pascal_begins_capital (text : String) :
    (pascal text).toList.head?.all (fun first => Character.toUpper first == [first]) = true := by
  rw [pascal_eq_joined, Option.all_eq_true]
  intro first begins
  obtain ⟨rest, spelled⟩ := List.head?_eq_some_iff.mp begins
  simpa using (head_of_joined spelled).2

namespace Rust

/-- A class named `String` and the type of texts, under any number of lists. -/
inductive Shadows : TargetType → TargetType → Prop where
  | string : Shadows (.named "String") .text
  | list {type other : TargetType} : Shadows type other → Shadows (.list type) (.list other)

theorem shadows_ne {type other : TargetType} (shadow : Shadows type other) : type ≠ other := by
  induction shadow with
  | string => simp
  | list inner ih =>
    intro same
    exact ih (TargetType.list.inj same)

theorem renderType_of_shadows {type other : TargetType} (shadow : Shadows type other) :
    renderType type = renderType other := by
  induction shadow with
  | string => decide +kernel
  | list inner ih => rw [renderType, renderType, ih]

/-- The words for built-in types that begin with a small letter. -/
def smallTypes : List String := ["bool", "i32", "f64"]

theorem smallTypes_plain : ∀ word ∈ smallTypes, identifier word = word ∧ Unmarked word ∧
    word.toList.head?.all (fun first => Character.toUpper first == [first]) = false := by
  decide +kernel

theorem identifier_ne_small {word : String} (small : word ∈ smallTypes) (text : String) :
    identifier (Name.pascal text) ≠ word := by
  obtain ⟨plain, own, lower⟩ := smallTypes_plain word small
  intro same
  rw [← plain, identifier_eq_iff (unmarked_pascal text) own] at same
  have capital := Name.pascal_begins_capital text
  rw [same, lower] at capital
  cases capital

theorem identifier_eq_string_iff (text : String) :
    identifier (Name.pascal text) = "String" ↔ Name.pascal text = "String" := by
  have plain : identifier "String" = "String" := by decide +kernel
  have own : Unmarked "String" := by decide
  rw [← identifier_eq_iff (unmarked_pascal text) own, plain]

/-- A class is spelled as a type of another kind only where it shadows the type of texts. -/
theorem shadows_of_identifier {text : String} {type : TargetType}
    (unnamed : ∀ name, type ≠ .named name)
    (same : identifier (Name.pascal text) = renderType type) :
    Shadows (.named (Name.pascal text)) type := by
  cases type with
  | boolean => exact absurd same (identifier_ne_small (by decide) text)
  | int32 => exact absurd same (identifier_ne_small (by decide) text)
  | double => exact absurd same (identifier_ne_small (by decide) text)
  | text =>
    rw [(identifier_eq_string_iff text).mp same]
    exact .string
  | named name => exact absurd rfl (unnamed name)
  | list element =>
    have plain : '<' ∉ (identifier (Name.pascal text)).toList :=
      identifier_unbracketed (spelled_mono (Name.pascal_spelled text) (by simp))
    exact absurd same (Language.ne_list_of_unbracketed .rust plain element)

theorem shadows_of_renderType {type other : TargetType} (normal : type.Normalized)
    (normalOther : other.Normalized) (same : renderType type = renderType other) :
    type = other ∨ Shadows type other ∨ Shadows other type := by
  induction type generalizing other with
  | boolean | int32 | double | text =>
    cases other with
    | named name =>
      obtain ⟨text, rfl⟩ := normalOther
      exact Or.inr (Or.inr (shadows_of_identifier (by simp) same.symm))
    | list element => exact absurd (congrArg String.toList same) (by simp [renderType])
    | _ => first | exact Or.inl rfl | exact absurd same (by simp [renderType])
  | named name =>
    obtain ⟨text, rfl⟩ := normal
    cases other with
    | named second =>
      obtain ⟨otherText, rfl⟩ := normalOther
      have names := (identifier_eq_iff (unmarked_pascal text) (unmarked_pascal otherText)).mp same
      exact Or.inl (congrArg TargetType.named names)
    | _ => exact Or.inr (Or.inl (shadows_of_identifier (by simp) same))
  | list element ih =>
    cases other with
    | named second =>
      obtain ⟨text, rfl⟩ := normalOther
      exact Or.inr (Or.inr (shadows_of_identifier (by simp) same.symm))
    | list second =>
      have inner : second.Normalized := normalOther
      simp only [renderType, String.append_left_inj, String.append_right_inj] at same
      rcases ih normal inner same with rfl | shadow | shadow
      · exact Or.inl rfl
      · exact Or.inr (Or.inl (.list shadow))
      · exact Or.inr (Or.inr (.list shadow))
    | _ => exact absurd (congrArg String.toList same) (by simp [renderType])

/-- Two different types are spelled alike exactly when one is the other with a class named `String`
for the type of texts. -/
theorem spelled_alike_iff {type other : TargetType} (normal : type.Normalized)
    (normalOther : other.Normalized) :
    renderType type = renderType other ∧ type ≠ other ↔ Shadows type other ∨ Shadows other type := by
  constructor
  · rintro ⟨same, different⟩
    rcases shadows_of_renderType normal normalOther same with equal | shadow
    · exact absurd equal different
    · exact shadow
  · rintro (shadow | shadow)
    · exact ⟨renderType_of_shadows shadow, shadows_ne shadow⟩
    · exact ⟨(renderType_of_shadows shadow).symm, (shadows_ne shadow).symm⟩

theorem spelled_alike_iff_list :
    TargetType.Normalized (.list (.named "String")) ∧ TargetType.Normalized (.list .text) ∧
      Shadows (.list (.named "String")) (.list .text) ∧
      renderType (.list (.named "String")) = renderType (.list .text) ∧
      TargetType.list (.named "String") ≠ .list .text := by
  have strings : TargetType.Normalized (.list (.named "String")) :=
    ⟨"string", by decide +kernel⟩
  have texts : TargetType.Normalized (.list .text) := trivial
  have shadow : Shadows (.list (.named "String")) (.list .text) := .list .string
  exact ⟨strings, texts, shadow, (spelled_alike_iff strings texts).mpr (Or.inl shadow)⟩

/-- A schema named `string`, a list of texts and a list of that schema. -/
def phrasebook : Document where
  title := some "phrase book"
  schemas := some [
    ("string", Schema.object [("value", .ofType .string)]),
    ("phrase", Schema.object [("words", .array (.ofType .string)),
      ("strings", .array (.objectRef "string"))])]

/-- Fields of different types are declared alike, and a class is declared in terms of itself. -/
theorem class_spelled_as_text :
    Name.pascal "string" ≠ "" ∧ TargetType.named (Name.pascal "string") ≠ .text ∧
    renderType (.named (Name.pascal "string")) = renderType .text ∧
    phrasebook.schemas.map Document.tableDeclarations = some (.ok [
      ⟨"String", [⟨"value", .text, false⟩]⟩,
      ⟨"Phrase", [⟨"words", .list .text, false⟩,
        ⟨"strings", .list (.named (Name.pascal "string")), false⟩]⟩]) ∧
    phrasebook.compile ⟨.rust, "GeneratedClasses"⟩ = .ok [
      ⟨"String", Text.unlines [
        "//! `String` in module `phrase_book`. Generated by openapi-codegen. Do not edit manually.",
        "", "#![allow(unused_imports)]", "", "use super::*;", "",
        "#[derive(Debug, Clone, PartialEq)]", "pub struct String \x7b",
        "    pub value: Option<String>,", "\x7d"]⟩,
      ⟨"Phrase", Text.unlines [
        "//! `Phrase` in module `phrase_book`. Generated by openapi-codegen. Do not edit manually.",
        "", "#![allow(unused_imports)]", "", "use super::*;", "use std::vec::Vec;", "",
        "#[derive(Debug, Clone, PartialEq)]", "pub struct Phrase \x7b",
        "    pub words: Option<Vec<String>>,", "    pub strings: Option<Vec<String>>,",
        "\x7d"]⟩] := by
  decide +kernel

end Rust
end SchemaDecls
