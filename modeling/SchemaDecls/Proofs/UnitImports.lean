import Mathlib.Data.List.Chain
import Mathlib.Data.List.Infix
import SchemaDecls.Proofs.SourceText

/-!
The imports of a unit against its text. A list is opened by a word and a bracket. No name holds a
bracket, and no other word before a bracket ends as that word does, so the text has the opening of a
list exactly where the type of a field has a list in it; and just then the import for lists is one
of the lines.
-/
namespace SchemaDecls

namespace TargetType

/-- The types that a type is made of. -/
inductive Within : TargetType → TargetType → Prop where
  | here {type : TargetType} : Within type type
  | element {inner type : TargetType} : Within inner type → Within inner (.list type)

/-- Only lists have other types in them, so a type with a list in it is a list. -/
theorem isList_iff_within (type : TargetType) :
    type.isList = true ↔ ∃ element, Within (.list element) type := by
  constructor
  · intro list
    cases type with
    | list element => exact ⟨element, .here⟩
    | _ => cases list
  · rintro ⟨element, inside⟩
    cases inside with
    | here => rfl
    | element deeper => rfl

end TargetType

namespace Text
section Infix
variable {mark : Char} {word : List Char}

theorem prefix_of_prefix_append_mark (unmarked : mark ∉ word) {before after : List Char}
    (starts : word <+: before ++ mark :: after) : word <+: before := by
  induction word generalizing before with
  | nil => exact List.nil_prefix
  | cons c rest ih =>
    obtain ⟨other, later⟩ := List.ne_and_not_mem_of_not_mem_cons unmarked
    cases before with
    | nil => exact absurd (List.cons_prefix_cons.mp starts).1.symm other
    | cons d others =>
      obtain ⟨rfl, onward⟩ := List.cons_prefix_cons.mp starts
      exact List.cons_prefix_cons.mpr ⟨rfl, ih later onward⟩

/-- A word without a mark stands on one side of it. -/
theorem infix_append_mark_iff (unmarked : mark ∉ word) (before after : List Char) :
    word <:+: before ++ mark :: after ↔ word <:+: before ∨ word <:+: after := by
  constructor
  · intro occurs
    induction before with
    | nil =>
      rcases List.infix_cons_iff.mp occurs with starts | later
      · exact Or.inl (prefix_of_prefix_append_mark unmarked starts).isInfix
      · exact Or.inr later
    | cons c rest ih =>
      rcases List.infix_cons_iff.mp occurs with starts | later
      · exact Or.inl (prefix_of_prefix_append_mark unmarked starts).isInfix
      · exact (ih later).imp_left fun inside => List.infix_cons inside
  · rintro (first | second)
    · exact first.trans (List.prefix_append before _).isInfix
    · exact second.trans ⟨before ++ [mark], [], by simp⟩

/-- A word within a line occurs in a text of lines exactly when it occurs in one of them. -/
theorem infix_unlines_iff (some_char : word ≠ []) (unbroken : '\n' ∉ word) (lines : List String) :
    word <:+: (unlines lines).toList ↔ ∃ line ∈ lines, word <:+: line.toList := by
  induction lines with
  | nil => simp [unlines, some_char]
  | cons line rest ih =>
    have text : (unlines (line :: rest)).toList = line.toList ++ '\n' :: (unlines rest).toList := by
      simp [unlines, String.toList_join]
    rw [text, infix_append_mark_iff unbroken, ih]
    simp

end Infix

/-- No bracket opens right behind `last`. -/
def Unopened (last : Char) (text : String) : Prop :=
  text.toList.IsChain fun c d => ¬ (c = last ∧ d = '<')

theorem unopened_of_not_mem (last : Char) {text : String} (absent : '<' ∉ text.toList) :
    Unopened last text := by
  unfold Unopened
  generalize text.toList = chars at absent
  induction chars with
  | nil => exact .nil
  | cons c rest ih =>
    obtain ⟨-, later⟩ := List.ne_and_not_mem_of_not_mem_cons absent
    refine List.isChain_cons.mpr ⟨?_, ih later⟩
    rintro d begins ⟨-, rfl⟩
    exact later (List.mem_of_mem_head? begins)

/-- A bracket behind a word that ends otherwise leaves a text unopened. -/
theorem unopened_word {last : Char} {front word inner : String} (other : last ≠ '<')
    (plain : '<' ∉ front.toList) (unbracketed : '<' ∉ word.toList)
    (ends : ∃ c ∈ word.toList.getLast?, c ≠ last) (unopened : Unopened last inner) :
    Unopened last (front ++ (word ++ "<") ++ inner) := by
  obtain ⟨final, final_eq, different⟩ := ends
  have before : Unopened last (front ++ word) := by
    apply unopened_of_not_mem
    rw [String.toList_append, List.mem_append, not_or]
    exact ⟨plain, unbracketed⟩
  have ending : (front ++ word).toList.getLast? = some final := by
    rw [String.toList_append]
    exact List.mem_getLast?_append_of_mem_getLast? final_eq
  have text : (front ++ (word ++ "<") ++ inner).toList
      = (front ++ word).toList ++ '<' :: inner.toList := by simp
  unfold Unopened
  rw [text]
  refine List.isChain_append.mpr ⟨before, List.isChain_cons.mpr ⟨?_, unopened⟩, ?_⟩
  · rintro d - ⟨bracket, -⟩
    exact other bracket.symm
  · rintro c found d - ⟨rfl, -⟩
    rw [ending] at found
    exact different (Option.some.inj found)

theorem not_infix_of_unopened {last : Char} {text : String} (unopened : Unopened last text)
    (word : List Char) : ¬ word ++ [last, '<'] <:+: text.toList := by
  intro occurs
  have opening : [last, '<'] <:+: text.toList := (List.suffix_append word _).isInfix.trans occurs
  have chain := unopened.infix opening
  exact List.isChain_pair.mp chain ⟨rfl, rfl⟩

end Text

theorem usesLists_iff (declaration : Declaration) : declaration.usesLists = true ↔
    ∃ field ∈ declaration.fields, field.type.isList = true := by
  rw [Declaration.usesLists, List.any_eq_true]

namespace CSharp

theorem renderType_unbracketed {type : TargetType} (normal : type.Normalized)
    (single : type.isList = false) : '<' ∉ (renderType type).toList := by
  cases type with
  | named name =>
    obtain ⟨text, rfl⟩ := normal
    rw [renderType]
    exact identifier_unbracketed (Name.pascal_spelled text)
  | list element => cases single
  | _ => simp [renderType]

theorem fieldLine_unbracketed {field : Field} (normal : field.type.Normalized)
    (single : field.type.isList = false) : '<' ∉ (fieldLine field).toList := by
  have type := renderType_unbracketed normal single
  have name := identifier_unbracketed (SchemaDecls.identifier_spelled field)
  have word : '<' ∉ (if field.required then "required " else "").toList := by
    split <;> decide
  unfold fieldLine
  simp only [String.toList_append, List.mem_append, not_or]
  exact ⟨⟨⟨⟨⟨by decide, word⟩, type⟩, by decide⟩, name⟩, by decide⟩

theorem list_infix_fieldLine {field : Field} {element : TargetType}
    (typed : field.type = .list element) : "List<".toList <:+: (fieldLine field).toList := by
  have line : fieldLine field
      = "        public " ++ (if field.required then "required " else "") ++ "List<"
        ++ (renderType element ++ ">" ++ " " ++ identifier field.identifier
          ++ " \x7b get; set; \x7d") := by
    unfold fieldLine
    rw [typed]
    simp only [renderType, String.append_assoc]
  rw [line, String.toList_append, String.toList_append]
  exact List.infix_append _ _ _

end CSharp

namespace Rust

/-- Of the types that are no list only the boxed ones have a bracket, which `Box` opens. -/
theorem boxedType_unopened {type : TargetType} (normal : type.Normalized)
    (single : type.isList = false) {front back : String} (plain : '<' ∉ front.toList)
    (closed : '<' ∉ back.toList) : Text.Unopened 'c' (front ++ boxedType type ++ back) := by
  cases type with
  | named name =>
    obtain ⟨text, rfl⟩ := normal
    have word : '<' ∉ (identifier (Name.pascal text)).toList :=
      identifier_unbracketed (spelled_mono (Name.pascal_spelled text) (by simp))
    have inner : Text.Unopened 'c' (identifier (Name.pascal text) ++ ">" ++ back) := by
      apply Text.unopened_of_not_mem
      simp only [String.toList_append, List.mem_append, not_or]
      exact ⟨⟨word, by decide⟩, closed⟩
    have opened := Text.unopened_word (by decide) plain (by decide : '<' ∉ "Box".toList)
      ⟨'x', by decide, by decide⟩ inner
    have opening : "Box<" = "Box" ++ "<" := by decide
    simpa only [boxedType, renderType, opening, String.append_assoc] using opened
  | list element => cases single
  | _ =>
    apply Text.unopened_of_not_mem
    simp [boxedType, renderType, plain, closed]

theorem fieldLine_unopened {field : Field} (normal : field.type.Normalized)
    (single : field.type.isList = false) : Text.Unopened 'c' (fieldLine field) := by
  have name : '<' ∉ (fieldIdentifier field.identifier).toList :=
    identifier_unbracketed (Name.snake_spelled field.identifier)
  have plain : '<' ∉ ("    pub " ++ fieldIdentifier field.identifier ++ ": ").toList := by
    simp only [String.toList_append, List.mem_append, not_or]
    exact ⟨⟨by decide, name⟩, by decide⟩
  unfold fieldLine fieldType
  split
  · exact boxedType_unopened normal single plain (by decide)
  · have inner : Text.Unopened 'c' ("" ++ boxedType field.type ++ ">,") :=
      boxedType_unopened normal single (by decide) (by decide)
    have opened := Text.unopened_word (by decide) plain (by decide : '<' ∉ "Option".toList)
      ⟨'n', by decide, by decide⟩ inner
    have opening : "Option<" = "Option" ++ "<" := by decide
    have closing : ">," = ">" ++ "," := by decide
    rw [opening]
    simpa only [closing, String.empty_append, String.append_assoc] using opened

theorem list_infix_fieldLine {field : Field} {element : TargetType}
    (typed : field.type = .list element) : "Vec<".toList <:+: (fieldLine field).toList := by
  have inner : "Vec<".toList <:+: (boxedType field.type).toList := by
    rw [typed]
    simp only [boxedType, renderType, String.toList_append, List.append_assoc]
    exact (List.prefix_append _ _).isInfix
  have wrapped : "Vec<".toList <:+: (fieldType field).toList := by
    unfold fieldType
    split
    · exact inner
    · rw [String.toList_append, String.toList_append]
      exact inner.trans (List.infix_append _ _ _)
  unfold fieldLine
  rw [String.toList_append, String.toList_append]
  exact wrapped.trans (List.infix_append _ _ _)

end Rust

namespace Language

/-- What opens a list in the text of a type. -/
def listOpening : Language → String
  | .csharp => "List<"
  | .rust => "Vec<"

def importLine : Language → String → String
  | .csharp, name => "using " ++ name ++ ";"
  | .rust, name => "use " ++ name ++ ";"

theorem listOpening_spelled (language : Language) : language.listOpening.toList ≠ [] ∧
    '\n' ∉ language.listOpening.toList ∧ '<' ∈ language.listOpening.toList := by
  cases language <;> decide

theorem listOpening_infix_fieldLine_iff (language : Language) {field : Field}
    (normal : field.type.Normalized) :
    language.listOpening.toList <:+: (language.fieldLine field).toList ↔
      field.type.isList = true := by
  constructor
  · intro occurs
    cases single : field.type.isList with
    | true => rfl
    | false =>
      cases language with
      | csharp =>
        have bracket := occurs.subset (listOpening_spelled .csharp).2.2
        exact absurd bracket (CSharp.fieldLine_unbracketed normal single)
      | rust =>
        have unopened := Rust.fieldLine_unopened normal single
        exact absurd occurs (Text.not_infix_of_unopened unopened ['V', 'e'])
  · intro list
    cases typed : field.type with
    | list element =>
      cases language with
      | csharp => exact CSharp.list_infix_fieldLine typed
      | rust => exact Rust.list_infix_fieldLine typed
    | _ => simp [typed, TargetType.isList] at list

/-- The text of a unit has the opening of a list exactly where a field is one. -/
theorem listOpening_infix_source_iff (language : Language) (moduleName : String)
    {declaration : Declaration} (own : Spelled [] declaration.name)
    (normal : ∀ field ∈ declaration.fields, field.type.Normalized) :
    language.listOpening.toList
        <:+: (SourceUnit.ofDeclaration moduleName declaration language).source.toList ↔
      declaration.usesLists = true := by
  obtain ⟨some_char, unbroken, bracket⟩ := listOpening_spelled language
  have framed : ∀ line : String, Spelled frameMarks line →
      ¬ language.listOpening.toList <:+: line.toList := fun line spelled occurs =>
    not_mem_of_spelled spelled (by decide) (by decide) (occurs.subset bracket)
  rw [unitSource_eq, Text.infix_unlines_iff some_char unbroken, usesLists_iff]
  constructor
  · rintro ⟨line, member, occurs⟩
    rw [List.mem_append, List.mem_append, List.mem_map] at member
    rcases member with (head | ⟨field, inside, rfl⟩) | foot
    · have spelled := header_spelled language _ (Name.pascal_spelled moduleName) own line head
      exact absurd occurs (framed line spelled)
    · have list := (listOpening_infix_fieldLine_iff language (normal field inside)).mp occurs
      exact ⟨field, inside, list⟩
    · exact absurd occurs (framed line (footer_spelled language line foot))
  · rintro ⟨field, inside, list⟩
    refine ⟨language.fieldLine field, ?_, ?_⟩
    · exact List.mem_append_left _ (List.mem_append_right _ (List.mem_map_of_mem inside))
    · exact (listOpening_infix_fieldLine_iff language (normal field inside)).mpr list

/-- Imports are the only lines that begin as the keyword of an import does. -/
def opensImport (line : String) : Bool := line.toList.head? == some 'u'

theorem opensImport_importLine (language : Language) (name : String) :
    opensImport (language.importLine name) = true := by
  cases language <;> simp [opensImport, importLine]

theorem collectionImport_mem_iff (language : Language) (lists : Bool) :
    language.importLine language.collectionImport ∈ language.importLines lists ↔ lists = true := by
  cases language <;> cases lists <;> decide

theorem baseImport_count (language : Language) (lists : Bool) :
    (language.importLines lists).count (language.importLine language.baseImport) = 1 := by
  cases language <;> cases lists <;> decide

theorem fieldLine_head (language : Language) (field : Field) :
    (language.fieldLine field).toList.head? = some ' ' := by
  cases language with
  | csharp =>
    unfold fieldLine CSharp.fieldLine
    simp only [String.append_assoc, String.toList_append]
    rfl
  | rust =>
    unfold fieldLine Rust.fieldLine
    simp only [String.append_assoc, String.toList_append]
    rfl

theorem filter_opensImport_lines (language : Language) (moduleName name : String) (lists : Bool)
    (fields : List Field) :
    (language.header moduleName lists name ++ fields.map language.fieldLine
        ++ language.footer).filter opensImport = language.importLines lists := by
  have fieldless : (fields.map language.fieldLine).filter opensImport = [] := by
    rw [List.filter_eq_nil_iff, List.forall_mem_map]
    intro field member
    simp [opensImport, fieldLine_head]
  rw [List.filter_append, List.filter_append, fieldless]
  cases language <;> cases lists <;>
    simp [header, footer, importLines, opensImport, baseImport, collectionImport]

end Language

/-- The lines of a unit have the import for lists exactly when its text opens a list somewhere, which
is exactly when the type of some field has a list in it; and they have the base import once,
whatever the names and keys are. -/
theorem unit_imports_exact (language : Language) (moduleName name : String) {fields : List Field}
    (normal : ∀ field ∈ fields, field.type.Normalized) :
    ∃ unit, SourceUnit.build moduleName (.ofFields name fields) language = .ok unit ∧
    let lines := Text.linesOf unit.source
    unit.source = Text.unlines lines ∧
    (language.importLine language.collectionImport ∈ lines ↔
      language.listOpening.toList <:+: unit.source.toList) ∧
    (language.listOpening.toList <:+: unit.source.toList ↔
      ∃ field ∈ fields, ∃ element, TargetType.Within (.list element) field.type) ∧
    lines.count (language.importLine language.baseImport) = 1 := by
  refine ⟨_, SourceUnit.build_eq moduleName (.ofFields name fields) language, ?_⟩
  intro lines
  have own : Spelled [] (Declaration.ofFields name fields).name := Name.pascal_spelled name
  have listed := Language.linesOf_unitSource language moduleName own normal
  have imports : lines.filter Language.opensImport
      = language.importLines (Declaration.ofFields name fields).usesLists := by
    rw [← Language.filter_opensImport_lines language (Name.pascal moduleName)]
    exact congrArg (List.filter Language.opensImport) listed
  have opened := Language.listOpening_infix_source_iff language moduleName own normal
  refine ⟨?_, ?_, ?_, ?_⟩
  · rw [show lines = _ from listed]
    exact Language.unitSource_eq language moduleName _
  · have opens := Language.opensImport_importLine language language.collectionImport
    rw [opened, ← Language.collectionImport_mem_iff language, ← imports, List.mem_filter]
    simp [opens]
  · rw [opened, usesLists_iff]
    simp only [Declaration.ofFields, TargetType.isList_iff_within]
  · have opens := Language.opensImport_importLine language language.baseImport
    rw [← List.count_filter opens, imports]
    exact Language.baseImport_count language _

/-- A class and keys that are named as lists are, brackets included. -/
def vectors : List Field :=
  [⟨"list<", .named (Name.pascal "vec<"), false⟩, ⟨"vec", .named (Name.pascal "list"), true⟩]

def matrices : List Field := ⟨"rows", .list (.list .int32), true⟩ :: vectors

theorem unit_imports_exact_matrices :
    (∀ field ∈ vectors, field.type.Normalized) ∧ (∀ field ∈ matrices, field.type.Normalized) ∧
    (∃ unit, SourceUnit.build "Vec" (.ofFields "Vec<" vectors) .rust = .ok unit ∧
      "use std::vec::Vec;" ∉ Text.linesOf unit.source) ∧
    ∃ unit, SourceUnit.build "Vec" (.ofFields "Vec<" matrices) .rust = .ok unit ∧
      "use std::vec::Vec;" ∈ Text.linesOf unit.source ∧
      (Text.linesOf unit.source).count "use super::*;" = 1 := by
  have normal : ∀ field ∈ vectors, field.type.Normalized := by
    simp only [vectors, List.forall_mem_cons]
    exact ⟨⟨"vec<", rfl⟩, ⟨"list", rfl⟩, by simp⟩
  have normalMatrices : ∀ field ∈ matrices, field.type.Normalized :=
    List.forall_mem_cons.mpr ⟨trivial, normal⟩
  obtain ⟨unit, built, -, imported, opened, -⟩ := unit_imports_exact .rust "Vec" "Vec<" normal
  obtain ⟨matricesUnit, matricesBuilt, -, matricesImported, matricesOpened, once⟩ :=
    unit_imports_exact .rust "Vec" "Vec<" normalMatrices
  refine ⟨normal, normalMatrices, ⟨unit, built, ?_⟩, matricesUnit, matricesBuilt, ?_, once⟩
  · intro listed
    obtain ⟨field, member, element, inside⟩ := opened.mp (imported.mp listed)
    have list := (TargetType.isList_iff_within field.type).mpr ⟨element, inside⟩
    have single : ∀ field ∈ vectors, field.type.isList = false := by decide
    rw [single field member] at list
    cases list
  · exact matricesImported.mpr (matricesOpened.mpr ⟨_, List.mem_cons_self, _, .here⟩)

end SchemaDecls
