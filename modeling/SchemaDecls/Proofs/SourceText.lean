import Mathlib.Data.List.Forall2
import SchemaDecls.Proofs.NameCharacters
import SchemaDecls.Proofs.Rendering

/-!
The text of a unit, read back. A text has one line for each field between fixed lines, since no name
breaks a line; and from each line its parts can be told, since no name holds the characters that
separate them. So two units with one text come from declarations that agree field by field.
-/
namespace SchemaDecls

namespace Text

/-- The lines of a text in which every line is ended. -/
def linesOf (text : String) : List String :=
  ((segments (· == '\n') text.toList).dropLast).map String.ofList

theorem segments_unlines {lines : List String} (unbroken : ∀ line ∈ lines, '\n' ∉ line.toList) :
    segments (· == '\n') (unlines lines).toList = lines.map String.toList ++ [[]] := by
  induction lines with
  | nil => rfl
  | cons line rest ih =>
    obtain ⟨here, later⟩ := List.forall_mem_cons.mp unbroken
    have head : segments (· == '\n') line.toList = [line.toList] :=
      segments_of_unseparated _ _ fun c inside => beq_false_of_ne fun same => here (same ▸ inside)
    have text : (unlines (line :: rest)).toList = line.toList ++ '\n' :: (unlines rest).toList := by
      simp [unlines, String.toList_join]
    rw [text, segments_append_separator _ _ _ _ rfl, head, ih later]
    rfl

/-- Lines written one after the other are read back, unless one of them is broken. -/
theorem linesOf_unlines {lines : List String} (unbroken : ∀ line ∈ lines, '\n' ∉ line.toList) :
    linesOf (unlines lines) = lines := by
  rw [linesOf, segments_unlines unbroken, List.dropLast_concat, List.map_map]
  simp

/-- A text is cut in one way at the first of its marks. -/
theorem cut_unique {mark : Char} {before other after rest : List Char} (uncut : mark ∉ before)
    (uncutOther : mark ∉ other) (same : before ++ mark :: after = other ++ mark :: rest) :
    before = other ∧ after = rest := by
  have whole : ∀ text : List Char, mark ∉ text → segments (· == mark) text = [text] :=
    fun text absent => segments_of_unseparated _ _ fun c inside =>
      beq_false_of_ne fun equal => absent (equal ▸ inside)
  have cuts := congrArg (segments (· == mark)) same
  have marked : (mark == mark) = true := beq_self_eq_true mark
  rw [segments_append_separator (· == mark) before after mark marked,
    segments_append_separator (· == mark) other rest mark marked, whole before uncut,
    whole other uncutOther] at cuts
  obtain ⟨rfl, -⟩ := List.cons.inj cuts
  exact ⟨rfl, (List.cons.inj (List.append_cancel_left same)).2⟩

end Text

/-- Every class name in the type is a normalized name. -/
def TargetType.Normalized : TargetType → Prop
  | .boolean | .int32 | .double | .text => True
  | .named name => ∃ text, name = Name.pascal text
  | .list element => element.Normalized

theorem identifier_spelled (field : Field) : Spelled [] field.identifier :=
  Name.pascal_spelled field.key

/-- A text without brackets is no list spelling. -/
theorem Language.ne_list_of_unbracketed (language : Language) {text : String}
    (plain : '<' ∉ text.toList) (element : TargetType) :
    text ≠ language.renderType (.list element) := by
  rintro rfl
  cases language <;> simp [renderType, CSharp.renderType, Rust.renderType] at plain

namespace CSharp

theorem identifier_spelled {name : String} (own : Spelled [] name) :
    Spelled ['@', '_'] (identifier name) := by
  have kept : Spelled ['@', '_'] name := spelled_mono own (by simp)
  unfold identifier
  split
  · exact spelled_append (by decide) kept
  · split
    · exact spelled_append (by decide) kept
    · exact kept

theorem identifier_unbracketed {name : String} (own : Spelled [] name) :
    '<' ∉ (identifier name).toList :=
  not_mem_of_spelled (identifier_spelled own) (by decide) (by decide)

theorem renderType_spelled {type : TargetType} (normal : type.Normalized) :
    Spelled ['@', '_', '<', '>'] (renderType type) := by
  induction type with
  | boolean | int32 | double | text => simp only [renderType]; decide
  | named name =>
    obtain ⟨text, rfl⟩ := normal
    exact spelled_mono (identifier_spelled (Name.pascal_spelled text)) (by simp)
  | list element ih => exact spelled_append (spelled_append (by decide) (ih normal)) (by decide)

/-- Without its marks an identifier is the name it stands for. -/
theorem identifier_unmarked {name : String} (own : Spelled [] name) :
    (identifier name).toList.filter (fun c => c ∉ ['@', '_']) = name.toList := by
  have kept : name.toList.filter (fun c => c ∉ ['@', '_']) = name.toList := by
    refine List.filter_eq_self.mpr fun c inside => decide_eq_true fun marked => ?_
    rcases own c inside with word | none
    · rcases List.mem_cons.mp marked with rfl | second
      · exact absurd word (by decide)
      · rw [List.mem_singleton.mp second] at word
        exact absurd word (by decide)
    · cases none
  unfold identifier
  split
  · rw [String.toList_append, List.filter_append, kept]
    rfl
  · split
    · rw [String.toList_append, List.filter_append, kept]
      rfl
    · exact kept

theorem identifier_inj {name other : String} (own : Spelled [] name) (ownOther : Spelled [] other)
    (same : identifier name = identifier other) : name = other := by
  have unmarked := congrArg (fun text => text.toList.filter (fun c => c ∉ ['@', '_'])) same
  simp only [identifier_unmarked own, identifier_unmarked ownOther] at unmarked
  exact String.toList_inj.mp unmarked

theorem keywords_spelled : ∀ keyword ∈ keywords, Spelled [] keyword := by decide +kernel

/-- No identifier is a keyword. -/
theorem identifier_ne_keyword {name keyword : String} (listed : keyword ∈ keywords) :
    identifier name ≠ keyword := by
  intro same
  have own := keywords_spelled keyword listed
  unfold identifier at same
  split at same
  · have mark : '@' ∈ keyword.toList := by simp [← same]
    exact not_mem_of_spelled own (by decide) (by simp) mark
  · next free =>
    split at same
    · have mark : '_' ∈ keyword.toList := by simp [← same]
      exact not_mem_of_spelled own (by decide) (by simp) mark
    · rw [same] at free
      exact free (by simpa using listed)

theorem renderType_inj {type other : TargetType} (normal : type.Normalized)
    (normalOther : other.Normalized) (same : renderType type = renderType other) :
    type = other := by
  have ne_builtin : ∀ name, identifier name ≠ "bool" ∧ identifier name ≠ "int" ∧
      identifier name ≠ "double" ∧ identifier name ≠ "string" := fun name =>
    ⟨identifier_ne_keyword (by decide), identifier_ne_keyword (by decide),
      identifier_ne_keyword (by decide), identifier_ne_keyword (by decide)⟩
  induction type generalizing other with
  | boolean | int32 | double | text =>
    cases other with
    | named name => exact absurd same.symm (by simp [renderType, ne_builtin])
    | list element => exact absurd (congrArg String.toList same) (by simp [renderType])
    | _ => first | rfl | exact absurd same (by simp [renderType])
  | named name =>
    obtain ⟨text, rfl⟩ := normal
    have own := Name.pascal_spelled text
    cases other with
    | named second =>
      obtain ⟨otherText, rfl⟩ := normalOther
      rw [identifier_inj own (Name.pascal_spelled otherText) same]
    | list element =>
      exact absurd same (Language.ne_list_of_unbracketed .csharp (identifier_unbracketed own) element)
    | _ => exact absurd same (by simp [renderType, ne_builtin])
  | list element ih =>
    cases other with
    | named second =>
      obtain ⟨otherText, rfl⟩ := normalOther
      have plain := identifier_unbracketed (Name.pascal_spelled otherText)
      exact absurd same.symm (Language.ne_list_of_unbracketed .csharp plain element)
    | list second =>
      have inner : second.Normalized := normalOther
      simp only [renderType, String.append_left_inj, String.append_right_inj] at same
      rw [ih normal inner same]
    | _ => exact absurd (congrArg String.toList same) (by simp [renderType])

theorem renderType_unspaced {type : TargetType} (normal : type.Normalized) :
    ' ' ∉ (renderType type).toList :=
  not_mem_of_spelled (renderType_spelled normal) (by decide) (by decide)

theorem name_unspaced (field : Field) : ' ' ∉ (identifier field.identifier).toList :=
  not_mem_of_spelled (identifier_spelled (SchemaDecls.identifier_spelled field)) (by decide)
    (by decide)

/-- The type and the name of a field, as its line puts them. -/
def declarator (field : Field) : String :=
  renderType field.type ++ " " ++ identifier field.identifier

theorem declarator_toList (field : Field) : (declarator field).toList
    = (renderType field.type).toList ++ ' ' :: (identifier field.identifier).toList := by
  simp [declarator]

theorem declarator_parts {field other : Field} (normal : field.type.Normalized)
    (normalOther : other.type.Normalized) (same : declarator field = declarator other) :
    identifier field.identifier = identifier other.identifier ∧
      renderType field.type = renderType other.type := by
  have cut := congrArg String.toList same
  rw [declarator_toList, declarator_toList] at cut
  obtain ⟨types, names⟩ :=
    Text.cut_unique (renderType_unspaced normal) (renderType_unspaced normalOther) cut
  exact ⟨String.toList_inj.mp names, String.toList_inj.mp types⟩

/-- A line that says `required` has a space more, so no other line can be read as it. -/
theorem required_declarator_ne (field : Field) {other : Field}
    (normal : other.type.Normalized) : "required " ++ declarator field ≠ declarator other := by
  intro same
  have cut := congrArg String.toList same
  have word : ("required " ++ declarator field).toList
      = "required".toList ++ ' ' :: (declarator field).toList := by simp
  rw [word, declarator_toList other] at cut
  obtain ⟨-, rest⟩ := Text.cut_unique (by decide) (renderType_unspaced normal) cut
  have space : ' ' ∈ (declarator field).toList := by simp [declarator_toList]
  exact name_unspaced other (rest ▸ space)

theorem fieldLine_eq (field : Field) : fieldLine field
    = "        public " ++ ((if field.required then "required " else "") ++ declarator field)
      ++ " \x7b get; set; \x7d" := by
  unfold fieldLine declarator
  simp only [String.append_assoc]

/-- The parts of a field can be told from its line. -/
theorem fieldLine_parts {field other : Field} (normal : field.type.Normalized)
    (normalOther : other.type.Normalized) (same : fieldLine field = fieldLine other) :
    identifier field.identifier = identifier other.identifier ∧
      renderType field.type = renderType other.type ∧ field.required = other.required := by
  rw [fieldLine_eq, fieldLine_eq, String.append_left_inj, String.append_right_inj] at same
  have parts : declarator field = declarator other ∧ field.required = other.required := by
    cases required : field.required <;> cases requiredOther : other.required <;>
      rw [required, requiredOther] at same
    · exact ⟨by simpa using same, rfl⟩
    · exact absurd (by simpa using same.symm) (required_declarator_ne other normal)
    · exact absurd (by simpa using same) (required_declarator_ne field normalOther)
    · exact ⟨by simpa using same, rfl⟩
  obtain ⟨names, types⟩ := declarator_parts normal normalOther parts.1
  exact ⟨names, types, parts.2⟩

end CSharp
namespace Rust

theorem identifier_spelled {name : String} (own : Spelled ['_'] name) :
    Spelled ['_', '#'] (identifier name) := by
  have kept : Spelled ['_', '#'] name := spelled_mono own (by simp)
  unfold identifier
  split
  · exact spelled_append kept (by decide)
  · split
    · exact spelled_append (by decide) kept
    · split
      · exact spelled_append (by decide) kept
      · exact kept

theorem identifier_unbracketed {name : String} (own : Spelled ['_'] name) :
    '<' ∉ (identifier name).toList :=
  not_mem_of_spelled (identifier_spelled own) (by decide) (by decide)

theorem renderType_spelled {type : TargetType} (normal : type.Normalized) :
    Spelled ['_', '#', '<', '>'] (renderType type) := by
  induction type with
  | boolean | int32 | double | text => simp only [renderType]; decide
  | named name =>
    obtain ⟨text, rfl⟩ := normal
    have own : Spelled ['_'] (Name.pascal text) := spelled_mono (Name.pascal_spelled text) (by simp)
    exact spelled_mono (identifier_spelled own) (by simp)
  | list element ih => exact spelled_append (spelled_append (by decide) (ih normal)) (by decide)

theorem boxedType_spelled {type : TargetType} (normal : type.Normalized) :
    Spelled ['_', '#', '<', '>'] (boxedType type) := by
  have rendered := renderType_spelled normal
  cases type with
  | named name => exact spelled_append (spelled_append (by decide) rendered) (by decide)
  | _ => exact rendered

theorem fieldType_spelled {field : Field} (normal : field.type.Normalized) :
    Spelled ['_', '#', '<', '>'] (fieldType field) := by
  have boxed := boxedType_spelled normal
  unfold fieldType
  split
  · exact boxed
  · exact spelled_append (spelled_append (by decide) boxed) (by decide)

theorem boxedType_cases (type : TargetType) :
    boxedType type = "Box<" ++ renderType type ++ ">" ∨
      (boxedType type = renderType type ∧ (renderType type).toList.head? ≠ some 'B') := by
  cases type with
  | named name => exact Or.inl rfl
  | _ => exact Or.inr ⟨rfl, by simp [renderType]⟩

/-- A boxed type is told from the others by its first letter. -/
theorem boxedType_parts {type other : TargetType} (same : boxedType type = boxedType other) :
    renderType type = renderType other := by
  rcases boxedType_cases type with boxed | ⟨plain, head⟩ <;>
    rcases boxedType_cases other with boxedOther | ⟨plainOther, headOther⟩
  · rwa [boxed, boxedOther, String.append_left_inj, String.append_right_inj] at same
  · rw [boxed, plainOther] at same
    exact absurd (by simp [← same]) headOther
  · rw [plain, boxedOther] at same
    exact absurd (by simp [same]) head
  · rwa [plain, plainOther] at same

theorem boxedType_head (type : TargetType) : (boxedType type).toList.head? ≠ some 'O' := by
  cases type <;> simp [boxedType, renderType]

/-- An optional type is told from the others by its first letter. -/
theorem fieldType_parts {field other : Field} (same : fieldType field = fieldType other) :
    renderType field.type = renderType other.type ∧ field.required = other.required := by
  have optional_ne : ∀ one two : TargetType, "Option<" ++ boxedType one ++ ">" ≠ boxedType two := by
    intro one two equal
    exact boxedType_head two (by simp [← equal])
  unfold fieldType at same
  cases required : field.required <;> cases requiredOther : other.required <;>
    rw [required, requiredOther] at same
  · simp only [Bool.false_eq_true, if_false, String.append_left_inj, String.append_right_inj]
      at same
    exact ⟨boxedType_parts same, rfl⟩
  · exact absurd same (optional_ne field.type other.type)
  · exact absurd same.symm (optional_ne other.type field.type)
  · exact ⟨boxedType_parts same, rfl⟩

/-- The parts of a field can be told from its line: a colon ends the name. -/
theorem fieldLine_parts {field other : Field} (same : fieldLine field = fieldLine other) :
    fieldIdentifier field.identifier = fieldIdentifier other.identifier ∧
      renderType field.type = renderType other.type ∧ field.required = other.required := by
  have nameFree : ∀ name : String, ':' ∉ (fieldIdentifier name).toList := fun name =>
    not_mem_of_spelled (identifier_spelled (Name.snake_spelled name)) (by decide) (by decide)
  unfold fieldLine at same
  rw [String.append_left_inj, String.append_assoc, String.append_assoc, String.append_assoc,
    String.append_assoc, String.append_right_inj] at same
  have cut : (fieldIdentifier field.identifier).toList ++ ':' :: ' ' :: (fieldType field).toList
      = (fieldIdentifier other.identifier).toList ++ ':' :: ' ' :: (fieldType other).toList := by
    simpa using congrArg String.toList same
  obtain ⟨names, types⟩ := Text.cut_unique (nameFree _) (nameFree _) cut
  have typed := String.toList_inj.mp (List.cons.inj types).2
  exact ⟨String.toList_inj.mp names, fieldType_parts typed⟩

end Rust

namespace Language

/-- The lines that import what a unit needs: the base import, and the one for lists. -/
def importLines (language : Language) (lists : Bool) : List String :=
  let imports := language.baseImport :: (if lists then [language.collectionImport] else [])
  match language with
  | .csharp => imports.map fun name => "using " ++ name ++ ";"
  | .rust => imports.map fun name => "use " ++ name ++ ";"

/-- The lines above the fields of a unit, by the normalized names of its module and type and by
whether it needs lists. -/
def header (language : Language) (moduleName : String) (lists : Bool) (name : String) :
    List String :=
  match language with
  | .csharp =>
    importLines .csharp lists
      ++ ["", "namespace " ++ CSharp.identifier moduleName, "\x7b",
        "    public class " ++ CSharp.identifier name, "    \x7b"]
  | .rust =>
    ["//! `" ++ name ++ "` in module `" ++ Name.snake moduleName
        ++ "`. Generated by openapi-codegen. Do not edit manually.",
      "", "#![allow(unused_imports)]", ""]
      ++ importLines .rust lists
      ++ ["", "#[derive(Debug, Clone, PartialEq)]",
        "pub struct " ++ Rust.identifier name ++ " \x7b"]

/-- The lines below the fields of a unit. -/
def footer : Language → List String
  | .csharp => ["    \x7d", "\x7d"]
  | .rust => ["\x7d"]

def fieldLine : Language → Field → String
  | .csharp => CSharp.fieldLine
  | .rust => Rust.fieldLine

/-- The name of a field as its line spells it. -/
def fieldName : Language → Field → String
  | .csharp, field => CSharp.identifier field.identifier
  | .rust, field => Rust.fieldIdentifier field.identifier

theorem unitSource_eq (language : Language) (moduleName : String) (declaration : Declaration) :
    (SourceUnit.ofDeclaration moduleName declaration language).source
      = Text.unlines (language.header (Name.pascal moduleName) declaration.usesLists declaration.name
          ++ declaration.fields.map language.fieldLine ++ language.footer) := by
  cases language <;> rfl

/-- What the lines around the fields of a unit hold besides letters, digits and characters beyond
ASCII. -/
def frameMarks : List Char := " !#&()*,-./:;=@[]_`\x7b\x7d".toList

/-- What the lines of a unit hold: those of fields have the brackets of types too. -/
def punctuation : List Char := '<' :: '>' :: frameMarks

theorem fieldLine_spelled (language : Language) {field : Field} (normal : field.type.Normalized) :
    Spelled punctuation (language.fieldLine field) := by
  have own := identifier_spelled field
  cases language with
  | csharp =>
    have name : Spelled punctuation (CSharp.identifier field.identifier) :=
      spelled_mono (CSharp.identifier_spelled own) (by decide)
    have type : Spelled punctuation (CSharp.renderType field.type) :=
      spelled_mono (CSharp.renderType_spelled normal) (by decide)
    have word : Spelled punctuation (if field.required then "required " else "") := by
      split <;> decide
    exact spelled_append (spelled_append (spelled_append (spelled_append
      (spelled_append (by decide) word) type) (by decide)) name) (by decide)
  | rust =>
    have name : Spelled punctuation (Rust.fieldIdentifier field.identifier) :=
      spelled_mono (Rust.identifier_spelled (Name.snake_spelled field.identifier)) (by decide)
    have type : Spelled punctuation (Rust.fieldType field) :=
      spelled_mono (Rust.fieldType_spelled normal) (by decide)
    exact spelled_append (spelled_append (spelled_append (spelled_append (by decide) name)
      (by decide)) type) (by decide)

theorem importLines_spelled (language : Language) (lists : Bool) :
    ∀ line ∈ language.importLines lists, Spelled frameMarks line := by
  cases language <;> cases lists <;> decide +kernel

theorem header_spelled (language : Language) {moduleName name : String} (lists : Bool)
    (ownModule : Spelled [] moduleName) (own : Spelled [] name) :
    ∀ line ∈ language.header moduleName lists name, Spelled frameMarks line := by
  cases language with
  | csharp =>
    have named : Spelled frameMarks (CSharp.identifier name) :=
      spelled_mono (CSharp.identifier_spelled own) (by decide)
    have moduleNamed : Spelled frameMarks (CSharp.identifier moduleName) :=
      spelled_mono (CSharp.identifier_spelled ownModule) (by decide)
    simp only [header, List.forall_mem_append, List.forall_mem_cons]
    exact ⟨importLines_spelled .csharp lists, by decide, spelled_append (by decide) moduleNamed,
      by decide, spelled_append (by decide) named, by decide, by simp⟩
  | rust =>
    have kept : Spelled frameMarks name := spelled_mono own (by simp)
    have moduleNamed : Spelled frameMarks (Name.snake moduleName) :=
      spelled_mono (Name.snake_spelled moduleName) (by decide)
    have named : Spelled frameMarks (Rust.identifier name) :=
      spelled_mono (Rust.identifier_spelled (spelled_mono own (by simp))) (by decide)
    simp only [header, List.forall_mem_append, List.forall_mem_cons]
    refine ⟨⟨⟨?_, by decide, by decide, by decide, by simp⟩, importLines_spelled .rust lists⟩,
      by decide, by decide, ?_, by simp⟩
    · exact spelled_append (spelled_append (spelled_append (spelled_append (by decide) kept)
        (by decide)) moduleNamed) (by decide)
    · exact spelled_append (spelled_append (by decide) named) (by decide)

theorem footer_spelled (language : Language) :
    ∀ line ∈ language.footer, Spelled frameMarks line := by
  cases language <;> decide

/-- The lines of a unit are those of its header, one for each field in order, and its footer. -/
theorem linesOf_unitSource (language : Language) (moduleName : String) {declaration : Declaration}
    (own : Spelled [] declaration.name)
    (normal : ∀ field ∈ declaration.fields, field.type.Normalized) :
    Text.linesOf (SourceUnit.ofDeclaration moduleName declaration language).source
      = language.header (Name.pascal moduleName) declaration.usesLists declaration.name
          ++ declaration.fields.map language.fieldLine ++ language.footer := by
  rw [unitSource_eq]
  apply Text.linesOf_unlines
  have heading : ∀ line ∈ language.header (Name.pascal moduleName) declaration.usesLists
      declaration.name, Spelled punctuation line := fun line member =>
    spelled_mono (header_spelled language _ (Name.pascal_spelled moduleName) own line member)
      (by decide)
  have footing : ∀ line ∈ language.footer, Spelled punctuation line := fun line member =>
    spelled_mono (footer_spelled language line member) (by decide)
  have each : ∀ line ∈ language.header (Name.pascal moduleName) declaration.usesLists
      declaration.name ++ declaration.fields.map language.fieldLine ++ language.footer,
      Spelled punctuation line := by
    simp only [List.forall_mem_append, List.forall_mem_map]
    exact ⟨⟨heading, fun field member => fieldLine_spelled language (normal field member)⟩, footing⟩
  intro line member
  exact not_mem_of_spelled (each line member) (by decide) (by decide)

theorem importLines_end {language : Language} {lists otherLists : Bool}
    {rest otherRest : List String}
    (same : language.importLines lists ++ "" :: rest
      = language.importLines otherLists ++ "" :: otherRest) : rest = otherRest := by
  cases language <;> cases lists <;> cases otherLists <;>
    simp [importLines, baseImport, collectionImport] at same <;> exact same

/-- Names and fields can be told from the lines of a unit. -/
theorem header_parts (language : Language) {moduleName otherModule name other : String}
    {lists otherLists : Bool} {rest otherRest : List String} (own : Spelled [] name)
    (ownOther : Spelled [] other)
    (same : language.header moduleName lists name ++ rest
      = language.header otherModule otherLists other ++ otherRest) :
    name = other ∧ rest = otherRest ∧
      (language = .csharp → CSharp.identifier moduleName = CSharp.identifier otherModule) := by
  cases language with
  | csharp =>
    simp only [header, List.append_assoc, List.cons_append, List.nil_append] at same
    have below := importLines_end same
    simp only [List.cons.injEq, String.append_right_inj, true_and] at below
    obtain ⟨modules, names, rests⟩ := below
    exact ⟨CSharp.identifier_inj own ownOther names, rests, fun _ => modules⟩
  | rust =>
    have quoteFree : ∀ {name : String}, Spelled [] name → '`' ∉ name.toList := fun own =>
      not_mem_of_spelled own (by decide) (by simp)
    simp only [header, List.append_assoc, List.cons_append, List.nil_append, List.cons.injEq,
      true_and] at same
    obtain ⟨title, below⟩ := same
    have lower := importLines_end below
    simp only [List.cons.injEq, true_and] at lower
    rw [String.append_left_inj] at title
    simp only [String.append_assoc, String.append_right_inj] at title
    have cut : name.toList ++ '`' :: (" in module `" ++ Name.snake moduleName).toList
        = other.toList ++ '`' :: (" in module `" ++ Name.snake otherModule).toList := by
      simpa using congrArg String.toList title
    have names := (Text.cut_unique (quoteFree own) (quoteFree ownOther) cut).1
    exact ⟨String.toList_inj.mp names, lower.2, by simp⟩

/-- What can be told of a field from its line. -/
def FieldsAgree (language : Language) (field other : Field) : Prop :=
  language.fieldName field = language.fieldName other ∧
    language.renderType field.type = language.renderType other.type ∧
    field.required = other.required

theorem fieldLine_parts (language : Language) {field other : Field}
    (normal : field.type.Normalized) (normalOther : other.type.Normalized)
    (same : language.fieldLine field = language.fieldLine other) :
    FieldsAgree language field other := by
  cases language with
  | csharp => exact CSharp.fieldLine_parts normal normalOther same
  | rust => exact Rust.fieldLine_parts same

theorem fieldLines_parts (language : Language) {fields others : List Field}
    (normal : ∀ field ∈ fields, field.type.Normalized)
    (normalOthers : ∀ field ∈ others, field.type.Normalized)
    (same : fields.map language.fieldLine = others.map language.fieldLine) :
    List.Forall₂ (fun field other => FieldsAgree language field other ∧
      (language = .csharp → field.type = other.type)) fields others := by
  induction fields generalizing others with
  | nil =>
    cases others with
    | nil => exact .nil
    | cons other rest => cases same
  | cons field rest ih =>
    cases others with
    | nil => cases same
    | cons other otherRest =>
      obtain ⟨lines, later⟩ := List.cons.inj same
      obtain ⟨own, below⟩ := List.forall_mem_cons.mp normal
      obtain ⟨ownOther, belowOther⟩ := List.forall_mem_cons.mp normalOthers
      have parts := fieldLine_parts language own ownOther lines
      refine .cons ⟨parts, ?_⟩ (ih below belowOther later)
      rintro rfl
      exact CSharp.renderType_inj own ownOther parts.2.1

end Language

/-- A unit consists of the lines of its header, one line for each field in the order of the fields,
and its footer, whatever its names are made from. Two units with one text come from declarations
with one name whose fields agree one by one: in their names and types as rendered and in whether
they are required. In C# their modules and the types themselves agree too. -/
theorem source_determines_declaration (language : Language)
    {moduleName otherModule name otherName : String} {fields others : List Field}
    (normal : ∀ field ∈ fields, field.type.Normalized)
    (normalOthers : ∀ field ∈ others, field.type.Normalized) :
    let declaration := Declaration.ofFields name fields
    let other := Declaration.ofFields otherName others
    let lines := language.header (Name.pascal moduleName) declaration.usesLists declaration.name
      ++ fields.map language.fieldLine ++ language.footer
    ∃ unit otherUnit, SourceUnit.build moduleName declaration language = .ok unit ∧
    SourceUnit.build otherModule other language = .ok otherUnit ∧
    unit.source = Text.unlines lines ∧ Text.linesOf unit.source = lines ∧
    (unit.source = otherUnit.source →
      declaration.name = other.name ∧ fields.length = others.length ∧
      List.Forall₂ (fun field other =>
        language.fieldName field = language.fieldName other ∧
        language.renderType field.type = language.renderType other.type ∧
        field.required = other.required ∧
        (language = .csharp → field.type = other.type)) fields others ∧
      (language = .csharp → Name.pascal moduleName = Name.pascal otherModule)) := by
  intro declaration other lines
  have own : Spelled [] declaration.name := Name.pascal_spelled name
  have ownOther : Spelled [] other.name := Name.pascal_spelled otherName
  have listed : Text.linesOf (SourceUnit.ofDeclaration moduleName declaration language).source
      = lines := Language.linesOf_unitSource language moduleName own normal
  refine ⟨_, _, SourceUnit.build_eq moduleName declaration language,
    SourceUnit.build_eq otherModule other language,
    Language.unitSource_eq language moduleName declaration, listed, ?_⟩
  intro same
  have otherListed := Language.linesOf_unitSource language otherModule ownOther normalOthers
  have both := (listed.symm.trans (congrArg Text.linesOf same)).trans otherListed
  simp only [lines, List.append_assoc] at both
  obtain ⟨names, below, modules⟩ := Language.header_parts language own ownOther both
  have fieldLines := List.append_cancel_right below
  have parts := Language.fieldLines_parts language normal normalOthers fieldLines
  refine ⟨names, parts.length_eq, parts.imp ?_, ?_⟩
  · rintro field second ⟨⟨named, typed, required⟩, types⟩
    exact ⟨named, typed, required, types⟩
  · intro csharp
    exact CSharp.identifier_inj (Name.pascal_spelled moduleName) (Name.pascal_spelled otherModule)
      (modules csharp)

/-- Keys that hold a line feed, a quote and brackets, and a list of a class named `string`. -/
def receipt : List Field :=
  [⟨"unit\nprice", .double, true⟩, ⟨"`total` \x7b", .named (Name.pascal "sum>"), false⟩,
    ⟨"notes", .list (.named (Name.pascal "string")), false⟩]

def otherReceipt : List Field :=
  [⟨"unit-price", .double, true⟩, ⟨"Total", .named (Name.pascal "Sum"), false⟩,
    ⟨"Notes", .list .text, false⟩]

theorem source_determines_declaration_receipt :
    (∀ field ∈ receipt, field.type.Normalized) ∧ (∀ field ∈ otherReceipt, field.type.Normalized) ∧
    ∃ unit otherUnit,
    SourceUnit.build "web\nshop" (.ofFields "my receipt" receipt) .rust = .ok unit ∧
    SourceUnit.build "WebShop" (.ofFields "My_Receipt" otherReceipt) .rust = .ok otherUnit ∧
    unit.source = otherUnit.source ∧
    Text.linesOf unit.source
      = ["//! `MyReceipt` in module `web_shop`. Generated by openapi-codegen. Do not edit manually.",
        "", "#![allow(unused_imports)]", "", "use super::*;", "use std::vec::Vec;", "",
        "#[derive(Debug, Clone, PartialEq)]", "pub struct MyReceipt \x7b", "    pub unit_price: f64,",
        "    pub total: Option<Box<Sum>>,", "    pub notes: Option<Vec<String>>,", "\x7d"] ∧
    List.Forall₂ (fun field other =>
        Language.rust.fieldName field = Language.rust.fieldName other ∧
        Language.rust.renderType field.type = Language.rust.renderType other.type ∧
        field.required = other.required ∧
        (Language.rust = .csharp → field.type = other.type)) receipt otherReceipt := by
  have normal : ∀ field ∈ receipt, field.type.Normalized := by
    simp only [receipt, List.forall_mem_cons]
    exact ⟨trivial, ⟨"sum>", rfl⟩, ⟨"string", rfl⟩, by simp⟩
  have normalOther : ∀ field ∈ otherReceipt, field.type.Normalized := by
    simp only [otherReceipt, List.forall_mem_cons]
    exact ⟨trivial, ⟨"Sum", rfl⟩, trivial, by simp⟩
  obtain ⟨unit, otherUnit, built, builtOther, -, listed, parts⟩ :=
    @source_determines_declaration .rust "web\nshop" "WebShop" "my receipt" "My_Receipt" receipt
      otherReceipt normal normalOther
  have same : unit.source = otherUnit.source := by
    have sources : (SourceUnit.build "web\nshop" (.ofFields "my receipt" receipt) .rust).map
          SourceUnit.source
        = (SourceUnit.build "WebShop" (.ofFields "My_Receipt" otherReceipt) .rust).map
          SourceUnit.source := by decide +kernel
    rw [built, builtOther] at sources
    exact Except.ok.inj sources
  exact ⟨normal, normalOther, unit, otherUnit, built, builtOther, same,
    listed.trans (by decide +kernel), (parts same).2.2.1⟩

end SchemaDecls
