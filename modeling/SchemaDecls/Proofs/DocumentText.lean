import SchemaDecls.Generate
import SchemaDecls.Proofs.JsonRecords

/-!
Documents spelled as JSON texts. A document, an info, a components object and a schema are objects
whose known members stand in any order among members of other names and any value; an absent member
may be written as `null`. Strings, numbers and blanks have all their spellings. Each such text
loads, as exactly the document that it spells.
-/
namespace SchemaDecls.Json
open ScanState

/-- A list of strings, where `room` containers may stand inside each other. -/
def StringsText (room : Nat) (names : List String) (text : List Char) : Prop :=
  0 < room ∧ ∃ elements, ArrayText elements text ∧ List.Forall₂ StringText names elements

inductive TypeText (room : Nat) : TypeKeyword → List Char → Prop where
  | one {name : String} {text : List Char} (spelled : StringText name text) :
      TypeText room (.one name) text
  | several {names : List String} {text : List Char} (spelled : StringsText room names text) :
      TypeText room (.several names) text

mutual

/-- A schema, where `room` containers that are read may stand inside each other. -/
def SchemaText : Nat → WrittenSchema → List Char → Prop
  | 0, _, _ => False
  | room + 1, written, text =>
    RecordText ["$ref", "type", "title", "properties", "required", "items"] (fun members =>
      Shows members "$ref" StringText written.reference ∧
      Shows members "type" (TypeText room) written.type? ∧
      Shows members "title" StringText written.title ∧
      Shows members "properties" (TableText room) written.properties ∧
      Shows members "required" (StringsText room) written.required ∧
      Shows members "items" (SchemaText room) written.items) text

def TableText : Nat → Members WrittenSchema → List Char → Prop
  | 0, _, _ => False
  | room + 1, table, text =>
    table.keys.Nodup ∧ ∃ members, ObjectText StringText members text ∧
      List.Forall₂ (fun entry member => member.1 = entry.1 ∧ SchemaText room entry.2 member.2)
        table members

end

def InfoText (title : Option String) (text : List Char) : Prop :=
  RecordText ["title"] (fun members => Shows members "title" StringText title) text

def ComponentsText (room : Nat) (schemas : Option (Members WrittenSchema)) (text : List Char) :
    Prop :=
  RecordText ["schemas"] (fun members => Shows members "schemas" (TableText room) schemas) text

/-- Containers that are read stand inside each other less deep than this. -/
def nestingLimit : Nat := 128

/-- A whole document. Its object is the first container, that of its components the second. -/
def DocumentText (written : WrittenDocument) (text : List Char) : Prop :=
  ∃ body, Padded body text ∧ RecordText ["info", "components", "definitions"] (fun members =>
    (∃ info : Option (Option String), Shows members "info" InfoText info ∧
      written.title = info.join) ∧
    (∃ components : Option (Option (Members WrittenSchema)),
      Shows members "components" (ComponentsText (nestingLimit - 3)) components ∧
      written.schemas = components.join) ∧
    Shows members "definitions" (TableText (nestingLimit - 2)) written.definitions) body

theorem decodes_string {content : String} {text : List Char} (spelled : StringText content text) :
    Decodes string text content := ⟨_, parses_string spelled, rfl⟩

/-- A list of strings is read whole in the room of one container, and as the list of their
contents. -/
theorem parses_strings {room : Nat} {names : List String} {text : List Char}
    (spelled : StringsText room names text) :
    ∃ elements : Elements, Parses text (.array elements) ∧ elements.strings = .ok names ∧
      (Tree.array elements).read room = .ok () := by
  obtain ⟨space, parts, layout, contents⟩ := spelled
  let trees := names.map fun name => Tree.text ⟨name, true⟩
  have parsed : List.Forall₂ Parses parts trees := by
    rw [List.forall₂_map_right_iff]
    exact contents.flip.imp fun _ _ spelled => parses_string spelled
  have decoded : (Elements.ofList trees).strings = .ok names ∧
      (Elements.ofList trees).read (room - 1) = .ok () := by
    clear parsed contents
    induction names with
    | nil => exact ⟨rfl, rfl⟩
    | cons name rest ih =>
      obtain ⟨strings, read⟩ := ih
      constructor
      · exact congrArg (Except.map (name :: ·)) strings
      · exact read
  refine ⟨.ofList trees, parses_array layout parsed, decoded.1, ?_⟩
  rw [Tree.read, if_neg (Nat.pos_iff_ne_zero.mp space)]
  exact decoded.2

theorem decodes_strings {room : Nat} {names : List String} {text : List Char}
    (spelled : StringsText room names text) : Decodes (strings room) text names := by
  obtain ⟨elements, parses, contents, _⟩ := parses_strings spelled
  obtain ⟨_, rfl⟩ := Nat.exists_eq_succ_of_ne_zero (Nat.pos_iff_ne_zero.mp spelled.1)
  exact ⟨.array elements, parses, contents⟩

theorem decodes_type {room : Nat} {keyword : TypeKeyword} {text : List Char}
    (spelled : TypeText room keyword text) : Decodes (typeKeyword room) text keyword := by
  cases spelled with
  | one name => exact ⟨_, parses_string name, rfl⟩
  | several names =>
    obtain ⟨elements, parses, contents, whole⟩ := parses_strings names
    refine ⟨.array elements, parses, ?_⟩
    rw [typeKeyword, whole]
    simp only [bind, Except.bind, contents]
    rfl

def SchemaKey.fields : Fields SchemaKey WrittenSchema where
  Field
    | .reference | .title => Option String
    | .type => Option TypeKeyword
    | .properties => Option (Members WrittenSchema)
    | .required => Option (List String)
    | .items => Option WrittenSchema
  get
    | .reference, written => written.reference
    | .type, written => written.type?
    | .title, written => written.title
    | .properties, written => written.properties
    | .required, written => written.required
    | .items, written => written.items
  set
    | .reference, value, written => { written with reference := value }
    | .type, value, written => { written with type? := value }
    | .title, value, written => { written with title := value }
    | .properties, value, written => { written with properties := value }
    | .required, value, written => { written with required := value }
    | .items, value, written => { written with items := value }
  get_set key _ _ := by cases key <;> rfl
  get_set_other key other _ _ apart := by
    cases key <;> cases other <;> first | rfl | exact absurd rfl apart
  ext one other same := by
    obtain ⟨reference, type, title, properties, required, items⟩ := one
    obtain ⟨_, _, _, _, _, _⟩ := other
    cases same .reference
    cases same .type
    cases same .title
    cases same .properties
    cases same .required
    cases same .items
    rfl

section Schemas

def schemaReader (room : Nat) (inner : DataFormat.Readers Decoded Tree) :
    (key : SchemaKey) → Tree → Decoded (SchemaKey.fields.Field key)
  | .reference | .title => optional string
  | .type => optional (typeKeyword room)
  | .properties => optional inner.table
  | .required => optional (strings room)
  | .items => optional inner.schema

theorem assignSchema_eq (room : Nat) (inner : DataFormat.Readers Decoded Tree) (key : SchemaKey)
    (written : WrittenSchema) (tree : Tree) :
    format.assignSchema room inner key written tree
      = (schemaReader room inner key tree).map fun value =>
          SchemaKey.fields.set key value written := by
  cases key <;> exact bind_pure_comp _ _

theorem readers_refuse_null (room : Nat) :
    (∀ written, (format.readers room).schema .null ≠ .ok written) ∧
      ∀ table, (format.readers room).table .null ≠ .ok table := by
  cases room <;> exact ⟨nofun, nofun⟩

/-- The spelling of a schema, or of a table of schemas, is decoded where there is room for it. -/
theorem decodes_schema (room : Nat) :
    (∀ written text, SchemaText room written text →
      Decodes (format.readers room).schema text written) ∧
    ∀ table text, TableText room table text → Decodes (format.readers room).table text table := by
  -- A schema and a table each take one container, so both hold one level up by both one below.
  induction room with
  | zero => exact ⟨nofun, nofun⟩
  | succ room ih =>
    obtain ⟨schemas, tables⟩ := ih
    obtain ⟨noSchema, noTable⟩ := readers_refuse_null room
    constructor
    · intro written text spelled
      rw [SchemaText] at spelled
      refine record_decodes SchemaKey.fields _ (assignSchema_eq room (format.readers room))
        schemaKey_named rfl spelled ?_
      rintro members ⟨reference, type, title, properties, required, items⟩ key
      cases key with
      | reference => exact shown_member (fun _ _ => decodes_string) nofun reference
      | type => exact shown_member (fun _ _ => decodes_type) nofun type
      | title => exact shown_member (fun _ _ => decodes_string) nofun title
      | properties => exact shown_member tables noTable properties
      | required => exact shown_member (fun _ _ => decodes_strings) nofun required
      | items => exact shown_member schemas noSchema items
    · intro table text spelled
      rw [TableText] at spelled
      obtain ⟨distinct, members, layout, entries⟩ := spelled
      refine table_decodes distinct layout (entries.imp fun entry member both => ?_)
      exact ⟨both.1, schemas _ _ both.2⟩

end Schemas

section Documents

def soleField (α : Type) : Fields Unit (Option α) where
  Field _ := Option α
  get _ value := value
  set _ value _ := value
  get_set _ _ _ := rfl
  get_set_other _ _ _ _ apart := absurd rfl apart
  ext _ _ same := same ()

/-- An object whose only known member may be absent. -/
theorem sole_decodes {α : Type} {name : String} {Spelled : α → List Char → Prop}
    {decode : Tree → Decoded α}
    (decodes : ∀ value text, Spelled value text → Decodes decode text value)
    (refuses : ∀ value, decode .null ≠ .ok value) {shown : Option α} {text : List Char}
    (spelled : RecordText [name] (fun members => Shows members name Spelled shown) text) :
    Decodes (record (fun _ => name) [()] none fun _ _ tree => optional decode tree) text shown := by
  refine record_decodes (soleField α) (fun _ => optional decode) (fun _ _ tree => ?_)
    (soleKey_named name) rfl spelled fun members shows _ => shown_member decodes refuses shows
  cases optional decode tree <;> rfl

def DocumentKey.fields : Fields DocumentKey WrittenDocument where
  Field
    | .info => Option String
    | .components | .definitions => Option (Members WrittenSchema)
  get
    | .info, written => written.title
    | .components, written => written.schemas
    | .definitions, written => written.definitions
  set
    | .info, value, written => { written with title := value }
    | .components, value, written => { written with schemas := value }
    | .definitions, value, written => { written with definitions := value }
  get_set key _ _ := by cases key <;> rfl
  get_set_other key other _ _ apart := by
    cases key <;> cases other <;> first | rfl | exact absurd rfl apart
  ext one other same := by
    obtain ⟨title, schemas, definitions⟩ := one
    obtain ⟨_, _, _⟩ := other
    cases same .info
    cases same .components
    cases same .definitions
    rfl

def documentReader (room : Nat) :
    (key : DocumentKey) → Tree → Decoded (DocumentKey.fields.Field key)
  | .info => fun tree => (optional format.title tree).map Option.join
  | .components => fun tree => (optional (format.schemas (room - 1)) tree).map Option.join
  | .definitions => optional (format.readers room).table

theorem assignDocument_eq (room : Nat) (key : DocumentKey) (written : WrittenDocument)
    (tree : Tree) :
    format.assignDocument room key written tree
      = (documentReader room key tree).map fun value =>
          DocumentKey.fields.set key value written := by
  cases key with
  | info =>
    let change (title : Option String) : WrittenDocument := { written with title := title }
    exact (bind_pure_comp (change ∘ Option.join) _).trans (comp_map Option.join change _)
  | components =>
    let change (schemas : Option (Members WrittenSchema)) : WrittenDocument :=
      { written with schemas := schemas }
    exact (bind_pure_comp (change ∘ Option.join) _).trans (comp_map Option.join change _)
  | definitions => exact bind_pure_comp _ _

theorem decodes_info {title : Option String} {text : List Char} (spelled : InfoText title text) :
    Decodes format.title text title :=
  sole_decodes (fun _ _ => decodes_string) nofun spelled

theorem decodes_components {room : Nat} {schemas : Option (Members WrittenSchema)}
    {text : List Char} (spelled : ComponentsText room schemas text) :
    Decodes (format.schemas room) text schemas :=
  sole_decodes (decodes_schema room).2 (readers_refuse_null room).2 spelled

/-- What a member joins to that may be absent itself or hold nothing. -/
theorem joined_member {α : Type} {members : List (String × List Char)} {name : String}
    {Spelled : Option α → List Char → Prop} {decode : Tree → Decoded (Option α)}
    (decodes : ∀ value text, Spelled value text → Decodes decode text value)
    (refuses : ∀ value, decode .null ≠ .ok value) {shown : Option (Option α)} {held : Option α}
    (shows : Shows members name Spelled shown) (joined : held = shown.join) :
    (valuesOf name members = [] ∧ none = held) ∨
      ∃ value, valuesOf name members = [value] ∧
        Decodes (fun tree => (optional decode tree).map Option.join) value held := by
  subst joined
  rcases shown_member decodes refuses shows with ⟨nothing, rfl⟩ | ⟨value, only, tree, parses, read⟩
  · exact .inl ⟨nothing, rfl⟩
  · exact .inr ⟨value, only, tree, parses, congrArg (Except.map Option.join) read⟩

theorem decodes_document {written : WrittenDocument} {body : List Char}
    (spelled : RecordText ["info", "components", "definitions"] (fun members =>
      (∃ info : Option (Option String), Shows members "info" InfoText info ∧
        written.title = info.join) ∧
      (∃ components : Option (Option (Members WrittenSchema)),
        Shows members "components" (ComponentsText (nestingLimit - 3)) components ∧
        written.schemas = components.join) ∧
      Shows members "definitions" (TableText (nestingLimit - 2)) written.definitions) body) :
    Decodes (format.document depth) body written := by
  refine record_decodes DocumentKey.fields _ (assignDocument_eq (depth - 1)) documentKey_named rfl
    spelled ?_
  rintro members ⟨⟨info, showsInfo, title⟩, ⟨components, showsComponents, schemas⟩, definitions⟩ key
  cases key with
  | info => exact joined_member (fun _ _ => decodes_info) nofun showsInfo title
  | components => exact joined_member (fun _ _ => decodes_components) nofun showsComponents schemas
  | definitions => exact shown_member (decodes_schema _).2 (readers_refuse_null _).2 definitions

end Documents

/-- Blanks around a value leave nothing behind it. -/
theorem parse_padded {body text : List Char} {tree : Tree} (padded : Padded body text)
    (parses : Parses body tree) : parse (String.ofList text) = ⟨tree, false⟩ := by
  cases padded with
  | @between before after left right =>
    have ends : Delimited [] := nofun
    have nothing : between.scan [] after = [] := by
      have passed := scan_blank right []
      rwa [List.append_nil] at passed
    have delimited := delimited_blank right ends
    rw [List.append_nil] at delimited
    unfold parse tokens
    rw [String.toList_ofList, scan_blank left, parses .value [] after .value delimited, nothing]
    rfl

/-- A text that spells a document, in whatever way, loads as that document with its references
resolved. -/
theorem loadDocument_spelled {written : WrittenDocument} {text : String}
    (spelled : DocumentText written text.toList) :
    loadDocument text .json = .ok written.resolve := by
  obtain ⟨body, padded, object⟩ := spelled
  obtain ⟨tree, parses, decoded⟩ := decodes_document object
  have parsed := parse_padded padded parses
  rw [String.ofList_toList] at parsed
  have read : readDocument text = .ok written := by
    unfold readDocument
    simp only [parsed, decoded]
    rfl
  unfold loadDocument readWritten
  rw [read]
  rfl

namespace Smiles

def schema : WrittenSchema := { WrittenSchema.empty with type? := some (.several ["array"]) }

/-- One entry, whose name is a character that takes a surrogate pair when it is escaped. -/
def written : WrittenDocument := { WrittenDocument.empty with definitions := some [("😀", schema)] }

def schemaText : String := "\x7b\"items\":null,\"\\u0074ype\":[\"array\"]\x7d"

def tableText : String := "\x7b\"\\ud83d\\ude00\":" ++ schemaText ++ "\x7d"

def unreadText : String := "[1e999,\"\\ud800\"]"

def text : String := "\x7b\"x\":" ++ unreadText ++ ", \"definitions\" :" ++ tableText ++ " \x7d\n"

theorem noBlank : Blank [] := nofun

theorem unit (code : Nat) (a b c d : Char × Nat)
    (value : code = ((a.2 * 16 + b.2) * 16 + c.2) * 16 + d.2)
    (digits : ∀ digit ∈ [a, b, c, d], digit ∈ hexadecimals) :
    UnitText code [a.1, b.1, c.1, d.1] := by
  simp only [List.forall_mem_cons] at digits
  exact value ▸ .digits digits.1 digits.2.1 digits.2.2.1 digits.2.2.2.1

theorem name_spelled : StringText "😀" "\"\\ud83d\\ude00\"".toList := by
  have high := unit (0xD800 + ('😀'.toNat - 0x10000) / 0x400) ('d', 13) ('8', 8) ('3', 3) ('d', 13)
    (by decide) (by decide)
  have low := unit (0xDC00 + ('😀'.toNat - 0x10000) % 0x400) ('d', 13) ('e', 14) ('0', 0) ('0', 0)
    (by decide) (by decide)
  exact ⟨"\\ud83d\\ude00".toList, .cons (.pair (by decide) high low) .nil, by decide⟩

theorem schema_spelled : SchemaText 125 schema schemaText.toList := by
  have letter := unit 't'.toNat ('0', 0) ('0', 0) ('7', 7) ('4', 4) (by decide) (by decide)
  have key : StringText "type" "\"\\u0074ype\"".toList :=
    ⟨"\\u0074ype".toList,
      .cons (.unit letter) (charsText_unescaped (forall_mem_of_all (by decide))), by decide⟩
  have list : BracketText '[' ']' (fun element part => part = element)
      ["\"array\"".toList] ('[' :: ([] ++ ("\"array\"".toList ++ []) ++ [']'])) :=
    .filled (.one rfl (.between noBlank noBlank))
  have type : TypeText 124 (.several ["array"]) "[\"array\"]".toList :=
    .several ⟨by decide, _, list, .cons (stringText_unescaped "array" (by decide)) .nil⟩
  have layout : ObjectText StringText
      [("items", "null".toList), ("type", "[\"array\"]".toList)] _ :=
    .filled (.more (.pair (stringText_unescaped "items" (by decide)) noBlank noBlank)
      (.between noBlank noBlank) (.one (.pair key noBlank noBlank) (.between noBlank noBlank)))
  refine (?_ : _ = schemaText.toList) ▸ .object layout (by simp)
    ⟨.inl rfl, ⟨_, rfl, type⟩, .inl rfl, .inl rfl, .inl rfl, .inr rfl⟩
  decide

theorem table_spelled : TableText 126 [("😀", schema)] tableText.toList := by
  have layout : ObjectText StringText [("😀", schemaText.toList)] _ :=
    .filled (.one (.pair name_spelled noBlank noBlank) (.between noBlank noBlank))
  refine (?_ : _ = tableText.toList) ▸
    ⟨by simp [Members.keys], _, layout, .cons ⟨rfl, schema_spelled⟩ .nil⟩
  decide

/-- What stands under an unknown key may be beyond all numbers and hold half a surrogate pair. -/
theorem unread_spelled : ValueText unreadText.toList := by
  have large : ValueText "1e999".toList :=
    .number (show NumberText ([] ++ (['1'] ++ ([] ++ 'e' :: ([] ++ ['9', '9', '9'])))) from
      .parts .positive (.digits (by decide) (by decide) nofun) .absent
        (.digits (by decide) (by decide) ⟨by decide, forall_mem_of_all (by decide)⟩))
  have code := unit 0xD800 ('d', 13) ('8', 8) ('0', 0) ('0', 0) (by decide) (by decide)
  have half : ValueText "\"\\ud800\"".toList :=
    .string ⟨"\\ud800".toList, .unit code .nil, by decide⟩
  have layout : ArrayText ["1e999".toList, "\"\\ud800\"".toList] _ :=
    .filled (.more rfl (.between noBlank noBlank) (.one rfl (.between noBlank noBlank)))
  refine (?_ : _ = unreadText.toList) ▸ .array (by simpa using ⟨large, half⟩) layout
  decide

theorem document_spelled : DocumentText written text.toList := by
  have space : Blank [' '] := by simp [Blank, blanks]
  have newline : Blank ['\n'] := by simp [Blank, blanks]
  have layout : ObjectText StringText
      [("x", unreadText.toList), ("definitions", tableText.toList)] _ :=
    .filled (.more (.pair (stringText_unescaped "x" (by decide)) noBlank noBlank)
      (.between noBlank noBlank)
      (.one (.pair (stringText_unescaped "definitions" (by decide)) space noBlank)
        (.between space space)))
  refine (?_ : _ = text.toList) ▸
    ⟨_, .between noBlank newline, .object layout (by simpa using unread_spelled)
      ⟨⟨none, .inl rfl, rfl⟩, ⟨none, .inl rfl, rfl⟩, ⟨_, rfl, table_spelled⟩⟩⟩
  decide

theorem loadDocument_spelled_smiles :
    DocumentText written text.toList ∧ loadDocument text .json = .ok written.resolve :=
  ⟨document_spelled, loadDocument_spelled document_spelled⟩

end Smiles

end SchemaDecls.Json
