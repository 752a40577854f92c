import SchemaDecls.Generate
import SchemaDecls.Proofs.Alias
import SchemaDecls.Proofs.SpelledPositions

/-!
The paths that failures report. Read as a pointer, the path always names the position of the
offending schema in the resolved document, below `components.schemas`. In the text that document was
read from, the pointer leads to the offending schema exactly when the table is written there, no
schema above the position is a reference, and the objects on the way are legible.
-/
namespace SchemaDecls

def tableSegments (name : String) (place : List Step) : List String :=
  "components" :: "schemas" :: name :: stepSegments place

/-- What the schema written at a position of the entry `name` resolves to. -/
def resolvedAt (table : Members WrittenSchema) (name : String) :
    List Step → WrittenSchema → Schema
  | [], written => resolveEntry table name written
  | _ :: _, written => written.resolve table

theorem segments?_place (name : String) (place : List Step) :
    Pointer.segments?
        (Pointer.extend (Pointer.push "/components/schemas" name) (stepSegments place))
      = some (tableSegments name place) := by
  have toTable : Pointer.segments? "/components/schemas" = some ["components", "schemas"] := by
    decide +kernel
  have toEntry := Pointer.segments?_push toTable name
  exact Pointer.segments?_extend toEntry (stepSegments place)

theorem checkpoint_of_table {entries : List (String × Schema)} {checkpoint : Checkpoint}
    (noted : checkpoint ∈ tableCheckpoints entries) :
    ∃ name schema, (name, schema) ∈ entries ∧
      checkpoint ∈ Visit.checkpoints ⟨name, Pointer.push "/components/schemas" name, schema⟩ := by
  obtain ⟨⟨name, schema⟩, member, inside⟩ := List.mem_flatMap.mp noted
  refine ⟨name, schema, member, ?_⟩
  unfold rootVisit? at inside
  split at inside
  · exact inside
  · cases inside

/-- A failure of a document is the offense of a schema at the position that its path names. -/
theorem offense_of_compile {written : WrittenDocument} {table : Members WrittenSchema}
    (listed : written.table = some table) {settings : Settings} {failure : SchemaFailure}
    (failed : written.resolve.compile settings = .error (.schema failure)) :
    ∃ name source reported place offender, (name, source) ∈ table ∧
      Pointer.segments? failure.path = some (tableSegments name reported) ∧
      Offense name (resolveEntry table name source) reported place offender failure.defect := by
  have resolved : written.resolve.schemas
      = some (table.map fun entry => (entry.1, resolveEntry table entry.1 entry.2)) := by
    rw [WrittenDocument.resolve, listed, Option.map_some]
  rcases (compile_eq_error_iff _ settings _).mp failed with
    ⟨_, missing⟩ | ⟨entries, fault, present, same, run⟩
  · cases missing
  · cases same
    cases resolved.symm.trans present
    have first := (answers_error_iff (tableDeclarations_answers _) failure).mp run
    obtain ⟨checkpoint, noted, found⟩ := firstFault_member first
    obtain ⟨key, whole, member, inside⟩ := checkpoint_of_table noted
    obtain ⟨⟨name, source⟩, entry, same⟩ := List.mem_map.mp member
    cases same
    obtain ⟨steps, schema, within, stands⟩ := checkpoint_stands inside
    obtain ⟨reported, place, offender, offense, path⟩ := offense_of_fault within stands found
    refine ⟨name, source, reported, place, offender, entry, ?_, offense⟩
    rw [path]
    exact segments?_place name reported

theorem written_of_offense {table : Members WrittenSchema} {name : String} {source : WrittenSchema}
    {reported place : List Step} {offender : Schema} {defect : Defect}
    (offense : Offense name (resolveEntry table name source) reported place offender defect)
    (inPlace : InPlace source place) :
    ∃ written, source.At place written ∧ offender = resolvedAt table name place written := by
  have stands := offense_stands offense
  cases place with
  | nil =>
    cases stands
    exact ⟨source, .here, rfl⟩
  | cons step steps =>
    have plain := inPlace_plain inPlace
    have own : resolveEntry table name source = source.resolve table :=
      resolveEntry_endsAt (.here plain)
    rw [own] at stands
    exact written_of_inPlace stands inPlace

/-- The value that a JSON Pointer addresses. -/
def Json.Tree.at? (root : Json.Tree) (pointer : String) : Option Json.Tree :=
  (Pointer.segments? pointer).bind fun segments => root.reach? segments

/-- The pointer to a position of an entry reaches, in a JSON text, a value that the loader reads as
the schema at that position, and the offending schema is what that one resolves to. -/
def PointsAt (root : Json.Tree) (table : Members WrittenSchema) (name : String)
    (source : WrittenSchema) (place : List Step) (offender : Schema) : Prop :=
  ∃ value written, root.reach? (tableSegments name place) = some value ∧
    Json.Spells value written ∧ source.At place written ∧
    offender = resolvedAt table name place written

theorem read_of_loaded {text : String} {document : Document}
    (loaded : loadDocument text .json = .ok document) :
    ∃ written, readWritten text .json = .ok written ∧ document = written.resolve ∧
      Json.format.document Json.depth (Json.parse text).root = .ok written := by
  obtain ⟨written, run, same⟩ := map_eq_ok_iff.mp loaded
  refine ⟨written, run, same.symm, ?_⟩
  simp only [readWritten] at run
  cases decoded : Json.readDocument text with
  | error fault =>
    rw [decoded] at run
    cases run
  | ok found =>
    rw [decoded] at run
    cases run
    obtain ⟨found, read, rest⟩ := bind_eq_ok_iff.mp decoded
    split at rest
    · cases rest
    · cases rest
      exact read

theorem pointsAt_iff {root : Json.Tree} {limit : Nat} {written : WrittenDocument}
    {table : Members WrittenSchema} {name : String} {source : WrittenSchema}
    {reported place : List Step} {offender : Schema} {defect : Defect}
    (read : Json.format.document limit root = .ok written) (listed : written.table = some table)
    (member : (name, source) ∈ table)
    (offense : Offense name (resolveEntry table name source) reported place offender defect) :
    PointsAt root table name source place offender ↔
      written.schemas = some table ∧ InPlace source place ∧
        Json.Legible (tableSegments name place) root := by
  constructor
  -- Whatever the pointer reaches lies under `components.schemas`, without a reference on the way.
  · rintro ⟨value, schema, reached, _, stands, _⟩
    obtain ⟨present, entry, spelled, onward, around⟩ :=
      Json.entry_of_reached read listed member reached
    obtain ⟨_, inPlace, legible⟩ := Json.spells_reached spelled stands onward
    exact ⟨present, inPlace, around legible⟩
  · rintro ⟨present, inPlace, legible⟩
    obtain ⟨schema, stands, resolved⟩ := written_of_offense offense inPlace
    obtain ⟨entry, spelled, below, toEntry⟩ := Json.entry_of_legible read present member legible
    obtain ⟨value, onward⟩ := Json.reached_of_legible spelled stands below
    obtain ⟨spelledValue, _⟩ := Json.spells_reached spelled stands onward
    exact ⟨value, schema, toEntry value onward, spelledValue, stands, resolved⟩

/-- A text fails to compile when it loads and its document does not compile. -/
theorem compileText_eq_compile_error_iff {text : String} {format : DocumentFormat}
    {settings : Settings} {fault : CompileFailure} :
    compileText text format settings = .error (.compile fault) ↔
      ∃ document, loadDocument text format = .ok document ∧
        document.compile settings = .error fault := by
  rw [compileText, bind_eq_error_iff]
  simp [mapError_eq_ok_iff, mapError_eq_error_iff]

/-- The path of a failure spells the position of the offending schema below `components.schemas` of
the resolved document. In the JSON text the pointer leads to that schema exactly when the text holds
the table there, no schema above the position is a reference, and the way is legible. -/
theorem failure_path_points_at_offender {text : String} {document : Document} {settings : Settings}
    {failure : SchemaFailure} (loaded : loadDocument text .json = .ok document)
    (failed : document.compile settings = .error (.schema failure)) :
    ∃ written table name source reported place offender,
      readWritten text .json = .ok written ∧ document = written.resolve ∧
      written.table = some table ∧ (name, source) ∈ table ∧
      Pointer.segments? failure.path = some (tableSegments name reported) ∧
      Offense name (resolveEntry table name source) reported place offender failure.defect ∧
      (PointsAt (Json.parse text).root table name source place offender ↔
        written.schemas = some table ∧ InPlace source place ∧
          Json.Legible (tableSegments name place) (Json.parse text).root) := by
  obtain ⟨written, run, rfl, read⟩ := read_of_loaded loaded
  have listed : ∃ table, written.table = some table := by
    cases present : written.table with
    | some table => exact ⟨table, rfl⟩
    | none => simp [Document.compile, WrittenDocument.resolve, present] at failed
  obtain ⟨table, listed⟩ := listed
  obtain ⟨name, source, reported, place, offender, member, path, offense⟩ :=
    offense_of_compile listed failed
  exact ⟨written, table, name, source, reported, place, offender, run, rfl, listed, member, path,
    offense, pointsAt_iff read listed member offense⟩

def ledgerText : String :=
  "\x7b\"components\":\x7b\"schemas\":\x7b\"a/b~\":\x7b\"type\":\"object\",\"properties\":" ++
  "\x7b\"r\":\x7b\"type\":\"array\",\"items\":\x7b\"type\":\"null\"\x7d\x7d\x7d\x7d\x7d\x7d\x7d"

def ledgerFailure : SchemaFailure where
  path := "/components/schemas/a~1b~0/properties/r/items"
  defect := .unsupportedItems

theorem failure_path_points_at_offender_ledger :
    ∃ (document : Document) (written : WrittenDocument) (table : Members WrittenSchema)
      (name : String) (source : WrittenSchema) (reported place : List Step) (offender : Schema),
      loadDocument ledgerText .json = .ok document ∧
      document.compile {} = .error (.schema ledgerFailure) ∧ document = written.resolve ∧
      written.table = some table ∧ (name, source) ∈ table ∧
      tableSegments name reported
        = ["components", "schemas", "a/b~", "properties", "r", "items"] ∧
      Offense name (resolveEntry table name source) reported place offender .unsupportedItems ∧
      (PointsAt (Json.parse ledgerText).root table name source place offender ↔
        written.schemas = some table ∧ InPlace source place ∧
          Json.Legible (tableSegments name place) (Json.parse ledgerText).root) ∧
      ((Json.parse ledgerText).root.at? ledgerFailure.path).isSome := by
  have compiled : compileText ledgerText .json {} = .error (.compile (.schema ledgerFailure)) := by
    decide +kernel
  obtain ⟨document, loaded, failed⟩ := compileText_eq_compile_error_iff.mp compiled
  obtain ⟨written, table, name, source, reported, place, offender, _, same, listed, member, path,
    offense, points⟩ := failure_path_points_at_offender loaded failed
  have segments : tableSegments name reported
      = ["components", "schemas", "a/b~", "properties", "r", "items"] := by
    apply Option.some.inj
    rw [← path]
    decide +kernel
  exact ⟨document, written, table, name, source, reported, place, offender, loaded, failed, same,
    listed, member, segments, offense, points, by decide +kernel⟩

def definitionsText : String :=
  "\x7b\"definitions\":\x7b\"A\":\x7b\"type\":\"object\",\"properties\":\x7b\"p\":" ++
  "\x7b\x7d\x7d\x7d\x7d\x7d"

def aliasText : String :=
  "\x7b\"components\":\x7b\"schemas\":\x7b\"B\":\x7b\"$ref\":\"#/components/schemas/A\"\x7d," ++
  "\"A\":\x7b\"type\":\"object\",\"properties\":\x7b\"p\":\x7b\x7d\x7d\x7d\x7d\x7d\x7d"

def listText : String :=
  "\x7b\"components\":\x7b\"schemas\":\x7b\"A\":\x7b\"type\":\"object\",\"properties\":" ++
  "\x7b\"p\":\x7b\"$ref\":\"#/components/schemas/L\"\x7d\x7d\x7d," ++
  "\"L\":\x7b\"type\":\"array\",\"items\":\x7b\x7d\x7d\x7d\x7d\x7d"

/-- Failures whose paths lead nowhere in their texts: the table stands under `definitions`, the
entry refers to another one, or the items belong to an array that a property refers to. -/
theorem failure_paths_astray :
    (compileText definitionsText .json {}
        = .error (.compile (.schema ⟨"/components/schemas/A/properties/p", .typeRequired⟩)) ∧
      ((Json.parse definitionsText).root.at? "/components/schemas/A/properties/p").isNone ∧
      ((Json.parse definitionsText).root.at? "/definitions/A/properties/p").isSome) ∧
    (compileText aliasText .json {}
        = .error (.compile (.schema ⟨"/components/schemas/B/properties/p", .typeRequired⟩)) ∧
      ((Json.parse aliasText).root.at? "/components/schemas/B/properties/p").isNone ∧
      ((Json.parse aliasText).root.at? "/components/schemas/A/properties/p").isSome) ∧
    (compileText listText .json {}
        = .error (.compile (.schema
          ⟨"/components/schemas/A/properties/p/items", .unsupportedItems⟩)) ∧
      ((Json.parse listText).root.at? "/components/schemas/A/properties/p/items").isNone ∧
      ((Json.parse listText).root.at? "/components/schemas/L/items").isSome) := by
  decide +kernel

end SchemaDecls
