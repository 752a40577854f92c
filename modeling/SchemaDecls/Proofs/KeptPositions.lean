import SchemaDecls.Proofs.Chain
import SchemaDecls.Proofs.Positions

/-!
Outside references, resolving a document loses nothing and adds nothing. The two tables have the
same names in the same order, an entry without a reference has the same positions before and after,
down to the first reference on every way, and at each of them the same keywords stand.
-/
namespace SchemaDecls

/-- What becomes of the `type` keyword. A list of one name is read as the name; of any other list
comes a type that is none of the known ones. -/
inductive TypeKept : Option TypeKeyword → Option SchemaType → Prop where
  | absent : TypeKept none none
  | one (name : String) : TypeKept (some (.one name)) (some (SchemaType.ofName name))
  | single (name : String) : TypeKept (some (.several [name])) (some (SchemaType.ofName name))
  | several {names : List String} {text : String} (more : names.length ≠ 1)
      (unknown : SchemaType.ofName text = .other text) :
      TypeKept (some (.several names)) (some (.other text))

structure KeywordsKept (source : WrittenSchema) (schema : Schema) : Prop where
  type : TypeKept source.type? schema.type?
  title : schema.title = source.title
  required : schema.required = source.required
  properties : schema.properties.map (List.map Prod.fst) = source.properties.map (List.map Prod.fst)
  items : schema.items.isSome = source.items.isSome
  reference : schema.reference = none

/-- A schema stands for a locator: it has the exact text, and no properties or required keys. -/
structure LocatorKept (locator : String) (schema : Schema) : Prop where
  reference : schema.reference.map Reference.locator = some (some locator)
  properties : schema.properties = none
  required : schema.required = none

/-- What a position holds after references are resolved, by what is written there. -/
def Kept (source : WrittenSchema) (schema : Schema) : Prop :=
  match source.reference with
  | none => KeywordsKept source schema
  | some locator => LocatorKept locator schema

/-- The positions of a written schema down to the first reference on every way are those of the
schema, and each keeps what it holds. -/
structure PositionsKept (source : WrittenSchema) (schema : Schema) : Prop where
  nothingLost : ∀ steps written, source.At steps written →
    ∃ inner, schema.At steps inner ∧ Kept written inner
  nothingAdded : ∀ steps inner, schema.At steps inner → InPlace source steps →
    ∃ written, source.At steps written ∧ Kept written inner

/-- The text that names of a list are joined to is no known type, for it is empty or has a bar. -/
theorem ofName_intercalate (names : List String) (more : names.length ≠ 1) :
    SchemaType.ofName (String.intercalate "|" names) = .other (String.intercalate "|" names) := by
  have marked : String.intercalate "|" names = "" ∨
      '|' ∈ (String.intercalate "|" names).toList := by
    match names with
    | [] => exact .inl rfl
    | [_] => exact absurd rfl more
    | first :: second :: rest =>
      right
      rw [String.intercalate_cons_cons]
      simp
  generalize String.intercalate "|" names = text at marked
  have unmarked : ∀ name ∈ ["object", "array", "string", "number", "integer", "boolean", "null"],
      ¬ (name = "" ∨ '|' ∈ name.toList) := by decide
  have unknown : ∀ name ∈ ["object", "array", "string", "number", "integer", "boolean", "null"],
      text ≠ name := by
    rintro name known rfl
    exact unmarked text known marked
  simp only [List.forall_mem_cons] at unknown
  simp [SchemaType.ofName, unknown]

theorem typeKept (keyword : Option TypeKeyword) :
    TypeKept keyword (keyword.map TypeKeyword.schemaType) := by
  match keyword with
  | none => exact .absent
  | some (.one name) => exact .one name
  | some (.several [name]) => exact .single name
  | some (.several []) => exact .several (by decide) (ofName_intercalate [] (by decide))
  | some (.several (first :: second :: rest)) =>
    have more : (first :: second :: rest).length ≠ 1 := by simp
    exact .several more (ofName_intercalate _ more)

section Resolved
variable {table : Members WrittenSchema} {source : WrittenSchema}

theorem keywordsKept (plain : source.reference = none) :
    KeywordsKept source (source.resolve table) := by
  rw [WrittenSchema.resolve, WrittenSchema.resolveWith_plain _ plain]
  constructor
  case type => exact typeKept source.type?
  case properties =>
    rw [Option.map_map]
    congr 1
    funext entries
    simp
  case items => exact Option.isSome_map
  all_goals rfl

/-- Whichever way the chain of a locator ends, the locator alone decides the reference. -/
theorem locatorKept (visiting : List String) (locator : String) :
    LocatorKept locator (resolveReference table visiting locator) := by
  obtain ⟨names, ending, leads⟩ := leads_total table visiting locator
  rw [resolveReference_of_leads leads]
  cases ending <;> exact ⟨rfl, rfl, rfl⟩

theorem kept (source : WrittenSchema) : Kept source (source.resolve table) := by
  unfold Kept
  split
  · next plain => exact keywordsKept plain
  · next locator refers =>
    rw [WrittenSchema.resolve, WrittenSchema.resolveWith_reference _ refers]
    exact locatorKept [] locator

/-- Resolving leads along the same steps as long as no reference is passed. -/
theorem resolve_at {steps : List Step} {inner : WrittenSchema} (stands : source.At steps inner) :
    (source.resolve table).At steps (inner.resolve table) := by
  induction stands with
  | here => exact .here
  | @property written property _ key _ plain member _ ih =>
    refine .property ?_ ih
    rw [WrittenSchema.resolve, WrittenSchema.resolveWith_plain _ plain]
    cases listed : written.properties with
    | none => simp [listed] at member
    | some entries =>
      rw [listed] at member
      exact List.mem_map_of_mem (f := fun entry : String × WrittenSchema =>
        (entry.1, entry.2.resolve table)) member
  | items plain declared _ ih =>
    refine .items ?_ ih
    rw [WrittenSchema.resolve, WrittenSchema.resolveWith_plain _ plain, declared]
    rfl

theorem positionsKept (source : WrittenSchema) :
    PositionsKept source (source.resolve table) where
  nothingLost _ written stands := ⟨_, resolve_at stands, kept written⟩
  nothingAdded _ _ stands inPlace := by
    obtain ⟨written, there, rfl⟩ := written_of_inPlace stands inPlace
    exact ⟨written, there, kept written⟩

end Resolved

/-- Resolving the references of a document keeps its title, the names of its table and their order,
and, in every entry that is no reference itself, all that is written outside references. The table
is that of the components where there is one, else that of the definitions. -/
theorem resolve_keeps_positions (written : WrittenDocument) :
    written.resolve.title = written.title ∧
    (written.resolve.schemas = none ↔ written.schemas = none ∧ written.definitions = none) ∧
    ∀ table, (written.schemas = some table ∨
        written.schemas = none ∧ written.definitions = some table) →
      ∃ schemas, written.resolve.schemas = some schemas ∧
        schemas.map Prod.fst = table.map Prod.fst ∧
        List.Forall₂ (fun entry resolved => entry.2.reference = none →
          PositionsKept entry.2 resolved.2) table schemas := by
  have resolved : written.resolve.schemas = written.table.map fun table =>
    table.map fun entry => (entry.1, resolveEntry table entry.1 entry.2) := rfl
  refine ⟨rfl, ?_, ?_⟩
  · rw [resolved, Option.map_eq_none_iff, WrittenDocument.table]
    cases written.schemas <;> simp
  · intro table chosen
    have present : written.table = some table := by
      rcases chosen with first | ⟨absent, second⟩
      · simp [WrittenDocument.table, first]
      · simp [WrittenDocument.table, absent, second]
    refine ⟨_, by rw [resolved, present, Option.map_some], by simp, ?_⟩
    rw [List.forall₂_map_right_iff, List.forall₂_same]
    rintro ⟨name, source⟩ _ plain
    rw [resolveEntry_endsAt (.here plain)]
    exact positionsKept source

end SchemaDecls
