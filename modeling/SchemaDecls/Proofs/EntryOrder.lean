import SchemaDecls.Proofs.Alias
import SchemaDecls.Proofs.DocumentRuns

/-!
The order of the entries of a table. References see a table through its look-up only, so entries in
another order resolve to the same schemas, whether a reference points forward, backward or back to
where it stands. The order decides in which order the blocks of units come, and nothing else.
-/
namespace SchemaDecls

/-- Where keys are distinct, a look-up does not depend on the order of the entries. -/
theorem find?_perm {Value : Type} {table reordered : Members Value} (order : table.Perm reordered)
    (distinct : table.keys.Nodup) (key : String) :
    Members.find? reordered key = Members.find? table key := by
  have distinctToo : reordered.keys.Nodup := (order.map Prod.fst).nodup_iff.mp distinct
  cases found : Members.find? table key with
  | some value =>
    have member := order.subset (Members.mem_of_find? found)
    exact Members.find?_of_mem distinctToo member
  | none =>
    cases foundToo : Members.find? reordered key with
    | none => rfl
    | some value =>
      have member := order.symm.subset (Members.mem_of_find? foundToo)
      have present := Members.find?_of_mem distinct member
      rw [present] at found
      cases found

section SameTargets
variable {table other : Members WrittenSchema}

/-- Two tables in which every locator addresses the same entry. -/
def SameTargets (table other : Members WrittenSchema) : Prop :=
  ∀ locator, target? other locator = target? table locator

theorem sameTargets_of_perm {table reordered : Members WrittenSchema}
    (order : table.Perm reordered) (distinct : table.keys.Nodup) : SameTargets table reordered := by
  intro locator
  unfold target?
  split
  · congr 1
    funext name
    rw [find?_perm order distinct name]
  · rfl

theorem alikeTargets_of_sameTargets (same : SameTargets table other) :
    AlikeTargets table other := by
  intro locator
  rw [same locator]
  cases target? table locator with
  | none => exact .none
  | some pair => exact .some ⟨rfl, rfl, rfl, rfl, rfl⟩

theorem resolve_sameTargets (same : SameTargets table other) (written : WrittenSchema) :
    written.resolve other = written.resolve table :=
  resolve_alike (alikeTargets_of_sameTargets same) written

theorem endsAt_sameTargets (same : SameTargets table other) {visiting : List String}
    {written last : WrittenSchema} (chain : EndsAt table visiting written last) :
    EndsAt other visiting written last := by
  induction chain with
  | here plain => exact .here plain
  | next refers found fresh _ ih => exact .next refers ((same _).trans found) fresh ih

theorem resolveEntry_sameTargets (same : SameTargets table other) (name : String)
    (source : WrittenSchema) : resolveEntry other name source = resolveEntry table name source := by
  have back : SameTargets other table := fun locator => (same locator).symm
  by_cases ends : ∃ last, EndsAt table [name] source last
  · obtain ⟨last, chain⟩ := ends
    rw [resolveEntry_endsAt chain, resolveEntry_endsAt (endsAt_sameTargets same chain),
      resolve_sameTargets same]
  · have stuck : ∀ last, ¬ EndsAt table [name] source last := fun last chain => ends ⟨last, chain⟩
    have stuckToo : ∀ last, ¬ EndsAt other [name] source last :=
      fun last chain => stuck last (endsAt_sameTargets back chain)
    rw [resolveEntry_stuck stuck, resolveEntry_stuck stuckToo, resolve_sameTargets same]

end SameTargets

/-- A table gives declarations exactly when each of its entries does, block after block. -/
theorem tableDeclarations_eq_ok_iff (entries : List (String × Schema))
    (declarations : List Declaration) :
    Document.tableDeclarations entries = .ok declarations ↔
      (∀ entry ∈ entries, visitDeclarations (rootVisit? entry.1 entry.2) = .ok (blockOf entry)) ∧
        declarations = entries.flatMap blockOf := by
  constructor
  · intro run
    obtain ⟨collected, each⟩ := tableDeclarations_blocks run
    exact ⟨each, collected⟩
  · rintro ⟨each, rfl⟩
    induction entries with
    | nil => rfl
    | cons entry rest ih =>
      obtain ⟨first, later⟩ := List.forall_mem_cons.mp each
      rw [tableDeclarations_cons, first, ih later]
      rfl

theorem compileSchema_of_block {name : String} {schema : Schema}
    (run : visitDeclarations (rootVisit? name schema) = .ok (blockOf (name, schema)))
    (root : (rootVisit? name schema).isSome) (moduleName : String) (settings : Settings) :
    compileSchema name schema moduleName settings
      = .ok (unitsOf moduleName settings.language (blockOf (name, schema))) := by
  have object : schema.type? = some .object ∧ schema.reference = none := by
    unfold rootVisit? at root
    split at root
    · assumption
    · cases root
  have inTable := schemaDeclarations_inTable name schema
  simp only [rootVisit?, if_pos object, visitDeclarations] at run
  rw [schemaDeclarations, if_pos object.1, run] at inTable
  rw [compileSchema_eq]
  cases alone : schemaDeclarations name (Pointer.push "" name) schema with
  | error failure =>
    rw [alone] at inTable
    cases inTable
  | ok declarations =>
    rw [alone] at inTable
    rw [Except.ok.inj inTable]
    rfl

/-- The units that each entry of a table gives: those of an entry that stands for an object are
what it compiles to on its own, and any other entry gives none. -/
def UnitBlocks (table : Members WrittenSchema) (moduleName : String) (settings : Settings)
    (block : String × WrittenSchema → List SourceUnit) : Prop :=
  ∀ entry ∈ table,
    (EndsAtObjectEntry table entry →
      compileSchema entry.1 (resolveEntry table entry.1 entry.2) moduleName settings
        = .ok (block entry)) ∧
    (¬ EndsAtObjectEntry table entry → block entry = [])

section Blocks
variable {written : WrittenDocument} {table : Members WrittenSchema}

/-- The declarations of an entry as it is resolved in its table. -/
def entryBlock (table : Members WrittenSchema) (entry : String × WrittenSchema) :
    List Declaration :=
  blockOf (entry.1, resolveEntry table entry.1 entry.2)

def EntryCompiles (table : Members WrittenSchema) (entry : String × WrittenSchema) : Prop :=
  visitDeclarations (rootVisit? entry.1 (resolveEntry table entry.1 entry.2))
    = .ok (entryBlock table entry)

theorem resolve_compile_eq_ok_iff (listed : written.table = some table) (settings : Settings)
    (units : List SourceUnit) :
    written.resolve.compile settings = .ok units ↔
      (∀ entry ∈ table, EntryCompiles table entry) ∧
        units = table.flatMap fun entry =>
          unitsOf (written.resolve.moduleName settings) settings.language
            (entryBlock table entry) := by
  have present : written.resolve.schemas
      = some (table.map fun entry => (entry.1, resolveEntry table entry.1 entry.2)) := by
    rw [WrittenDocument.resolve, listed]
    rfl
  have joined : unitsOf (written.resolve.moduleName settings) settings.language
        (table.flatMap (entryBlock table))
      = table.flatMap fun entry => unitsOf (written.resolve.moduleName settings) settings.language
          (entryBlock table entry) := by
    simp only [unitsOf, List.map_flatMap]
  rw [compile_eq_ok_iff, present, ← joined]
  simp only [Option.some.injEq, exists_and_left, exists_eq_left', tableDeclarations_eq_ok_iff,
    List.forall_mem_map, List.flatMap_map]
  constructor
  · rintro ⟨declarations, ⟨each, rfl⟩, rfl⟩
    exact ⟨each, rfl⟩
  · rintro ⟨each, rfl⟩
    exact ⟨_, ⟨each, rfl⟩, rfl⟩

theorem unitBlocks_of_compiling (each : ∀ entry ∈ table, EntryCompiles table entry)
    (moduleName : String) (settings : Settings) :
    UnitBlocks table moduleName settings fun entry =>
      unitsOf moduleName settings.language (entryBlock table entry) := by
  intro entry member
  have run : EntryCompiles table entry := each entry member
  constructor
  · intro ends
    have root := (rootVisit?_isSome_iff table entry).mpr ends
    exact compileSchema_of_block run root moduleName settings
  · intro unended
    have none : entryBlock table entry = [] := by
      by_contra declares
      have root := (@blockOf_ne_nil_iff (entry.1, _) run).mp declares
      exact unended ((rootVisit?_isSome_iff table entry).mp root)
    simp only [none, unitsOf, List.map_nil]

end Blocks

/-- A document whose entries stand in another order resolves every entry to the same schema. It
compiles exactly when the document does, and then each entry gives the same block of units; the
blocks come in the order of the entries. -/
theorem reordered_document_reorders_blocks {written other : WrittenDocument}
    {table reordered : Members WrittenSchema} (listed : written.table = some table)
    (relisted : other.table = some reordered) (titled : other.title = written.title)
    (distinct : table.keys.Nodup) (order : table.Perm reordered) (settings : Settings) :
    (∀ name source, resolveEntry reordered name source = resolveEntry table name source) ∧
    (∀ name, Members.find? (other.resolve.schemas.getD []) name
      = Members.find? (written.resolve.schemas.getD []) name) ∧
    ((∃ units, other.resolve.compile settings = .ok units) ↔
      ∃ units, written.resolve.compile settings = .ok units) ∧
    ∀ units, written.resolve.compile settings = .ok units →
      ∃ block, UnitBlocks table (written.resolve.moduleName settings) settings block ∧
        units = table.flatMap block ∧
        other.resolve.compile settings = .ok (reordered.flatMap block) := by
  have same := sameTargets_of_perm order distinct
  have entries : ∀ name source, resolveEntry reordered name source
      = resolveEntry table name source := resolveEntry_sameTargets same
  have blocks : entryBlock reordered = entryBlock table := by
    funext entry
    rw [entryBlock, entryBlock, entries]
  have named : other.resolve.moduleName settings = written.resolve.moduleName settings := by
    simp only [Document.moduleName, WrittenDocument.resolve, titled]
  have compiling : (∀ entry ∈ reordered, EntryCompiles reordered entry) ↔
      ∀ entry ∈ table, EntryCompiles table entry := by
    simp only [EntryCompiles, entries, blocks, order.mem_iff]
  refine ⟨entries, ?_, ?_, ?_⟩
  · intro name
    let resolved := table.map fun entry => (entry.1, resolveEntry table entry.1 entry.2)
    have keys : Members.keys resolved = table.keys := by
      simp only [resolved, Members.keys, List.map_map]
      rfl
    have resolvedOrder := order.map fun entry => (entry.1, resolveEntry table entry.1 entry.2)
    simp only [WrittenDocument.resolve, listed, relisted, Option.map_some, Option.getD_some,
      entries]
    exact find?_perm resolvedOrder (keys ▸ distinct) name
  · simp only [resolve_compile_eq_ok_iff listed, resolve_compile_eq_ok_iff relisted, compiling,
      exists_and_left, exists_eq, and_true]
  · intro units compiled
    obtain ⟨each, made⟩ := (resolve_compile_eq_ok_iff listed settings units).mp compiled
    refine ⟨_, unitBlocks_of_compiling each _ settings, made, ?_⟩
    refine (resolve_compile_eq_ok_iff relisted settings _).mpr ⟨compiling.mpr each, ?_⟩
    rw [named, blocks]

namespace Ledgers

def account : WrittenSchema :=
  { WrittenSchema.ofType "object" with
    properties := some [
      ("parent", .ofReference "#/components/schemas/account"),
      ("entries", { WrittenSchema.ofType "array" with
        items := some (.ofReference "#/components/schemas/entry") }),
      ("holder", { WrittenSchema.ofType "object" with
        properties := some [("vault", .ofReference "#/components/schemas/vault")] })] }

def entry : WrittenSchema :=
  { WrittenSchema.ofType "object" with
    properties := some [("account", .ofReference "#/definitions/vault")] }

def vault : WrittenSchema := .ofReference "#/components/schemas/account"

def left : WrittenSchema := .ofReference "#/components/schemas/right"

def right : WrittenSchema := .ofReference "#/components/schemas/left"

/-- References forward, backward and to the entry they stand in, an alias and a cycle. -/
def table : Members WrittenSchema :=
  [("account", account), ("entry", entry), ("vault", vault), ("left", left), ("right", right)]

def written (table : Members WrittenSchema) : WrittenDocument :=
  { WrittenDocument.empty with title := some "books", schemas := some table }

end Ledgers

open Ledgers in
theorem reordered_document_reorders_blocks_ledgers :
    (∀ name source, resolveEntry table.reverse name source = resolveEntry table name source) ∧
    ∃ units others block,
      (written table).resolve.compile {} = .ok units ∧
      (written table.reverse).resolve.compile {} = .ok others ∧
      units.map SourceUnit.name = ["Holder", "Account", "Entry", "Holder", "Vault"] ∧
      others.map SourceUnit.name = ["Holder", "Vault", "Entry", "Holder", "Account"] ∧
      UnitBlocks table "books" {} block ∧
      units = table.flatMap block ∧ others = table.reverse.flatMap block := by
  obtain ⟨entries, _, _, blocks⟩ := @reordered_document_reorders_blocks (written table)
    (written table.reverse) table table.reverse rfl rfl rfl (by decide)
    (List.reverse_perm table).symm {}
  have named : ((written table).resolve.compile {}).map (·.map SourceUnit.name)
      = .ok ["Holder", "Account", "Entry", "Holder", "Vault"] := by decide +kernel
  have renamed : ((written table.reverse).resolve.compile {}).map (·.map SourceUnit.name)
      = .ok ["Holder", "Vault", "Entry", "Holder", "Account"] := by decide +kernel
  have title : (written table).resolve.moduleName {} = "books" := by decide +kernel
  refine ⟨entries, ?_⟩
  cases compiled : (written table).resolve.compile {} with
  | error failure => simp [compiled, Except.map] at named
  | ok units =>
    obtain ⟨block, each, made, reorders⟩ := blocks units compiled
    rw [compiled] at named
    rw [reorders] at renamed
    exact ⟨units, _, block, rfl, reorders, Except.ok.inj named, Except.ok.inj renamed,
      title ▸ each, made, rfl⟩

end SchemaDecls
