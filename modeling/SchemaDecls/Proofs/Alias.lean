import SchemaDecls.Proofs.Chain
import SchemaDecls.Proofs.Outcome
import SchemaDecls.Proofs.Relocation

/-!
Entries that refer to other entries. An entry stands for the entry at the end of its chain: it
resolves to the same schema, properties included, and declares the same types, with its own type
under its own name. An entry whose chain has no such end stays a reference and declares nothing.
-/
namespace SchemaDecls

/-- The end of the chain of an entry. An entry without a reference is its own end. -/
inductive EntryEnd (table : Members WrittenSchema) (name : String) (written : WrittenSchema) :
    ChainEnd → Prop where
  | own (plain : written.reference = none) : EntryEnd table name written (.entry name written)
  | referred {locator : String} {names : List String} {ending : ChainEnd}
      (refers : written.reference = some locator)
      (leads : Leads table [name] locator names ending) : EntryEnd table name written ending

section Chains
variable {table : Members WrittenSchema} {visiting : List String} {written : WrittenSchema}
  {locator : String}

theorem endsAt_of_leads {names : List String} {name : String} {last : WrittenSchema}
    (refers : written.reference = some locator)
    (leads : Leads table visiting locator names (.entry name last)) :
    EndsAt table visiting written last := by
  generalize ended : ChainEnd.entry name last = ending at leads
  induction leads generalizing written with
  | outside _ => cases ended
  | cycle _ _ => cases ended
  | entry found fresh plain =>
    cases ended
    exact .next refers found fresh (.here plain)
  | step found fresh continues _ ih => exact .next refers found fresh (ih continues ended)

theorem leads_of_endsAt {last : WrittenSchema} (refers : written.reference = some locator)
    (chain : EndsAt table visiting written last) :
    ∃ names name, Leads table visiting locator names (.entry name last) := by
  induction chain generalizing locator with
  | here plain => simp [plain] at refers
  | @next visiting written target last onward name again found fresh tail ih =>
    cases refers.symm.trans again
    cases continues : target.reference with
    | none =>
      cases tail with
      | here _ => exact ⟨[name], name, .entry found fresh continues⟩
      | next more _ _ _ => simp [continues] at more
    | some next =>
      obtain ⟨names, final, leads⟩ := ih continues
      exact ⟨name :: names, final, .step found fresh continues leads⟩

end Chains

section Entries
variable {table : Members WrittenSchema} {name : String} {source : WrittenSchema}

theorem entryEnd_total (table : Members WrittenSchema) (name : String) (source : WrittenSchema) :
    ∃ ending, EntryEnd table name source ending := by
  cases refers : source.reference with
  | none => exact ⟨_, .own refers⟩
  | some locator =>
    obtain ⟨names, ending, leads⟩ := leads_total table [name] locator
    exact ⟨ending, .referred refers leads⟩

theorem entryEnd_unique {one other : ChainEnd} (first : EntryEnd table name source one)
    (second : EntryEnd table name source other) : other = one := by
  cases first with
  | own plain =>
    cases second with
    | own _ => rfl
    | referred refers _ => simp [plain] at refers
  | referred refers leads =>
    cases second with
    | own plain => simp [plain] at refers
    | referred again more =>
      cases refers.symm.trans again
      exact (leads_unique leads more).2

theorem entryEnd_entry {last : String} {target : WrittenSchema} (member : (name, source) ∈ table)
    (ends : EntryEnd table name source (.entry last target)) :
    (last, target) ∈ table ∧ target.reference = none := by
  cases ends with
  | own plain => exact ⟨member, plain⟩
  | referred _ leads => exact leads_entry leads

theorem endsAt_of_entryEnd {last : String} {target : WrittenSchema}
    (ends : EntryEnd table name source (.entry last target)) :
    EndsAt table [name] source target := by
  cases ends with
  | own plain => exact .here plain
  | referred refers leads => exact endsAt_of_leads refers leads

/-- An entry resolves to what the entry at the end of its chain resolves to. -/
theorem resolveEntry_eq_end {last : String} {target : WrittenSchema}
    (ends : EntryEnd table name source (.entry last target)) :
    resolveEntry table name source = resolveEntry table last target := by
  have chain := endsAt_of_entryEnd ends
  rw [resolveEntry_endsAt chain, resolveEntry_endsAt (.here (endsAt_plain chain))]

theorem resolveEntry_end {last : String} {target : WrittenSchema}
    (ends : EntryEnd table name source (.entry last target)) :
    (resolveEntry table name source).type? = target.schemaType ∧
      (resolveEntry table name source).reference = none := by
  have chain := endsAt_of_entryEnd ends
  rw [resolveEntry_endsAt chain, WrittenSchema.resolve,
    WrittenSchema.resolveWith_plain _ (endsAt_plain chain)]
  exact ⟨rfl, rfl⟩

/-- An entry whose chain does not end at an entry resolves like any other reference. -/
theorem resolveEntry_of_unended {ending : ChainEnd} (ends : EntryEnd table name source ending)
    (unended : ∀ last target, ending ≠ .entry last target) :
    resolveEntry table name source = source.resolve table := by
  apply resolveEntry_stuck
  intro last chain
  cases ends with
  | own plain => exact unended name source rfl
  | referred refers leads =>
    obtain ⟨_, final, again⟩ := leads_of_endsAt refers chain
    exact unended final last (leads_unique again leads).2

/-- An entry whose chain does not end at an entry keeps its own reference. -/
theorem resolveEntry_unended {ending : ChainEnd} (ends : EntryEnd table name source ending)
    (unended : ∀ last target, ending ≠ .entry last target) :
    ∃ locator, source.reference = some locator ∧
      (resolveEntry table name source).reference = some (referenceOf locator) ∧
      (resolveEntry table name source).properties = none := by
  rw [resolveEntry_of_unended ends unended]
  cases ends with
  | own plain => exact absurd rfl (unended name source)
  | @referred locator _ _ refers leads =>
    obtain ⟨names, final, resolved⟩ := leads_total table [] locator
    rw [WrittenSchema.resolve, WrittenSchema.resolveWith_reference _ refers,
      resolveReference_of_leads resolved]
    refine ⟨locator, refers, ?_⟩
    cases final <;> exact ⟨rfl, rfl⟩

/-- An entry whose chain ends at an object. -/
def EndsAtObjectEntry (table : Members WrittenSchema) (entry : String × WrittenSchema) : Prop :=
  ∃ last target, EntryEnd table entry.1 entry.2 (.entry last target) ∧
    target.schemaType = some .object

theorem rootVisit?_isSome_iff (table : Members WrittenSchema) (entry : String × WrittenSchema) :
    (rootVisit? entry.1 (resolveEntry table entry.1 entry.2)).isSome ↔
      EndsAtObjectEntry table entry := by
  obtain ⟨name, source⟩ := entry
  obtain ⟨ending, ends⟩ := entryEnd_total table name source
  have unreferenced : (rootVisit? name (resolveEntry table name source)).isSome ↔
      (resolveEntry table name source).type? = some .object ∧
        (resolveEntry table name source).reference = none := by
    unfold rootVisit?
    split <;> simp_all
  rw [unreferenced]
  constructor
  · rintro ⟨object, inPlace⟩
    cases ending with
    | entry last target => exact ⟨last, target, ends, (resolveEntry_end ends).1 ▸ object⟩
    | outside | cycle =>
      obtain ⟨_, _, kept, _⟩ := resolveEntry_unended ends (by simp)
      simp [kept] at inPlace
  · rintro ⟨last, target, ends, object⟩
    obtain ⟨type, inPlace⟩ := resolveEntry_end ends
    exact ⟨type.trans object, inPlace⟩

end Entries

section Compiling

theorem usable_of_objectDeclarations {name path : String} {object : Schema}
    {declarations : List Declaration}
    (compiled : objectDeclarations name path object = .ok declarations) :
    Name.pascal name ≠ "" ∧ declarations ≠ [] := by
  rw [objectDeclarations_eq ⟨name, path, object⟩] at compiled
  split at compiled
  · cases compiled
  · next usable =>
    refine ⟨by simpa using usable, ?_⟩
    rintro rfl
    cases run : propertyDeclarations (object.required.getD []) path (object.properties.getD []) <;>
      simp [Visit.properties, run, Except.map] at compiled

theorem schemaDeclarations_renamed {name path : String} {schema : Schema}
    {declarations : List Declaration}
    (compiled : schemaDeclarations name path schema = .ok declarations)
    {other : String} (usable : Name.pascal other ≠ "") (elsewhere : String) :
    schemaDeclarations other elsewhere schema = .ok (ownRenamed other declarations) := by
  unfold schemaDeclarations at compiled ⊢
  split at compiled
  · next object =>
    rw [if_pos object]
    exact objectDeclarations_renamed compiled usable elsewhere
  · next notObject =>
    rw [if_neg notObject]
    cases compiled
    rfl

theorem schemaDeclarations_nameless {name : String} {schema : Schema}
    (object : schema.type? = some .object) (nameless : Name.pascal name = "") (path : String) :
    schemaDeclarations name path schema = .error ⟨path, .emptyIdentifier name⟩ := by
  rw [schemaDeclarations, if_pos object, objectDeclarations_eq ⟨name, path, schema⟩]
  simp [nameless]

/-- The declarations that an entry adds to its document. -/
def blockOf (entry : String × Schema) : List Declaration :=
  (visitDeclarations (rootVisit? entry.1 entry.2)).toOption.getD []

/-- A table that compiles gives the declarations of its entries, block after block. -/
theorem tableDeclarations_blocks {entries : List (String × Schema)}
    {declarations : List Declaration} (run : Document.tableDeclarations entries = .ok declarations) :
    declarations = entries.flatMap blockOf ∧
      ∀ entry ∈ entries, visitDeclarations (rootVisit? entry.1 entry.2) = .ok (blockOf entry) := by
  induction entries generalizing declarations with
  | nil =>
    cases run
    simp
  | cons entry rest ih =>
    obtain ⟨name, schema⟩ := entry
    rw [tableDeclarations_cons] at run
    obtain ⟨block, first, joined⟩ := bind_eq_ok_iff.mp run
    obtain ⟨later, others, same⟩ := bind_eq_ok_iff.mp joined
    cases same
    have made : blockOf (name, schema) = block := by simp [blockOf, first, Except.toOption]
    obtain ⟨collected, each⟩ := ih others
    refine ⟨by rw [List.flatMap_cons, made, collected], ?_⟩
    simpa [made, first] using each

/-- An entry that starts a block has a usable name and at least its own declaration. -/
theorem blockOf_ne_nil_iff {entry : String × Schema}
    (run : visitDeclarations (rootVisit? entry.1 entry.2) = .ok (blockOf entry)) :
    blockOf entry ≠ [] ↔ (rootVisit? entry.1 entry.2).isSome := by
  cases root : rootVisit? entry.1 entry.2 with
  | none => simp [blockOf, root, visitDeclarations, Except.toOption]
  | some visit =>
    rw [root] at run
    simpa using (usable_of_objectDeclarations run).2

theorem blockOf_renamed {name last : String} {schema : Schema}
    (run : visitDeclarations (rootVisit? name schema) = .ok (blockOf (name, schema)))
    (runLast : visitDeclarations (rootVisit? last schema) = .ok (blockOf (last, schema))) :
    blockOf (name, schema) = ownRenamed name (blockOf (last, schema)) := by
  by_cases root : schema.type? = some .object ∧ schema.reference = none
  · simp only [rootVisit?, if_pos root, visitDeclarations] at run runLast
    have renamed := objectDeclarations_renamed runLast (usable_of_objectDeclarations run).1
      (Pointer.push "/components/schemas" name)
    exact Except.ok.inj (run.symm.trans renamed)
  · simp [blockOf, rootVisit?, root, visitDeclarations, Except.toOption, ownRenamed]

end Compiling

/-- The entry `name` stands for the entry `last`, which has no reference: it resolves to the same
schema, and wherever that compiles under the name `last` it compiles under `name`, to the same
declarations with its own renamed. The one exception is an object under a name without letters and
digits, which declares nothing. -/
structure StandsFor (table : Members WrittenSchema) (name : String) (source : WrittenSchema)
    (last : String) (target : WrittenSchema) : Prop where
  listed : (last, target) ∈ table
  plain : target.reference = none
  resolved : resolveEntry table name source = resolveEntry table last target
  inPlace : (resolveEntry table name source).reference = none
  compiled : Name.pascal name ≠ "" → ∀ moduleName settings units,
    compileSchema last (resolveEntry table last target) moduleName settings = .ok units →
    ∃ declarations,
      schemaDeclarations last (Pointer.push "" last) (resolveEntry table last target)
        = .ok declarations ∧
      units = unitsOf moduleName settings.language declarations ∧
      compileSchema name (resolveEntry table name source) moduleName settings
        = .ok (unitsOf moduleName settings.language (ownRenamed name declarations))
  nameless : Name.pascal name = "" → target.schemaType = some .object → ∀ moduleName settings,
    compileSchema name (resolveEntry table name source) moduleName settings
      = .error (.schema ⟨Pointer.push "" name, .emptyIdentifier name⟩)

theorem standsFor_end {table : Members WrittenSchema} {name last : String}
    {source target : WrittenSchema} (member : (name, source) ∈ table)
    (ends : EntryEnd table name source (.entry last target)) :
    StandsFor table name source last target := by
  obtain ⟨listed, plain⟩ := entryEnd_entry member ends
  obtain ⟨type, inPlace⟩ := resolveEntry_end ends
  have resolved := resolveEntry_eq_end ends
  refine ⟨listed, plain, resolved, inPlace, ?_, ?_⟩
  · intro usable moduleName settings units compiled
    rw [compileSchema_eq, rendered_eq_ok_iff] at compiled
    obtain ⟨declarations, run, made⟩ := compiled
    rw [compileSchema_eq, resolved, schemaDeclarations_renamed run usable]
    exact ⟨declarations, run, made.symm, rfl⟩
  · intro nameless object moduleName settings
    rw [compileSchema_eq, schemaDeclarations_nameless (type.trans object) nameless]
    rfl

/-- Every entry stands for the one end of its chain, or stays a reference without properties where
the chain has no such end. A document walks exactly the entries that stand for objects; when it
compiles, its units come in one block for each entry, empty unless the entry stands for an object,
and the block of an entry is that of the entry it stands for with the last declaration renamed. -/
theorem entries_stand_for_their_ends {written : WrittenDocument} {table : Members WrittenSchema}
    (listed : written.table = some table) (settings : Settings) :
    (∀ name source, (name, source) ∈ table → ∃ ending,
      (∀ other, EntryEnd table name source other ↔ other = ending) ∧
      match ending with
      | .entry last target => StandsFor table name source last target
      | .outside | .cycle => ∃ locator, source.reference = some locator ∧
        (resolveEntry table name source).reference = some (referenceOf locator) ∧
        (resolveEntry table name source).properties = none) ∧
    (∀ entry ∈ table, (rootVisit? entry.1 (resolveEntry table entry.1 entry.2)).isSome ↔
      EndsAtObjectEntry table entry) ∧
    ∀ units, written.resolve.compile settings = .ok units →
      ∃ block : String × WrittenSchema → List Declaration,
        units = unitsOf (written.resolve.moduleName settings) settings.language
          (table.flatMap block) ∧
        ∀ entry ∈ table, (block entry ≠ [] ↔ EndsAtObjectEntry table entry) ∧
          ∀ last target, EntryEnd table entry.1 entry.2 (.entry last target) →
            block entry = ownRenamed entry.1 (block (last, target)) := by
  refine ⟨?_, fun entry _ => rootVisit?_isSome_iff table entry, ?_⟩
  · intro name source member
    obtain ⟨ending, ends⟩ := entryEnd_total table name source
    refine ⟨ending, fun other => ⟨entryEnd_unique ends, fun same => same ▸ ends⟩, ?_⟩
    cases ending with
    | entry last target => exact standsFor_end member ends
    | outside | cycle => exact resolveEntry_unended ends (by simp)
  · intro units compiled
    obtain ⟨resolved, declarations, present, run, rfl⟩ :=
      (compile_eq_ok_iff written.resolve settings units).mp compiled
    simp only [WrittenDocument.resolve, listed, Option.map_some, Option.some.injEq] at present
    subst present
    obtain ⟨rfl, each⟩ := tableDeclarations_blocks run
    have runs : ∀ entry ∈ table,
        visitDeclarations (rootVisit? entry.1 (resolveEntry table entry.1 entry.2))
          = .ok (blockOf (entry.1, resolveEntry table entry.1 entry.2)) :=
      fun entry member => each (entry.1, _) (List.mem_map_of_mem member)
    refine ⟨fun entry => blockOf (entry.1, resolveEntry table entry.1 entry.2), ?_, ?_⟩
    · rw [List.flatMap_map]
    · intro entry member
      constructor
      · rw [blockOf_ne_nil_iff (runs entry member), rootVisit?_isSome_iff]
      · intro last target ends
        have runsLast := runs (last, target) (entryEnd_entry member ends).1
        have same := resolveEntry_eq_end ends
        simp only at runsLast ⊢
        rw [← same] at runsLast ⊢
        exact blockOf_renamed (runs entry member) runsLast

namespace Kennel

def pet : WrittenSchema :=
  { WrittenSchema.ofType "object" with
    properties := some [("name", .ofType "string"), ("owner", .ofType "object")]
    required := some ["name"] }

def animal : WrittenSchema := .ofReference "#/components/schemas/pet"

def beast : WrittenSchema := .ofReference "#/definitions/animal"

def left : WrittenSchema := .ofReference "#/components/schemas/right"

def right : WrittenSchema := .ofReference "#/components/schemas/left"

def tail : WrittenSchema := .ofReference "#/components/schemas/left"

def remote : WrittenSchema := .ofReference "shared.yaml#/components/schemas/pet"

/-- A chain of two references, a cycle, a chain that runs into it, and one that leaves the table. -/
def table : Members WrittenSchema := [
  ("beast", beast), ("left", left), ("right", right), ("tail", tail), ("remote", remote),
  ("pet", pet), ("animal", animal)]

def written : WrittenDocument := { WrittenDocument.empty with schemas := some table }

theorem beast_ends : EntryEnd table "beast" beast (.entry "pet" pet) := by
  have toAnimal : target? table "#/definitions/animal" = some ("animal", animal) :=
    target?_eq_some_iff.mpr ⟨by decide +kernel, by decide +kernel, rfl⟩
  have toPet : target? table "#/components/schemas/pet" = some ("pet", pet) :=
    target?_eq_some_iff.mpr ⟨by decide +kernel, by decide +kernel, rfl⟩
  exact .referred rfl (.step toAnimal (by decide) rfl (.entry toPet (by decide) rfl))

theorem tail_ends : EntryEnd table "tail" tail .cycle := by
  have toLeft : target? table "#/components/schemas/left" = some ("left", left) :=
    target?_eq_some_iff.mpr ⟨by decide +kernel, by decide +kernel, rfl⟩
  have toRight : target? table "#/components/schemas/right" = some ("right", right) :=
    target?_eq_some_iff.mpr ⟨by decide +kernel, by decide +kernel, rfl⟩
  exact .referred rfl (.step toLeft (by decide) rfl
    (.step toRight (by decide) rfl (.cycle toLeft (by decide))))

end Kennel

theorem entries_stand_for_their_ends_kennel :
    StandsFor Kennel.table "beast" Kennel.beast "pet" Kennel.pet ∧
    (resolveEntry Kennel.table "tail" Kennel.tail).reference
      = some (referenceOf "#/components/schemas/left") ∧
    ∃ units, Kennel.written.resolve.compile {} = .ok units ∧
      units.map SourceUnit.name = ["Owner", "Beast", "Owner", "Pet", "Owner", "Animal"] ∧
      ∃ block : String × WrittenSchema → List Declaration,
        units = unitsOf "GeneratedClasses" .csharp (Kennel.table.flatMap block) ∧
        block ("beast", Kennel.beast) = ownRenamed "beast" (block ("pet", Kennel.pet)) := by
  obtain ⟨each, _, blocks⟩ :=
    @entries_stand_for_their_ends Kennel.written Kennel.table rfl {}
  refine ⟨?_, ?_, ?_⟩
  · obtain ⟨ending, unique, becomes⟩ := each "beast" Kennel.beast (by simp [Kennel.table])
    cases (unique _).mp Kennel.beast_ends
    exact becomes
  · obtain ⟨ending, unique, becomes⟩ := each "tail" Kennel.tail (by simp [Kennel.table])
    cases (unique _).mp Kennel.tail_ends
    obtain ⟨locator, refers, kept, _⟩ := becomes
    cases refers
    exact kept
  · have named : (Kennel.written.resolve.compile {}).map (·.map SourceUnit.name)
        = .ok ["Owner", "Beast", "Owner", "Pet", "Owner", "Animal"] := by decide +kernel
    cases compiled : Kennel.written.resolve.compile {} with
    | error failure => simp [compiled, Except.map] at named
    | ok units =>
      simp only [compiled, Except.map, Except.ok.injEq] at named
      obtain ⟨block, made, entries⟩ := blocks units compiled
      exact ⟨units, rfl, named, block, made,
        (entries ("beast", Kennel.beast) (by simp [Kennel.table])).2 _ _ Kennel.beast_ends⟩

/-- An alias of an object under a name without letters and digits. -/
def namelessAlias : WrittenDocument :=
  { WrittenDocument.empty with schemas := some [("-", Kennel.animal), ("pet", Kennel.pet)] }

theorem namelessAlias_refused :
    EntryEnd [("-", Kennel.animal), ("pet", Kennel.pet)] "-" Kennel.animal
      (.entry "pet" Kennel.pet) ∧
    (compileSchema "pet" (resolveEntry [("-", Kennel.animal), ("pet", Kennel.pet)] "pet" Kennel.pet)
      "N" {}).map (·.map SourceUnit.name) = .ok ["Owner", "Pet"] ∧
    compileSchema "-" (resolveEntry [("-", Kennel.animal), ("pet", Kennel.pet)] "-" Kennel.animal)
      "N" {} = .error (.schema ⟨"/-", .emptyIdentifier "-"⟩) ∧
    namelessAlias.resolve.compile {}
      = .error (.schema ⟨"/components/schemas/-", .emptyIdentifier "-"⟩) := by
  have toPet : target? [("-", Kennel.animal), ("pet", Kennel.pet)] "#/components/schemas/pet"
      = some ("pet", Kennel.pet) :=
    target?_eq_some_iff.mpr ⟨by decide +kernel, by decide +kernel, rfl⟩
  refine ⟨.referred rfl (.entry toPet (by decide) rfl), ?_⟩
  decide +kernel

end SchemaDecls
