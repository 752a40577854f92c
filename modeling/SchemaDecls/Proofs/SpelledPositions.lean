import SchemaDecls.Proofs.JsonMembers
import SchemaDecls.Proofs.Positions

/-!
Positions against the JSON text that a schema was read from. A step of a pointer that reaches
something arrives at the value that the schema one step further was read from; on the way there the
objects hold every name once, and no reference is passed.
-/
namespace SchemaDecls.Json

/-- Every value on the way is an object that holds the next name at most once. -/
inductive Legible : List String → Tree → Prop where
  | whole {tree : Tree} : Legible [] tree
  | absent {name : String} {rest : List String} {members : Entries}
      (missing : members.values name = []) : Legible (name :: rest) (.object members)
  | member {name : String} {rest : List String} {members : Entries} {value : Tree}
      (only : members.values name = [value]) (onward : Legible rest value) :
      Legible (name :: rest) (.object members)

section Steps
variable {tree value : Tree} {members : Entries} {name : String} {rest : List String}

theorem reach?_object_iff : (Tree.object members).reach? (name :: rest) = some value ↔
    ∃ child, members.values name = [child] ∧ child.reach? rest = some value := by
  simp only [Tree.reach?, Option.bind_eq_some_iff, Tree.child?]
  constructor
  · rintro ⟨child, found, onward⟩
    split at found
    · next only =>
      cases found
      exact ⟨child, only, onward⟩
    · cases found
  · rintro ⟨child, only, onward⟩
    exact ⟨child, by rw [only], onward⟩

/-- A name that is no index leads on from objects only. -/
theorem object_of_reached (word : index? name = none)
    (reached : tree.reach? (name :: rest) = some value) : ∃ members, tree = .object members := by
  obtain ⟨child, found, _⟩ := Option.bind_eq_some_iff.mp reached
  cases tree with
  | object members => exact ⟨members, rfl⟩
  | array elements => simp [Tree.child?, word] at found
  | _ => cases found

theorem child_of_reached (word : index? name = none)
    (reached : tree.reach? (name :: rest) = some value) :
    ∃ members child, tree = .object members ∧ members.values name = [child] ∧
      child.reach? rest = some value := by
  obtain ⟨members, rfl⟩ := object_of_reached word reached
  obtain ⟨child, only, onward⟩ := reach?_object_iff.mp reached
  exact ⟨members, child, rfl, only, onward⟩

theorem object_of_legible (legible : Legible (name :: rest) tree) :
    ∃ members, tree = .object members := by
  cases legible with
  | @absent _ _ members _ => exact ⟨members, rfl⟩
  | @member _ _ members _ _ _ => exact ⟨members, rfl⟩

theorem child_of_legible {last : Tree} (isLast : (members.values name).getLast? = some last)
    (legible : Legible (name :: rest) (.object members)) :
    members.values name = [last] ∧ Legible rest last := by
  cases legible with
  | absent missing => simp [missing] at isLast
  | member only onward =>
    rw [only] at isLast
    cases isLast
    exact ⟨only, onward⟩

end Steps

-- A step into a schema, first from what the pointer reaches and then from what the text holds.
section Schemas
variable {tree value : Tree} {source inner : WrittenSchema} {key : String} {rest : List String}

theorem spells_property {members : Entries} (spelled : Spells (.object members) source)
    (member : (key, inner) ∈ source.properties.getD []) :
    ∃ entries last, members.values "properties" = [.object entries] ∧
      (entries.values key).getLast? = some last ∧ Spells last inner ∧
      ∀ other, (key, other) ∈ source.properties.getD [] → other = inner := by
  cases declared : source.properties with
  | none => simp [declared] at member
  | some table =>
    rw [declared, Option.getD_some] at member
    obtain ⟨value, only, spelledTable⟩ := spells_properties spelled declared
    obtain ⟨entries, rfl, distinct, each⟩ := spellsTable_entries spelledTable
    obtain ⟨last, isLast, spelledLast⟩ := each key inner member
    have unique : ∀ other, (key, other) ∈ table → other = inner := by
      intro other again
      have one := Members.find?_of_mem distinct member
      have two := Members.find?_of_mem distinct again
      exact Option.some.inj (two.symm.trans one)
    exact ⟨entries, last, only, isLast, spelledLast, unique⟩

theorem property_of_reached (spelled : Spells tree source)
    (member : (key, inner) ∈ source.properties.getD [])
    (reached : tree.reach? ("properties" :: key :: rest) = some value) :
    ∃ child, Spells child inner ∧ child.reach? rest = some value ∧
      (Legible rest child → Legible ("properties" :: key :: rest) tree) ∧
      ∀ other, (key, other) ∈ source.properties.getD [] → other = inner := by
  obtain ⟨members, table, rfl, only, toKey⟩ := child_of_reached (by decide +kernel) reached
  obtain ⟨entries, last, holds, isLast, spelledLast, unique⟩ := spells_property spelled member
  cases only.symm.trans holds
  obtain ⟨child, single, onward⟩ := reach?_object_iff.mp toKey
  rw [single] at isLast
  cases isLast
  refine ⟨child, spelledLast, onward, ?_, unique⟩
  intro legible
  exact .member only (.member single legible)

theorem property_of_legible (spelled : Spells tree source)
    (member : (key, inner) ∈ source.properties.getD [])
    (legible : Legible ("properties" :: key :: rest) tree) :
    ∃ child, Spells child inner ∧ Legible rest child ∧ ∀ value, child.reach? rest = some value →
      tree.reach? ("properties" :: key :: rest) = some value := by
  obtain ⟨members, rfl⟩ := object_of_legible legible
  obtain ⟨entries, last, holds, isLast, spelledLast, _⟩ := spells_property spelled member
  obtain ⟨only, inside⟩ := child_of_legible (by rw [holds]; rfl) legible
  obtain ⟨single, onward⟩ := child_of_legible isLast inside
  refine ⟨last, spelledLast, onward, ?_⟩
  intro value reached
  have toKey := reach?_object_iff.mpr ⟨last, single, reached⟩
  exact reach?_object_iff.mpr ⟨_, only, toKey⟩

theorem items_of_reached (spelled : Spells tree source) (declared : source.items = some inner)
    (reached : tree.reach? ("items" :: rest) = some value) :
    ∃ child, Spells child inner ∧ child.reach? rest = some value ∧
      (Legible rest child → Legible ("items" :: rest) tree) := by
  obtain ⟨members, child, rfl, only, onward⟩ := child_of_reached (by decide +kernel) reached
  obtain ⟨item, holds, spelledItem⟩ := spells_items spelled declared
  cases only.symm.trans holds
  exact ⟨child, spelledItem, onward, .member only⟩

theorem items_of_legible (spelled : Spells tree source) (declared : source.items = some inner)
    (legible : Legible ("items" :: rest) tree) :
    ∃ child, Spells child inner ∧ Legible rest child ∧ ∀ value, child.reach? rest = some value →
      tree.reach? ("items" :: rest) = some value := by
  obtain ⟨members, rfl⟩ := object_of_legible legible
  obtain ⟨item, holds, spelledItem⟩ := spells_items spelled declared
  obtain ⟨only, onward⟩ := child_of_legible (by rw [holds]; rfl) legible
  refine ⟨item, spelledItem, onward, ?_⟩
  intro value reached
  exact reach?_object_iff.mpr ⟨item, only, reached⟩

/-- What a pointer reaches in a schema is what the schema at that position was read from. -/
theorem spells_reached {written : WrittenSchema} {place : List Step} (spelled : Spells tree source)
    (stands : source.At place written) (reached : tree.reach? (stepSegments place) = some value) :
    Spells value written ∧ InPlace source place ∧ Legible (stepSegments place) tree := by
  induction stands generalizing tree with
  | here =>
    cases reached
    exact ⟨spelled, inPlace_here, .whole⟩
  | property plain member inside ih =>
    obtain ⟨child, spelledChild, onward, around, unique⟩ :=
      property_of_reached spelled member reached
    obtain ⟨spelledValue, below, legible⟩ := ih spelledChild onward
    exact ⟨spelledValue, inPlace_property plain unique below, around legible⟩
  | items plain declared inside ih =>
    obtain ⟨child, spelledChild, onward, around⟩ := items_of_reached spelled declared reached
    obtain ⟨spelledValue, below, legible⟩ := ih spelledChild onward
    exact ⟨spelledValue, inPlace_items plain declared below, around legible⟩

/-- Through legible objects, the pointer to a position reaches a value. -/
theorem reached_of_legible {written : WrittenSchema} {place : List Step}
    (spelled : Spells tree source) (stands : source.At place written)
    (legible : Legible (stepSegments place) tree) :
    ∃ value, tree.reach? (stepSegments place) = some value := by
  induction stands generalizing tree with
  | here => exact ⟨tree, rfl⟩
  | property plain member inside ih =>
    obtain ⟨child, spelledChild, onward, through⟩ := property_of_legible spelled member legible
    obtain ⟨value, reached⟩ := ih spelledChild onward
    exact ⟨value, through value reached⟩
  | items plain declared inside ih =>
    obtain ⟨child, spelledChild, onward, through⟩ := items_of_legible spelled declared legible
    obtain ⟨value, reached⟩ := ih spelledChild onward
    exact ⟨value, through value reached⟩

end Schemas

section Documents
variable {root value : Tree} {limit : Nat} {written : WrittenDocument}
  {table : Members WrittenSchema} {name : String} {source : WrittenSchema} {rest : List String}

/-- A pointer below `components.schemas` reaches into the entry it names, if it reaches anything. -/
theorem entry_of_reached (read : format.document limit root = .ok written)
    (listed : written.table = some table) (member : (name, source) ∈ table)
    (reached : root.reach? ("components" :: "schemas" :: name :: rest) = some value) :
    written.schemas = some table ∧ ∃ entry, Spells entry source ∧ entry.reach? rest = some value ∧
      (Legible rest entry → Legible ("components" :: "schemas" :: name :: rest) root) := by
  obtain ⟨members, components, rfl, onlyComponents, toSchemas⟩ :=
    child_of_reached (by decide +kernel) reached
  obtain ⟨parts, schemas, rfl, onlySchemas, toEntry⟩ :=
    child_of_reached (by decide +kernel) toSchemas
  have readSchemas : format.schemas (limit - 1 - 1) (.object parts) = .ok written.schemas := by
    rcases document_components read with ⟨none, _⟩ | ⟨_, holds, ⟨rfl, _⟩ | readSchemas⟩
    · cases onlyComponents.symm.trans none
    · cases onlyComponents.symm.trans holds
    · cases onlyComponents.symm.trans holds
      exact readSchemas
  rcases components_schemas readSchemas with
    ⟨none, _⟩ | ⟨_, holds, ⟨rfl, _⟩ | ⟨own, present, spelled⟩⟩
  · cases onlySchemas.symm.trans none
  · cases onlySchemas.symm.trans holds
    cases toEntry
  · cases onlySchemas.symm.trans holds
    have same : own = table := by simpa [WrittenDocument.table, present] using listed
    subst same
    obtain ⟨entries, rfl, _, each⟩ := spellsTable_entries spelled
    obtain ⟨last, isLast, spelledLast⟩ := each name source member
    obtain ⟨entry, onlyEntry, onward⟩ := reach?_object_iff.mp toEntry
    rw [onlyEntry] at isLast
    cases isLast
    refine ⟨present, entry, spelledLast, onward, ?_⟩
    intro legible
    exact .member onlyComponents (.member onlySchemas (.member onlyEntry legible))

/-- Through legible objects, the pointer to an entry of `components.schemas` reaches it. -/
theorem entry_of_legible (read : format.document limit root = .ok written)
    (present : written.schemas = some table) (member : (name, source) ∈ table)
    (legible : Legible ("components" :: "schemas" :: name :: rest) root) :
    ∃ entry, Spells entry source ∧ Legible rest entry ∧ ∀ value, entry.reach? rest = some value →
      root.reach? ("components" :: "schemas" :: name :: rest) = some value := by
  obtain ⟨members, rfl⟩ := object_of_legible legible
  obtain ⟨components, holds, readSchemas⟩ : ∃ components,
      members.values "components" = [components] ∧
        format.schemas (limit - 1 - 1) components = .ok (some table) := by
    rw [← present]
    rcases document_components read with ⟨_, none⟩ | ⟨components, holds, ⟨_, none⟩ | readSchemas⟩
    · cases present.symm.trans none
    · cases present.symm.trans none
    · exact ⟨components, holds, readSchemas⟩
  obtain ⟨onlyComponents, below⟩ := child_of_legible (by rw [holds]; rfl) legible
  obtain ⟨parts, rfl⟩ := object_of_legible below
  obtain ⟨schemas, holds, spelled⟩ : ∃ schemas,
      parts.values "schemas" = [schemas] ∧ SpellsTable schemas table := by
    rcases components_schemas readSchemas with
      ⟨_, none⟩ | ⟨schemas, holds, ⟨_, none⟩ | ⟨_, same, spelled⟩⟩
    · cases none
    · cases none
    · cases same
      exact ⟨schemas, holds, spelled⟩
  obtain ⟨onlySchemas, below⟩ := child_of_legible (by rw [holds]; rfl) below
  obtain ⟨entries, rfl, _, each⟩ := spellsTable_entries spelled
  obtain ⟨entry, isLast, spelledEntry⟩ := each name source member
  obtain ⟨onlyEntry, onward⟩ := child_of_legible isLast below
  refine ⟨entry, spelledEntry, onward, ?_⟩
  intro value reached
  have toEntry := reach?_object_iff.mpr ⟨entry, onlyEntry, reached⟩
  have toSchemas := reach?_object_iff.mpr ⟨_, onlySchemas, toEntry⟩
  exact reach?_object_iff.mpr ⟨_, onlyComponents, toSchemas⟩

end Documents
end SchemaDecls.Json
