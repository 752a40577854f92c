import SchemaDecls.Json.Decode
import SchemaDecls.Proofs.Results

/-!
JSON values and what is decoded from them, member by member. A record takes a field from the one
member of its name; a table takes the value of a key from the last member of that name. The value
that stands under a pointer is reached without the help of the decoder.
-/
namespace SchemaDecls

theorem keyNamed?_eq_some_iff {κ : Type} {name : κ → String} {keys : List κ}
    (complete : ∀ key, key ∈ keys) (apart : ∀ one other, name one = name other → one = other)
    (text : String) (key : κ) : keyNamed? name keys text = some key ↔ text = name key := by
  unfold keyNamed?
  constructor
  · intro found
    have same := List.find?_some found
    exact (beq_iff_eq.mp same).symm
  · rintro rfl
    cases found : keys.find? fun other => name other == name key with
    | none =>
      have missing := List.find?_eq_none.mp found key (complete key)
      simp at missing
    | some other =>
      have same := List.find?_some found
      rw [apart other key (beq_iff_eq.mp same)]

namespace Json

/-- The values that stand under a name, in the order of the text. -/
def Entries.values (name : String) : Entries → List Tree
  | .closed | .cut _ => []
  | .cons key value rest =>
    if key.content = name then value :: rest.values name else rest.values name

def Elements.toList : Elements → List Tree
  | .closed | .cut _ => []
  | .cons element rest => element :: rest.toList

/-- The index that a segment spells: digits without a leading zero. -/
def index? (segment : String) : Option Nat :=
  if segment = "0" then some 0
  else if segment.toList.all Char.isDigit && segment.toList.head?.any (· != '0') then
    some (segment.toList.foldl (fun index c => index * 10 + (c.toNat - '0'.toNat)) 0)
  else none

/-- The value that a segment addresses: the member of an object with that name, if it is the only
one, or the element of an array at that index. -/
def Tree.child? (segment : String) : Tree → Option Tree
  | .object members =>
    match members.values segment with
    | [value] => some value
    | _ => none
  | .array elements => (index? segment).bind fun index => elements.toList[index]?
  | _ => none

/-- The value that segments lead to, one inside the other. -/
def Tree.reach? : List String → Tree → Option Tree
  | [], tree => some tree
  | segment :: rest, tree => (tree.child? segment).bind (Tree.reach? rest)

section Records
variable {κ ρ β : Type} [DecidableEq κ] {known : String → Option κ}
  {assign : κ → ρ → Tree → Decoded ρ}

/-- A field of a record is read from the one member of its name, and is left alone without one. -/
theorem record_member (get : ρ → β) (read : Tree → Decoded β) {key : κ} {label : String}
    (named : ∀ text, known text = some key ↔ text = label)
    (mine : ∀ before value after, assign key before value = .ok after →
      read value = .ok (get after))
    (others : ∀ other before value after, other ≠ key → assign other before value = .ok after →
      get after = get before)
    {members : Entries} {seen : List κ} {first last : ρ}
    (run : members.record known assign seen first = .ok last) :
    (members.values label = [] ∧ get last = get first) ∨
      (key ∉ seen ∧ ∃ value, members.values label = [value] ∧ read value = .ok (get last)) := by
  induction seen, first, members using Entries.record.induct known with
  | case1 seen first =>
    cases run
    exact Or.inl ⟨rfl, rfl⟩
  | case2 seen first fault => cases run
  | case3 seen first text value rest paired unknown ih =>
    have apart : text.content ≠ label := by
      intro same
      simp [(named _).mpr same] at unknown
    simp only [Entries.record, paired, unknown, ↓reduceIte, bind_eq_ok_iff] at run
    obtain ⟨_, _, onward⟩ := run
    simp only [Entries.values, apart, ↓reduceIte]
    exact ih onward
  | case4 seen first text value rest paired other isKnown again =>
    simp [Entries.record, paired, isKnown, again] at run
  | case5 seen first text value rest paired other isKnown fresh ih =>
    simp only [Entries.record, paired, isKnown, fresh, ↓reduceIte, bind_eq_ok_iff] at run
    obtain ⟨taken, assigned, onward⟩ := run
    by_cases same : other = key
    · subst same
      have here : text.content = label := (named _).mp isKnown
      simp only [Entries.values, here, ↓reduceIte]
      -- The key now counts as seen, so no later member has its name.
      rcases ih taken onward with ⟨none, kept⟩ | ⟨unseen, _⟩
      · refine Or.inr ⟨fresh, value, by rw [none], ?_⟩
        rw [kept]
        exact mine _ _ _ assigned
      · simp at unseen
    · have apart : text.content ≠ label := by
        intro here
        have mapped := (named _).mpr here
        exact same (Option.some.inj (isKnown.symm.trans mapped))
      simp only [Entries.values, apart, ↓reduceIte]
      rcases ih taken onward with ⟨none, kept⟩ | ⟨unseen, found⟩
      · exact Or.inl ⟨none, kept.trans (others _ _ _ _ same assigned)⟩
      · exact Or.inr ⟨fun member => unseen (List.mem_cons_of_mem _ member), found⟩
  | case6 seen first text value rest unpaired => simp [Entries.record, unpaired] at run

end Records

section Tables
variable {α : Type} {decode : Tree → Decoded α} {members : Entries} {first last : Members α}

/-- A table holds, for each key, what the last value under that name decodes to. -/
theorem table_find? (run : members.table decode first = .ok last) (key : String) :
    (members.values key = [] ∧ last.find? key = first.find? key) ∨
      ∃ value found, (members.values key).getLast? = some value ∧
        decode value = .ok found ∧ last.find? key = some found := by
  induction first, members using Entries.table.induct with
  | case1 first =>
    cases run
    exact Or.inl ⟨rfl, rfl⟩
  | case2 first fault => cases run
  | case3 first text value rest paired ih =>
    simp only [Entries.table, paired, ↓reduceIte, bind_eq_ok_iff] at run
    obtain ⟨decoded, taken, onward⟩ := run
    simp only [Entries.values]
    rcases ih decoded onward with ⟨none, kept⟩ | ⟨later, found, isLast, decodes, holds⟩
    · rw [Members.find?_put] at kept
      by_cases here : text.content = key
      · rw [if_pos here] at kept
        rw [if_pos here, none]
        exact Or.inr ⟨value, decoded, rfl, taken, kept⟩
      · rw [if_neg here] at kept
        rw [if_neg here]
        exact Or.inl ⟨none, kept⟩
    · refine Or.inr ⟨later, found, ?_, decodes, holds⟩
      split
      · rw [List.getLast?_cons, isLast, Option.getD_some]
      · exact isLast
  | case4 first text value rest unpaired => simp [Entries.table, unpaired] at run

theorem table_distinct (run : members.table decode first = .ok last) (distinct : first.keys.Nodup) :
    last.keys.Nodup := by
  induction first, members using Entries.table.induct with
  | case1 first =>
    cases run
    exact distinct
  | case2 first fault => cases run
  | case3 first text value rest paired ih =>
    simp only [Entries.table, paired, ↓reduceIte, bind_eq_ok_iff] at run
    obtain ⟨decoded, _, onward⟩ := run
    exact ih decoded onward (Members.nodup_keys_put first text.content decoded distinct)
  | case4 first text value rest unpaired => simp [Entries.table, unpaired] at run

end Tables

theorem optional_some {α : Type} {decode : Tree → Decoded α} {tree : Tree} {value : α}
    (run : optional decode tree = .ok (some value)) : decode tree = .ok value := by
  cases tree with
  | null => cases run
  | _ =>
    obtain ⟨found, decoded, same⟩ := map_eq_ok_iff.mp run
    cases same
    exact decoded

theorem optional_none {α : Type} {decode : Tree → Decoded α} {tree : Tree}
    (run : optional decode tree = .ok none) : tree = .null := by
  cases tree with
  | null => rfl
  | _ =>
    obtain ⟨_, _, same⟩ := map_eq_ok_iff.mp run
    cases same

/-- A value that the loader reads as a schema, at some depth of a document. -/
def Spells (tree : Tree) (written : WrittenSchema) : Prop :=
  ∃ room, (format.readers room).schema tree = .ok written

def SpellsTable (tree : Tree) (table : Members WrittenSchema) : Prop :=
  ∃ room, (format.readers room).table tree = .ok table

/-- A table is spelled as an object, and every entry by the last value under its key. -/
theorem spellsTable_entries {tree : Tree} {table : Members WrittenSchema}
    (spelled : SpellsTable tree table) :
    ∃ members, tree = .object members ∧ table.keys.Nodup ∧
      ∀ key source, (key, source) ∈ table →
        ∃ value, (members.values key).getLast? = some value ∧ Spells value source := by
  obtain ⟨room, run⟩ := spelled
  cases room with
  | zero => cases tree <;> cases run
  | succ room =>
    cases tree with
    | object members =>
      have distinct : table.keys.Nodup := table_distinct run (by simp [Members.keys])
      refine ⟨members, rfl, distinct, ?_⟩
      intro key source member
      have holds := Members.find?_of_mem distinct member
      rcases table_find? run key with ⟨_, missing⟩ | ⟨value, found, isLast, decodes, kept⟩
      · simp [Members.find?, holds] at missing
      · cases holds.symm.trans kept
        exact ⟨value, isLast, room, decodes⟩
    | _ => cases run

theorem schemaKey_named (text : String) (key : SchemaKey) :
    keyNamed? SchemaKey.name SchemaKey.all text = some key ↔ text = key.name := by
  apply keyNamed?_eq_some_iff
  · intro key
    cases key <;> simp [SchemaKey.all]
  · intro one other
    cases one <;> cases other <;> simp [SchemaKey.name]

section Schemas
variable {members : Entries} {written : WrittenSchema}

/-- Taking up a keyword sets its own field and no other. -/
theorem assignSchema_ok {room : Nat} {inner : DataFormat.Readers Decoded Tree} {key : SchemaKey}
    {before after : WrittenSchema} {value : Tree}
    (run : format.assignSchema room inner key before value = .ok after) :
    (key = .properties → optional inner.table value = .ok after.properties) ∧
    (key ≠ .properties → after.properties = before.properties) ∧
    (key = .items → optional inner.schema value = .ok after.items) ∧
    (key ≠ .items → after.items = before.items) := by
  cases key
  all_goals
    obtain ⟨taken, read, same⟩ := bind_eq_ok_iff.mp run
    cases same
  case properties => exact ⟨fun _ => read, by simp, by simp, by simp⟩
  case items => exact ⟨by simp, by simp, fun _ => read, by simp⟩
  all_goals simp

/-- A keyword that a schema declares stands in its object once. -/
theorem spells_member {β : Type} (key : SchemaKey) (get : WrittenSchema → Option β)
    (read : Nat → Tree → Decoded β) (empty : get .empty = none)
    (mine : ∀ room before value after,
      format.assignSchema room (format.readers room) key before value = .ok after →
        optional (read room) value = .ok (get after))
    (others : ∀ room other before value after, other ≠ key →
      format.assignSchema room (format.readers room) other before value = .ok after →
        get after = get before)
    (spelled : Spells (.object members) written) {found : β} (declared : get written = some found) :
    ∃ value room, members.values key.name = [value] ∧ read room value = .ok found := by
  obtain ⟨room, run⟩ := spelled
  cases room with
  | zero => cases run
  | succ room =>
    rcases record_member get (optional (read room)) (fun text => schemaKey_named text key)
      (mine room) (others room) run with ⟨_, missing⟩ | ⟨_, value, only, taken⟩
    · rw [declared, empty] at missing
      cases missing
    · rw [declared] at taken
      exact ⟨value, room, only, optional_some taken⟩

theorem spells_properties (spelled : Spells (.object members) written)
    {table : Members WrittenSchema} (declared : written.properties = some table) :
    ∃ value, members.values "properties" = [value] ∧ SpellsTable value table := by
  obtain ⟨value, room, only, read⟩ := spells_member .properties WrittenSchema.properties
    (fun room => (format.readers room).table) rfl
    (fun _ _ _ _ assigned => (assignSchema_ok assigned).1 rfl)
    (fun _ _ _ _ _ apart assigned => (assignSchema_ok assigned).2.1 apart) spelled declared
  exact ⟨value, only, room, read⟩

theorem spells_items (spelled : Spells (.object members) written)
    {items : WrittenSchema} (declared : written.items = some items) :
    ∃ value, members.values "items" = [value] ∧ Spells value items := by
  obtain ⟨value, room, only, read⟩ := spells_member .items WrittenSchema.items
    (fun room => (format.readers room).schema) rfl
    (fun _ _ _ _ assigned => (assignSchema_ok assigned).2.2.1 rfl)
    (fun _ _ _ _ _ apart assigned => (assignSchema_ok assigned).2.2.2 apart) spelled declared
  exact ⟨value, only, room, read⟩

end Schemas

section Documents
variable {members : Entries} {room : Nat}

theorem optional_cases {α : Type} {decode : Tree → Decoded α} {tree : Tree} {result : Option α}
    (run : optional decode tree = .ok result) :
    (tree = .null ∧ result = none) ∨ ∃ value, result = some value ∧ decode tree = .ok value := by
  cases result with
  | none => exact Or.inl ⟨optional_none run, rfl⟩
  | some value => exact Or.inr ⟨value, rfl, optional_some run⟩

theorem documentKey_named (text : String) (key : DocumentKey) :
    keyNamed? DocumentKey.name DocumentKey.all text = some key ↔ text = key.name := by
  apply keyNamed?_eq_some_iff
  · intro key
    cases key <;> simp [DocumentKey.all]
  · intro one other
    cases one <;> cases other <;> simp [DocumentKey.name]

theorem assignDocument_ok {key : DocumentKey} {before after : WrittenDocument} {value : Tree}
    (run : format.assignDocument room key before value = .ok after) :
    (key = .components →
      (optional (format.schemas (room - 1)) value).map Option.join = .ok after.schemas) ∧
    (key ≠ .components → after.schemas = before.schemas) := by
  cases key
  all_goals
    obtain ⟨taken, read, same⟩ := bind_eq_ok_iff.mp run
    cases same
  case components => exact ⟨fun _ => map_eq_ok_iff.mpr ⟨taken, read, rfl⟩, by simp⟩
  all_goals simp

/-- The table under `components` comes from the one member of that name. -/
theorem document_components {limit : Nat} {written : WrittenDocument}
    (read : format.document limit (.object members) = .ok written) :
    (members.values "components" = [] ∧ written.schemas = none) ∨
      ∃ value, members.values "components" = [value] ∧
        ((value = .null ∧ written.schemas = none) ∨
          format.schemas (limit - 1 - 1) value = .ok written.schemas) := by
  rcases record_member WrittenDocument.schemas
    (fun value => (optional (format.schemas (limit - 1 - 1)) value).map Option.join)
    (fun text => documentKey_named text .components)
    (fun _ _ _ assigned => (assignDocument_ok assigned).1 rfl)
    (fun _ _ _ _ apart assigned => (assignDocument_ok assigned).2 apart) read with
    ⟨none, missing⟩ | ⟨_, value, only, taken⟩
  · exact Or.inl ⟨none, missing⟩
  · obtain ⟨found, run, joined⟩ := map_eq_ok_iff.mp taken
    refine Or.inr ⟨value, only, ?_⟩
    rcases optional_cases run with ⟨null, rfl⟩ | ⟨schemas, rfl, decoded⟩
    · exact Or.inl ⟨null, joined.symm⟩
    · rw [← joined]
      exact Or.inr decoded

theorem soleKey_named (name text : String) (key : Unit) :
    keyNamed? (fun _ : Unit => name) [()] text = some key ↔ text = name := by
  apply keyNamed?_eq_some_iff <;> simp

theorem components_schemas {found : Option (Members WrittenSchema)}
    (read : format.schemas room (.object members) = .ok found) :
    (members.values "schemas" = [] ∧ found = none) ∨
      ∃ value, members.values "schemas" = [value] ∧
        ((value = .null ∧ found = none) ∨
          ∃ table, found = some table ∧ SpellsTable value table) := by
  have named := fun text => soleKey_named "schemas" text ()
  rcases record_member id (optional (format.readers room).table) named
    (fun _ _ _ assigned => assigned) (fun _ _ _ _ apart => absurd rfl apart) read with
    ⟨none, missing⟩ | ⟨_, value, only, taken⟩
  · exact Or.inl ⟨none, missing⟩
  · refine Or.inr ⟨value, only, ?_⟩
    rcases optional_cases taken with ⟨null, missing⟩ | ⟨table, present, decoded⟩
    · exact Or.inl ⟨null, missing⟩
    · exact Or.inr ⟨table, present, room, decoded⟩

end Documents
end Json
end SchemaDecls
