import Mathlib.Data.List.Perm.Subperm
import SchemaDecls.Proofs.Chain

/-!
Resolution as it runs: calls that go deeper and deeper, over one stack of the names being visited.
A run that is not allowed to go deep enough has no result. The stack is kept with all it was before,
so that what holds of every stack of a run can be told from the end of it.
-/
namespace SchemaDecls

/-- A call of the recursion: for a schema, for the locator of a reference, or for the entry that a
locator addresses. -/
inductive Call where
  | schema (written : WrittenSchema)
  | reference (locator : String)
  | entry (target : WrittenSchema)

/-- The names being visited, the one entered last first, and every such stack up to now. -/
structure Visits where
  names : List String
  past : List (List String)
deriving DecidableEq, Repr

namespace Visits

def current : StateT Visits Option (List String) := do
  let visits ← get
  return visits.names

def move (visits : Visits) (names : List String) : Visits := ⟨names, names :: visits.past⟩

def enter (name : String) : StateT Visits Option Unit :=
  modify fun visits => visits.move (name :: visits.names)

def leave : StateT Visits Option Unit :=
  modify fun visits => visits.move visits.names.tail

def during (name : String) (computation : StateT Visits Option α) : StateT Visits Option α := do
  enter name
  let value ← computation
  leave
  return value

end Visits

namespace Call

/-- A call that may go `depth` deep. -/
def run (table : Members WrittenSchema) : Nat → Call → StateT Visits Option Schema
  | 0, _ => failure
  | depth + 1, .schema written =>
    match written.reference with
    | some locator => run table depth (.reference locator)
    | none => do
      let properties ← written.properties.mapM fun members => members.mapM fun member => do
        let property ← run table depth (.schema member.2)
        return (member.1, property)
      let items ← written.items.mapM fun items => run table depth (.schema items)
      return {
        type? := written.schemaType
        properties := properties
        required := written.required
        items := items
        reference := none
        title := written.title }
  | depth + 1, .reference locator => do
    let resolved ←
      match target? table locator with
      | none => pure (Schema.ofType .object)
      | some (name, target) => do
        let names ← Visits.current
        if name ∈ names then pure Schema.empty
        else Visits.during name (run table depth (.entry target))
    return { resolved with reference := some (referenceOf locator) }
  | depth + 1, .entry target =>
    match target.reference with
    | some locator => do
      let resolved ← run table depth (.reference locator)
      return { resolved with reference := none }
    | none => do
      let items ← target.items.mapM fun items => run table depth (.schema items)
      return {
        Schema.empty with
        type? := target.schemaType
        items := items
        title := target.title }

/-- What a call is to give while the names `visiting` are being visited. -/
def result (table : Members WrittenSchema) (visiting : List String) : Call → Schema
  | .schema written => written.resolveWith (resolveReference table visiting)
  | .reference locator => resolveReference table visiting locator
  | .entry target =>
    match target.reference with
    | some locator => { resolveReference table visiting locator with reference := none }
    | none =>
      { Schema.empty with
        type? := target.schemaType
        items := target.items.map (WrittenSchema.resolveWith (resolveReference table visiting))
        title := target.title }

end Call

/-- A stack that stands on `visiting`: what was entered since are names of the table, each once. -/
def Extends (table : Members WrittenSchema) (visiting names : List String) : Prop :=
  ∃ entered, names = entered ++ visiting ∧ entered.Nodup ∧
    ∀ name ∈ entered, name ∉ visiting ∧ name ∈ table.keys

section Extends
variable {table : Members WrittenSchema} {visiting names : List String}

theorem extends_refl (table : Members WrittenSchema) (visiting : List String) :
    Extends table visiting visiting :=
  ⟨[], rfl, List.nodup_nil, by simp⟩

theorem extends_of_enter {name : String} (fresh : name ∉ visiting) (inside : name ∈ table.keys)
    (grown : Extends table (name :: visiting) names) : Extends table visiting names := by
  obtain ⟨entered, rfl, distinct, new⟩ := grown
  have apart : name ∉ entered := fun member => (new name member).1 List.mem_cons_self
  refine ⟨entered ++ [name], by simp, ?_, ?_⟩
  · rw [List.nodup_append]
    refine ⟨distinct, by simp, ?_⟩
    rintro other member last equal rfl
    exact apart (List.mem_singleton.mp equal ▸ member)
  · intro other member
    rcases List.mem_append.mp member with member | last
    · obtain ⟨absent, keyed⟩ := new other member
      exact ⟨fun below => absent (List.mem_cons_of_mem _ below), keyed⟩
    · rw [List.mem_singleton.mp last]
      exact ⟨fresh, inside⟩

theorem extends_length (grown : Extends table visiting names) :
    ∃ entered, names = entered ++ visiting ∧ entered.length ≤ table.length := by
  obtain ⟨entered, rfl, distinct, new⟩ := grown
  have subset : entered ⊆ table.keys := fun name member => (new name member).2
  have short := (List.subperm_of_subset distinct subset).length_le
  rw [Members.keys, List.length_map] at short
  exact ⟨entered, rfl, short⟩

theorem extends_nodup (grown : Extends table visiting names) (distinct : visiting.Nodup) :
    names.Nodup := by
  obtain ⟨entered, rfl, once, new⟩ := grown
  rw [List.nodup_append]
  refine ⟨once, distinct, ?_⟩
  rintro name member other below rfl
  exact (new name member).1 below

end Extends

/-- The computation ends with `value` and with the stack it began with, and meanwhile every stack
stands on that one. -/
def Settles (table : Members WrittenSchema) (visiting : List String)
    (computation : StateT Visits Option α) (value : α) : Prop :=
  ∃ met, (∀ names ∈ met, Extends table visiting names) ∧
    ∀ past, computation.run ⟨visiting, past⟩ = some (value, ⟨visiting, met ++ past⟩)

section Settles
variable {table : Members WrittenSchema} {visiting : List String}

theorem settles_pure (value : α) : Settles table visiting (pure value) value := by
  refine ⟨[], by simp, ?_⟩
  intro past
  rfl

theorem settles_current : Settles table visiting Visits.current visiting := by
  refine ⟨[], by simp, ?_⟩
  intro past
  rfl

theorem settles_bind {first : StateT Visits Option α} {rest : α → StateT Visits Option β}
    {value : α} {result : β} (begins : Settles table visiting first value)
    (continues : Settles table visiting (rest value) result) :
    Settles table visiting (first >>= rest) result := by
  obtain ⟨met, allowed, ends⟩ := begins
  obtain ⟨later, allowedLater, endsLater⟩ := continues
  refine ⟨later ++ met, ?_, ?_⟩
  · intro names member
    rcases List.mem_append.mp member with member | member
    · exact allowedLater names member
    · exact allowed names member
  · intro past
    rw [StateT.run_bind, ends past]
    exact (endsLater (met ++ past)).trans (by rw [List.append_assoc])

theorem settles_map {computation : StateT Visits Option α} {value : α} (change : α → β)
    (settles : Settles table visiting computation value) :
    Settles table visiting (change <$> computation) (change value) := by
  rw [map_eq_pure_bind]
  exact settles_bind settles (settles_pure _)

theorem settles_mapM {computation : α → StateT Visits Option β} {value : α → β} {list : List α}
    (each : ∀ element ∈ list, Settles table visiting (computation element) (value element)) :
    Settles table visiting (list.mapM computation) (list.map value) := by
  induction list with
  | nil => exact settles_pure []
  | cons head tail ih =>
    rw [List.mapM_cons, List.map_cons]
    have rest : Settles table visiting (tail.mapM computation) (tail.map value) := by
      apply ih
      intro element member
      exact each element (List.mem_cons_of_mem _ member)
    exact settles_bind (each head List.mem_cons_self) (settles_bind rest (settles_pure _))

theorem settles_mapM? {computation : α → StateT Visits Option β} {value : α → β}
    {content : Option α}
    (each : ∀ element, content = some element →
      Settles table visiting (computation element) (value element)) :
    Settles table visiting (content.mapM computation) (content.map value) := by
  cases content with
  | none => exact settles_pure none
  | some element => exact settles_map some (each element rfl)

theorem settles_during {name : String} {computation : StateT Visits Option α} {value : α}
    (fresh : name ∉ visiting) (inside : name ∈ table.keys)
    (settles : Settles table (name :: visiting) computation value) :
    Settles table visiting (Visits.during name computation) value := by
  obtain ⟨met, allowed, ends⟩ := settles
  have entered : Extends table visiting (name :: visiting) :=
    extends_of_enter fresh inside (extends_refl table _)
  refine ⟨visiting :: (met ++ [name :: visiting]), ?_, ?_⟩
  · intro names member
    rcases List.mem_cons.mp member with rfl | member
    · exact extends_refl table _
    · rcases List.mem_append.mp member with member | last
      · exact extends_of_enter fresh inside (allowed names member)
      · exact List.mem_singleton.mp last ▸ entered
  · intro past
    have run : (Visits.during name computation).run ⟨visiting, past⟩
        = (computation.run ⟨name :: visiting, (name :: visiting) :: past⟩).bind fun ended =>
          some (ended.1, ended.2.move ended.2.names.tail) := rfl
    rw [run, ends]
    simp [Visits.move]

end Settles

theorem WrittenSchema.size_pos (written : WrittenSchema) : 0 < sizeOf written := by
  cases written
  simp only [WrittenSchema.mk.sizeOf_spec]
  omega

namespace Call
variable {table : Members WrittenSchema} {visiting : List String} {depth : Nat}

theorem result_reference_found {locator name : String} {target : WrittenSchema}
    (found : target? table locator = some (name, target)) (fresh : name ∉ visiting) :
    (Call.reference locator).result table visiting =
      { (Call.entry target).result table (name :: visiting) with
        reference := some (referenceOf locator) } := by
  simp only [result]
  rw [resolveReference_found found, if_neg fresh]
  cases target.reference <;> rfl

/-- The size of the schema a call is for. -/
noncomputable def size : Call → Nat
  | .schema written => sizeOf written
  | .reference _ => 0
  | .entry target => sizeOf target

/-- One step: a call settles if the calls for parts of its schema do, and if the calls for entries
that are not being visited do while their names are. -/
theorem run_step (call : Call)
    (smaller : ∀ inner : Call, inner.size < call.size →
      Settles table visiting (inner.run table depth) (inner.result table visiting))
    (entered : ∀ name target, (name, target) ∈ table → name ∉ visiting →
      Settles table (name :: visiting) ((Call.entry target).run table depth)
        ((Call.entry target).result table (name :: visiting))) :
    Settles table visiting (call.run table (depth + 1)) (call.result table visiting) := by
  have itemsSettle : ∀ written : WrittenSchema, sizeOf written ≤ call.size →
      Settles table visiting (written.items.mapM fun items => (Call.schema items).run table depth)
        (written.items.map (WrittenSchema.resolveWith (resolveReference table visiting))) := by
    intro written within
    apply settles_mapM?
    intro items declared
    have part := WrittenSchema.items_size declared
    exact smaller (.schema items) (Nat.lt_of_lt_of_le part within)
  cases call with
  | schema written =>
    cases refers : written.reference with
    | some locator =>
      simp only [run, result, refers, WrittenSchema.resolveWith_reference _ refers]
      exact smaller (.reference locator) written.size_pos
    | none =>
      have propertiesSettle :
          Settles table visiting
            (written.properties.mapM fun members => members.mapM fun member => do
              let property ← (Call.schema member.2).run table depth
              return (member.1, property))
            (written.properties.map (List.map fun member =>
              (member.1, member.2.resolveWith (resolveReference table visiting)))) := by
        apply settles_mapM?
        intro members declared
        apply settles_mapM
        intro member inside
        have listed : (member.1, member.2) ∈ written.properties.getD [] := by
          rw [declared]
          exact inside
        have part := WrittenSchema.property_size listed
        exact settles_bind (smaller (.schema member.2) part) (settles_pure _)
      simp only [run, result, refers, WrittenSchema.resolveWith_plain _ refers]
      refine settles_bind propertiesSettle ?_
      exact settles_bind (itemsSettle written (Nat.le_refl _)) (settles_pure _)
  | reference locator =>
    cases found : target? table locator with
    | none =>
      simp only [run, result, found, resolveReference_missing visiting found]
      exact settles_bind (settles_pure _) (settles_pure _)
    | some pair =>
      obtain ⟨name, target⟩ := pair
      by_cases seen : name ∈ visiting
      · simp only [run, result, found, resolveReference_seen found seen]
        refine settles_bind settles_current ?_
        rw [if_pos seen]
        exact settles_bind (settles_pure _) (settles_pure _)
      · have member := name_mem_of_target? found
        rw [result_reference_found found seen]
        simp only [run, found]
        refine settles_bind settles_current ?_
        rw [if_neg seen]
        refine settles_bind (settles_during seen ?_ (entered name target member seen)) ?_
        · exact List.mem_map_of_mem member
        · exact settles_pure _
  | entry target =>
    cases refers : target.reference with
    | some locator =>
      simp only [run, result, refers]
      exact settles_bind (smaller (.reference locator) target.size_pos) (settles_pure _)
    | none =>
      simp only [run, result, refers]
      exact settles_bind (itemsSettle target (Nat.le_refl _)) (settles_pure _)

/-- The run: a call settles that may go as deep as its size and the entries not visited ask for. -/
theorem run_settles {call : Call}
    (enough : call.size + (unvisited table visiting).length * sizeOf table < depth) :
    Settles table visiting (call.run table depth) (call.result table visiting) := by
  -- A call for an entry may be for a larger schema, but then there is one entry less to visit.
  induction depth generalizing visiting call with
  | zero => omega
  | succ depth ih =>
    apply run_step
    · intro inner smaller
      apply ih
      omega
    intro name target member fresh
    apply ih
    have fewer := unvisited_length_lt member fresh
    have spent := Nat.mul_le_mul_right (sizeOf table) (Nat.succ_le_of_lt fewer)
    rw [Nat.succ_mul] at spent
    have within : sizeOf target < sizeOf table := by
      have listed := List.sizeOf_lt_of_mem member
      rw [Prod.mk.sizeOf_spec] at listed
      omega
    rw [size]
    omega

end Call

/-- A place on a chain of references: the names visited up to it, the last one first, and the schema
that stands there. -/
structure ChainPlace where
  visited : List String
  here : WrittenSchema

namespace ChainPlace

/-- One link further, if the schema refers to an entry that was not visited. -/
def next? (table : Members WrittenSchema) (place : ChainPlace) : Option ChainPlace :=
  match place.here.reference with
  | none => none
  | some locator =>
    match target? table locator with
    | none => none
    | some (name, target) =>
      if name ∈ place.visited then none else some ⟨name :: place.visited, target⟩

/-- The place a loop stops at that may follow `links` links. -/
def follow (table : Members WrittenSchema) : Nat → ChainPlace → Option ChainPlace
  | 0, place => if (place.next? table).isNone then some place else none
  | links + 1, place =>
    match place.next? table with
    | none => some place
    | some next => follow table links next

/-- What an entry is resolved from when its loop has stopped: the schema at the end of the chain, or
the entry itself if the chain has no end. -/
def resolved (last : ChainPlace) (written : WrittenSchema) : WrittenSchema :=
  if last.here.reference.isNone then last.here else written

end ChainPlace

/-- An entry of the table, by a loop that may follow `links` links and a call that may go `depth`
deep. -/
def runEntry (table : Members WrittenSchema) (links depth : Nat) (name : String)
    (written : WrittenSchema) : Option Schema := do
  let last ← ChainPlace.follow table links ⟨[name], written⟩
  let ended ← ((Call.schema (last.resolved written)).run table depth).run ⟨[], []⟩
  return ended.1

namespace ChainPlace
variable {table : Members WrittenSchema} {place next : ChainPlace}

theorem next?_eq_some_iff : place.next? table = some next ↔
    ∃ locator name target, place.here.reference = some locator ∧
      target? table locator = some (name, target) ∧ name ∉ place.visited ∧
      next = ⟨name :: place.visited, target⟩ := by
  unfold next?
  constructor
  · intro further
    split at further
    · cases further
    · next locator refers =>
      split at further
      · cases further
      · next name target found =>
        split at further
        · cases further
        · next fresh =>
          cases further
          exact ⟨locator, name, target, refers, found, fresh, rfl⟩
  · rintro ⟨locator, name, target, refers, found, fresh, rfl⟩
    simp [refers, found, fresh]

/-- Where the loop can go no further the search for the end of the chain stops as well. -/
theorem chainEnd?_of_next?_none (stops : place.next? table = none) :
    chainEnd? table place.visited place.here
      = if place.here.reference.isNone then some place.here else none := by
  cases refers : place.here.reference with
  | none => rw [chainEnd?_plain refers, Option.isNone_none, if_pos rfl]
  | some locator =>
    rw [Option.isNone_some, if_neg Bool.false_ne_true]
    cases found : target? table locator with
    | none => exact chainEnd?_missing refers found
    | some pair =>
      obtain ⟨name, target⟩ := pair
      rw [chainEnd?_found refers found]
      split
      · rfl
      · next fresh =>
        have further := next?_eq_some_iff.mpr ⟨locator, name, target, refers, found, fresh, rfl⟩
        rw [stops] at further
        cases further

theorem follow_stopped (stops : place.next? table = none) (links : Nat) :
    place.follow table links = some place := by
  cases links <;> simp [follow, stops]

/-- The loop stops within as many links as there are entries not visited, at the place that the
search for the end of the chain comes to. -/
theorem follow_ends (place : ChainPlace) {links : Nat}
    (enough : (unvisited table place.visited).length ≤ links) :
    ∃ last, place.follow table links = some last ∧
      Extends table place.visited last.visited ∧
      chainEnd? table place.visited place.here
        = if last.here.reference.isNone then some last.here else none := by
  induction links generalizing place with
  | zero =>
    cases further : place.next? table with
    | none =>
      exact ⟨place, follow_stopped further _, extends_refl _ _, chainEnd?_of_next?_none further⟩
    | some next =>
      obtain ⟨locator, name, target, refers, found, fresh, rfl⟩ := next?_eq_some_iff.mp further
      have fewer := unvisited_length_lt (name_mem_of_target? found) fresh
      omega
  | succ links ih =>
    cases further : place.next? table with
    | none =>
      exact ⟨place, follow_stopped further _, extends_refl _ _, chainEnd?_of_next?_none further⟩
    | some next =>
      obtain ⟨locator, name, target, refers, found, fresh, rfl⟩ := next?_eq_some_iff.mp further
      have member := name_mem_of_target? found
      have fewer := unvisited_length_lt member fresh
      have enoughThere : (unvisited table (name :: place.visited)).length ≤ links := by omega
      obtain ⟨last, followed, grown, searched⟩ := ih ⟨name :: place.visited, target⟩ enoughThere
      refine ⟨last, ?_, ?_, ?_⟩
      · simp only [follow, further]
        exact followed
      · exact extends_of_enter fresh (List.mem_map_of_mem member) grown
      · rw [chainEnd?_found refers found, if_neg fresh]
        exact searched

/-- The loop of an entry. -/
theorem follow_entry (table : Members WrittenSchema) (name : String) (written : WrittenSchema) :
    ∃ last, follow table table.length ⟨[name], written⟩ = some last ∧
      Extends table [name] last.visited ∧
      chainEnd? table [name] written
        = if last.here.reference.isNone then some last.here else none := by
  have enough : (unvisited table [name]).length ≤ table.length := List.length_filter_le _ _
  exact follow_ends ⟨[name], written⟩ enough

end ChainPlace

/-- An entry is resolved by a loop of no more links than the table has entries. -/
theorem runEntry_ends (table : Members WrittenSchema) (name : String) (written : WrittenSchema) :
    ∃ bound, ∀ depth, bound ≤ depth →
      runEntry table table.length depth name written = some (resolveEntry table name written) := by
  obtain ⟨last, followed, -, searched⟩ := ChainPlace.follow_entry table name written
  have source : resolveEntry table name written
      = (Call.schema (last.resolved written)).result table [] := by
    rw [resolveEntry, searched, ChainPlace.resolved]
    cases last.here.reference <;> rfl
  refine ⟨(Call.schema (last.resolved written)).size
    + (unvisited table []).length * sizeOf table + 1, ?_⟩
  intro depth deep
  obtain ⟨met, -, ends⟩ := Call.run_settles deep
  rw [source, runEntry, followed]
  simp [ends]

/-- Resolution ends on every table. A call that may go deep enough gives what it resolves to and
leaves the names being visited as they were; every stack of names on the way stands on the one it
began with, by at most as many names as the table has entries, and repeats no name unless that one
did. The loop of an entry stops within as many links as the table has entries, with no name visited
twice, and then the entry is resolved too. -/
theorem resolution_ends (table : Members WrittenSchema) :
    (∀ visiting call, ∃ bound, ∀ depth, bound ≤ depth → ∃ met,
      (∀ past, (Call.run table depth call).run ⟨visiting, past⟩
        = some (call.result table visiting, ⟨visiting, met ++ past⟩)) ∧
      ∀ names ∈ met,
        (∃ entered, names = entered ++ visiting ∧ entered.length ≤ table.length) ∧
        (visiting.Nodup → names.Nodup)) ∧
    ∀ name written,
      (∃ last, ChainPlace.follow table table.length ⟨[name], written⟩ = some last ∧
        last.visited.Nodup ∧ last.visited.length ≤ table.length + 1) ∧
      ∃ bound, ∀ depth, bound ≤ depth →
        runEntry table table.length depth name written
          = some (resolveEntry table name written) := by
  constructor
  · intro visiting call
    refine ⟨call.size + (unvisited table visiting).length * sizeOf table + 1, ?_⟩
    intro depth deep
    obtain ⟨met, allowed, ends⟩ := Call.run_settles deep
    refine ⟨met, ends, ?_⟩
    intro names member
    exact ⟨extends_length (allowed names member), extends_nodup (allowed names member)⟩
  · intro name written
    refine ⟨?_, runEntry_ends table name written⟩
    obtain ⟨last, followed, grown, -⟩ := ChainPlace.follow_entry table name written
    refine ⟨last, followed, extends_nodup grown (by simp), ?_⟩
    obtain ⟨entered, visited, short⟩ := extends_length grown
    rw [visited, List.length_append, List.length_singleton]
    omega

/-- Two entries that refer to each other, and an array of such arrays. -/
def rings : Members WrittenSchema :=
  [("Cat", .ofReference "#/definitions/Dog"),
    ("Dog", .ofReference "#/definitions/Cat"),
    ("Litter", {
      WrittenSchema.ofType "array" with
      items := some (.ofReference "#/definitions/Litter") })]

theorem resolution_ends_rings :
    (∃ depth met,
      ((Call.reference "#/definitions/Cat").run rings depth).run ⟨[], []⟩
        = some (resolveReference rings [] "#/definitions/Cat", ⟨[], met⟩) ∧
      ∀ names ∈ met, names.length ≤ 3 ∧ names.Nodup) ∧
    ∃ depth, runEntry rings 3 depth "Cat" (.ofReference "#/definitions/Dog")
      = some (resolveEntry rings "Cat" (.ofReference "#/definitions/Dog")) := by
  obtain ⟨calls, entries⟩ := resolution_ends rings
  constructor
  · obtain ⟨bound, ends⟩ := calls [] (.reference "#/definitions/Cat")
    obtain ⟨met, ended, onTheWay⟩ := ends bound (Nat.le_refl bound)
    refine ⟨bound, met, by simpa [Call.result] using ended [], ?_⟩
    intro names member
    obtain ⟨⟨entered, same, short⟩, distinct⟩ := onTheWay names member
    rw [List.append_nil] at same
    exact ⟨same ▸ short, distinct List.nodup_nil⟩
  · obtain ⟨-, bound, ends⟩ := entries "Cat" (.ofReference "#/definitions/Dog")
    exact ⟨bound, ends bound (Nat.le_refl bound)⟩

example :
    (((Call.reference "#/definitions/Cat").run rings 6).run ⟨[], []⟩).map (fun ended => ended.2)
      = some ⟨[], [[], ["Cat"], ["Dog", "Cat"], ["Cat"]]⟩ := by
  decide +kernel

example :
    (((Call.reference "#/definitions/Litter").run rings 6).run ⟨[], []⟩).map (fun ended => ended.2)
      = some ⟨[], [[], ["Litter"]]⟩ := by
  decide +kernel

end SchemaDecls
