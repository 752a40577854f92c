import SchemaDecls.Written.Resolve

/-!
Resolution one step at a time: what becomes of a written schema with and without a reference, and
of a locator in each of the four ways its look-up can go. Beside the search for the end of a chain
of references stands the chain itself.
-/
namespace SchemaDecls

namespace WrittenSchema

theorem property_size {written property : WrittenSchema} {key : String}
    (member : (key, property) ∈ written.properties.getD []) : sizeOf property < sizeOf written := by
  obtain ⟨reference, type, title, properties, required, items⟩ := written
  cases properties with
  | none => simp at member
  | some properties =>
    have inside := List.sizeOf_lt_of_mem (Option.getD_some ▸ member)
    simp only [WrittenSchema.mk.sizeOf_spec, Option.some.sizeOf_spec, Prod.mk.sizeOf_spec]
      at inside ⊢
    omega

theorem items_size {written items : WrittenSchema} (declared : written.items = some items) :
    sizeOf items < sizeOf written := by
  cases written
  simp only at declared
  subst declared
  simp only [WrittenSchema.mk.sizeOf_spec, Option.some.sizeOf_spec]
  omega

theorem keyword_induction {motive : WrittenSchema → Prop}
    (step : ∀ written,
      (∀ key property, (key, property) ∈ written.properties.getD [] → motive property) →
      (∀ items, written.items = some items → motive items) → motive written)
    (written : WrittenSchema) : motive written := by
  induction size : sizeOf written using Nat.strongRecOn generalizing written with
  | ind bound ih =>
    refine step written (fun key property member => ?_) (fun items declared => ?_)
    · exact ih _ (size ▸ property_size member) property rfl
    · exact ih _ (size ▸ items_size declared) items rfl

variable (follow : String → Schema)

theorem resolveWith_reference {written : WrittenSchema} {locator : String}
    (refers : written.reference = some locator) : written.resolveWith follow = follow locator := by
  obtain ⟨reference, type, title, properties, required, items⟩ := written
  cases refers
  rfl

theorem resolveProperties_eq_map (properties : List (String × WrittenSchema)) :
    resolveProperties follow properties
      = properties.map fun entry => (entry.1, entry.2.resolveWith follow) := by
  induction properties with
  | nil => rfl
  | cons entry rest ih => rw [resolveProperties, ih, List.map_cons]

theorem resolveWith_plain {written : WrittenSchema} (plain : written.reference = none) :
    written.resolveWith follow =
      { type? := written.schemaType
        properties := written.properties.map
          (List.map fun entry => (entry.1, entry.2.resolveWith follow))
        required := written.required
        items := written.items.map (resolveWith follow)
        reference := none
        title := written.title } := by
  obtain ⟨reference, type, title, properties, required, items⟩ := written
  cases plain
  rw [resolveWith]
  congr 1
  · cases properties with
    | none => rfl
    | some properties => rw [resolveProperties?, resolveProperties_eq_map, Option.map_some]
  · cases items <;> rfl

end WrittenSchema

section Locators
variable {table : Members WrittenSchema} {visiting : List String} {locator name : String}
  {target : WrittenSchema}

theorem target?_eq_some_iff : target? table locator = some (name, target) ↔
    Pointer.isLocal locator = true ∧ Pointer.componentName? locator = some name ∧
      table.find? name = some target := by
  unfold target?
  split
  · next onPage =>
    simp only [Option.bind_eq_some_iff, Option.map_eq_some_iff, Prod.mk.injEq]
    constructor
    · rintro ⟨other, component, value, found, rfl, rfl⟩
      exact ⟨onPage, component, found⟩
    · rintro ⟨_, component, found⟩
      exact ⟨name, component, target, found, rfl, rfl⟩
  · next elsewhere => simp [elsewhere]

def referenceOf (locator : String) : Reference := ⟨Pointer.componentName? locator, some locator⟩

theorem resolveReference_missing (visiting : List String)
    (missing : target? table locator = none) :
    resolveReference table visiting locator
      = { Schema.ofType .object with reference := some (referenceOf locator) } := by
  rw [resolveReference]
  split
  · rfl
  · next found => simp [missing] at found

theorem resolveReference_found (found : target? table locator = some (name, target)) :
    resolveReference table visiting locator =
      if name ∈ visiting then { Schema.empty with reference := some (referenceOf locator) }
      else
        match target.reference with
        | some next =>
          { resolveReference table (name :: visiting) next with
            reference := some (referenceOf locator) }
        | none =>
          { Schema.empty with
            type? := target.schemaType
            items := target.items.map
              (WrittenSchema.resolveWith (resolveReference table (name :: visiting)))
            reference := some (referenceOf locator)
            title := target.title } := by
  rw [resolveReference]
  split
  · next missing => simp [missing] at found
  · next again =>
    cases found.symm.trans again
    by_cases seen : name ∈ visiting
    · simp [seen, referenceOf]
    · cases refers : target.reference <;> simp [seen, referenceOf, Schema.empty]

theorem resolveReference_seen (found : target? table locator = some (name, target))
    (seen : name ∈ visiting) :
    resolveReference table visiting locator
      = { Schema.empty with reference := some (referenceOf locator) } := by
  rw [resolveReference_found found, if_pos seen]

theorem resolveReference_alias {next : String}
    (found : target? table locator = some (name, target)) (fresh : name ∉ visiting)
    (refers : target.reference = some next) :
    resolveReference table visiting locator
      = { resolveReference table (name :: visiting) next with
          reference := some (referenceOf locator) } := by
  rw [resolveReference_found found, if_neg fresh, refers]

theorem resolveReference_entry (found : target? table locator = some (name, target))
    (fresh : name ∉ visiting) (plain : target.reference = none) :
    resolveReference table visiting locator
      = { Schema.empty with
          type? := target.schemaType
          items := target.items.map
            (WrittenSchema.resolveWith (resolveReference table (name :: visiting)))
          reference := some (referenceOf locator)
          title := target.title } := by
  rw [resolveReference_found found, if_neg fresh, plain]

end Locators

/-- Two entries that references see alike: a reference takes the same from both. -/
structure Alike (one other : WrittenSchema) : Prop where
  reference : other.reference = one.reference
  type : other.schemaType = one.schemaType
  items : other.items = one.items
  title : other.title = one.title

/-- Two tables in which a locator addresses entries of one name that are alike, or none. -/
def AlikeTargets (table other : Members WrittenSchema) : Prop :=
  ∀ locator, Option.Rel (fun one second => second.1 = one.1 ∧ Alike one.2 second.2)
    (target? table locator) (target? other locator)

theorem resolveReference_alike {table other : Members WrittenSchema}
    (alike : AlikeTargets table other) (visiting : List String) (locator : String) :
    resolveReference other visiting locator = resolveReference table visiting locator := by
  -- The names being visited are passed on alike, so the recursion over one table is that of both.
  induction visiting, locator using resolveReference.induct table with
  | case1 visiting locator ih =>
    have targets := alike locator
    cases found : target? table locator with
    | none =>
      rw [found] at targets
      cases missing : target? other locator with
      | none => rw [resolveReference_missing _ found, resolveReference_missing _ missing]
      | some pair => rw [missing] at targets; cases targets
    | some pair =>
      rw [found] at targets
      cases foundToo : target? other locator with
      | none => rw [foundToo] at targets; cases targets
      | some second =>
        rw [foundToo] at targets
        obtain ⟨name, target⟩ := pair
        obtain ⟨otherName, otherTarget⟩ := second
        cases targets with
        | some both =>
          obtain ⟨sameName, same⟩ := both
          obtain rfl : name = otherName := sameName.symm
          by_cases seen : name ∈ visiting
          · rw [resolveReference_seen found seen, resolveReference_seen foundToo seen]
          · have inner := funext (ih name target found seen)
            cases refers : target.reference with
            | some next =>
              have refersToo := same.reference.trans refers
              rw [resolveReference_alias found seen refers,
                resolveReference_alias foundToo seen refersToo, inner]
            | none =>
              have plainToo := same.reference.trans refers
              rw [resolveReference_entry found seen refers,
                resolveReference_entry foundToo seen plainToo, inner, same.type, same.items,
                same.title]

/-- What a schema resolves to is told by what its locators address. -/
theorem resolve_alike {table other : Members WrittenSchema} (alike : AlikeTargets table other)
    (written : WrittenSchema) : written.resolve other = written.resolve table := by
  have follow : resolveReference other [] = resolveReference table [] :=
    funext (resolveReference_alike alike [])
  rw [WrittenSchema.resolve, WrittenSchema.resolve, follow]

/-- The chain of references of a written schema ends at the schema `last`: every locator on it
addresses an entry of the table that is not in `visiting` and not on the chain before. -/
inductive EndsAt (table : Members WrittenSchema) :
    List String → WrittenSchema → WrittenSchema → Prop where
  | here {visiting : List String} {written : WrittenSchema} (plain : written.reference = none) :
      EndsAt table visiting written written
  | next {visiting : List String} {written target last : WrittenSchema} {locator name : String}
      (refers : written.reference = some locator)
      (found : target? table locator = some (name, target)) (fresh : name ∉ visiting)
      (tail : EndsAt table (name :: visiting) target last) : EndsAt table visiting written last

section Chains
variable {table : Members WrittenSchema} {visiting : List String} {written last : WrittenSchema}

theorem chainEnd?_plain (plain : written.reference = none) :
    chainEnd? table visiting written = some written := by
  rw [chainEnd?, plain]

theorem chainEnd?_missing {locator : String} (refers : written.reference = some locator)
    (missing : target? table locator = none) : chainEnd? table visiting written = none := by
  rw [chainEnd?, refers]
  simp only
  split
  · rfl
  · next found => simp [missing] at found

theorem chainEnd?_found {locator name : String} {target : WrittenSchema}
    (refers : written.reference = some locator)
    (found : target? table locator = some (name, target)) :
    chainEnd? table visiting written =
      if name ∈ visiting then none else chainEnd? table (name :: visiting) target := by
  rw [chainEnd?, refers]
  simp only
  split
  · next missing => simp [missing] at found
  · next again =>
    cases found.symm.trans again
    simp

/-- The search finds the end of a chain exactly when the chain has one. -/
theorem chainEnd?_eq_some_iff :
    chainEnd? table visiting written = some last ↔ EndsAt table visiting written last := by
  constructor
  · intro search
    -- The search recurses on the entry a locator addresses, so its own cases are those of the chain.
    induction visiting, written using chainEnd?.induct table with
    | case1 visiting written plain =>
      rw [chainEnd?_plain plain, Option.some.injEq] at search
      exact search ▸ .here plain
    | case2 visiting written locator refers missing =>
      rw [chainEnd?_missing refers missing] at search
      cases search
    | case3 visiting written locator refers name target found seen =>
      rw [chainEnd?_found refers found, if_pos seen] at search
      cases search
    | case4 visiting written locator refers name target found fresh ih =>
      rw [chainEnd?_found refers found, if_neg fresh] at search
      exact .next refers found fresh (ih search)
  · intro chain
    induction chain with
    | here plain => exact chainEnd?_plain plain
    | next refers found fresh _ ih => rw [chainEnd?_found refers found, if_neg fresh, ih]

theorem endsAt_plain (chain : EndsAt table visiting written last) : last.reference = none := by
  induction chain with
  | here plain => exact plain
  | next _ _ _ _ ih => exact ih

/-- A chain that ends does so while fewer names are being visited. -/
theorem endsAt_mono {fewer : List String} (chain : EndsAt table visiting written last)
    (subset : fewer ⊆ visiting) : EndsAt table fewer written last := by
  induction chain generalizing fewer with
  | here plain => exact .here plain
  | next refers found fresh _ ih =>
    refine .next refers found (fun member => fresh (subset member)) (ih ?_)
    exact List.cons_subset_cons _ subset

theorem endsAt_member (chain : EndsAt table visiting written last) :
    last = written ∨ ∃ name, (name, last) ∈ table := by
  induction chain with
  | here _ => exact Or.inl rfl
  | @next _ _ target _ _ name _ found _ _ ih =>
    rcases ih with rfl | inside
    · exact Or.inr ⟨name, name_mem_of_target? found⟩
    · exact Or.inr inside

end Chains

theorem resolveEntry_endsAt {table : Members WrittenSchema} {name : String}
    {written last : WrittenSchema} (chain : EndsAt table [name] written last) :
    resolveEntry table name written = last.resolve table := by
  rw [resolveEntry, chainEnd?_eq_some_iff.mpr chain]

theorem resolveEntry_stuck {table : Members WrittenSchema} {name : String}
    {written : WrittenSchema} (stuck : ∀ last, ¬ EndsAt table [name] written last) :
    resolveEntry table name written = written.resolve table := by
  have noEnd : chainEnd? table [name] written = none := by
    refine Option.eq_none_iff_forall_ne_some.mpr fun last found => ?_
    exact stuck last (chainEnd?_eq_some_iff.mp found)
  rw [resolveEntry, noEnd]

end SchemaDecls
