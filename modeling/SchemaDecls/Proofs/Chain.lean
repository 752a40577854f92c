import SchemaDecls.Proofs.Resolution

/-!
Chains of references by the names on them. From a locator the chain steps from entry to entry until
an entry has no reference of its own, or it leaves the table, or it comes back. Every locator has
one chain, and what the locator resolves to is read off its end.
-/
namespace SchemaDecls

/-- How a chain of references ends: at an entry that is no reference, outside the table, or at an
entry that is being visited or that the chain has been at before. -/
inductive ChainEnd where
  | entry (name : String) (last : WrittenSchema)
  | outside
  | cycle

/-- The chain that begins with a locator: it steps to the entries `names`, one after the other, and
then ends. It never steps to an entry that is in `visiting` or already on it. -/
inductive Leads (table : Members WrittenSchema) :
    List String → String → List String → ChainEnd → Prop where
  | outside {visiting : List String} {locator : String} (missing : target? table locator = none) :
      Leads table visiting locator [] .outside
  | cycle {visiting : List String} {locator name : String} {target : WrittenSchema}
      (found : target? table locator = some (name, target)) (seen : name ∈ visiting) :
      Leads table visiting locator [] .cycle
  | entry {visiting : List String} {locator name : String} {target : WrittenSchema}
      (found : target? table locator = some (name, target)) (fresh : name ∉ visiting)
      (plain : target.reference = none) :
      Leads table visiting locator [name] (.entry name target)
  | step {visiting names : List String} {locator name next : String} {target : WrittenSchema}
      {ending : ChainEnd} (found : target? table locator = some (name, target))
      (fresh : name ∉ visiting) (refers : target.reference = some next)
      (tail : Leads table (name :: visiting) next names ending) :
      Leads table visiting locator (name :: names) ending

/-- What a locator resolves to, given the end of its chain and all entries visited up to there. -/
def ChainEnd.schema (table : Members WrittenSchema) (visited : List String) (locator : String) :
    ChainEnd → Schema
  | .entry _ last =>
    { type? := last.schemaType
      properties := none
      required := none
      items := last.items.map (WrittenSchema.resolveWith (resolveReference table visited))
      reference := some ⟨Pointer.componentName? locator, some locator⟩
      title := last.title }
  | .outside =>
    { Schema.ofType .object with
      reference := some ⟨Pointer.componentName? locator, some locator⟩ }
  | .cycle =>
    { Schema.empty with reference := some ⟨Pointer.componentName? locator, some locator⟩ }

section Leads
variable {table : Members WrittenSchema} {visiting : List String} {locator : String}

/-- Every locator has a chain. -/
theorem leads_total (table : Members WrittenSchema) (visiting : List String) (locator : String) :
    ∃ names ending, Leads table visiting locator names ending := by
  -- By the recursion of the resolver, which visits the entries of the chain.
  induction visiting, locator using resolveReference.induct table with
  | case1 visiting locator ih =>
    cases found : target? table locator with
    | none => exact ⟨[], .outside, .outside found⟩
    | some pair =>
      obtain ⟨name, target⟩ := pair
      by_cases seen : name ∈ visiting
      · exact ⟨[], .cycle, .cycle found seen⟩
      · cases refers : target.reference with
        | none => exact ⟨[name], .entry name target, .entry found seen refers⟩
        | some next =>
          obtain ⟨names, ending, tail⟩ := ih name target found seen next
          exact ⟨name :: names, ending, .step found seen refers tail⟩

/-- A locator has no second chain. -/
theorem leads_unique {names others : List String} {ending other : ChainEnd}
    (one : Leads table visiting locator names ending)
    (second : Leads table visiting locator others other) : others = names ∧ other = ending := by
  induction one generalizing others other with
  | outside missing =>
    cases second with
    | outside _ => exact ⟨rfl, rfl⟩
    | cycle found _ | entry found _ _ | step found _ _ _ => simp [missing] at found
  | cycle found seen =>
    cases second with
    | outside missing => simp [found] at missing
    | cycle _ _ => exact ⟨rfl, rfl⟩
    | entry again fresh _ | step again fresh _ _ =>
      cases found.symm.trans again
      exact absurd seen fresh
  | entry found fresh plain =>
    cases second with
    | outside missing => simp [found] at missing
    | cycle again seen =>
      cases found.symm.trans again
      exact absurd seen fresh
    | entry again _ _ =>
      cases found.symm.trans again
      exact ⟨rfl, rfl⟩
    | step again _ refers _ =>
      cases found.symm.trans again
      simp [plain] at refers
  | step found fresh refers tail ih =>
    cases second with
    | outside missing => simp [found] at missing
    | cycle again seen =>
      cases found.symm.trans again
      exact absurd seen fresh
    | entry again _ plain =>
      cases found.symm.trans again
      simp [refers] at plain
    | step again _ refersAgain rest =>
      cases found.symm.trans again
      cases refers.symm.trans refersAgain
      obtain ⟨rfl, rfl⟩ := ih rest
      exact ⟨rfl, rfl⟩

/-- A locator resolves to the schema at the end of its chain. -/
theorem resolveReference_of_leads {names : List String} {ending : ChainEnd}
    (leads : Leads table visiting locator names ending) :
    resolveReference table visiting locator
      = ending.schema table (names.reverse ++ visiting) locator := by
  induction leads with
  | outside missing => exact resolveReference_missing _ missing
  | cycle found seen => exact resolveReference_seen found seen
  | entry found fresh plain => exact resolveReference_entry found fresh plain
  | @step visiting names locator name next target ending found fresh refers tail ih =>
    rw [resolveReference_alias found fresh refers, ih, List.reverse_cons, List.append_assoc]
    cases ending <;> rfl

/-- The entry at the end of a chain stands in the table and has no reference. -/
theorem leads_entry {names : List String} {name : String} {last : WrittenSchema}
    (leads : Leads table visiting locator names (.entry name last)) :
    (name, last) ∈ table ∧ last.reference = none := by
  generalize ended : ChainEnd.entry name last = ending at leads
  induction leads with
  | outside _ => cases ended
  | cycle _ _ => cases ended
  | entry found _ plain =>
    cases ended
    exact ⟨name_mem_of_target? found, plain⟩
  | step _ _ _ _ ih => exact ih ended

end Leads

/-- Resolving a locator while the entries `visiting` are being resolved follows its one chain: the
schema is that of the end of the chain, with items resolved while the chain is being visited too. -/
theorem resolveReference_follows_chain (table : Members WrittenSchema) (visiting : List String)
    (locator : String) :
    ∃ names ending,
      (∀ others other, Leads table visiting locator others other ↔
        others = names ∧ other = ending) ∧
      resolveReference table visiting locator
        = ending.schema table (names.reverse ++ visiting) locator := by
  obtain ⟨names, ending, leads⟩ := leads_total table visiting locator
  refine ⟨names, ending, fun others other => ?_, resolveReference_of_leads leads⟩
  constructor
  · exact leads_unique leads
  · rintro ⟨rfl, rfl⟩
    exact leads

namespace WrittenSchema

/-- A schema that is nothing but a reference. -/
def ofReference (locator : String) : WrittenSchema :=
  { WrittenSchema.empty with reference := some locator }

/-- A schema of one type, without other keywords. -/
def ofType (name : String) : WrittenSchema :=
  { WrittenSchema.empty with type? := some (.one name) }

end WrittenSchema
end SchemaDecls
