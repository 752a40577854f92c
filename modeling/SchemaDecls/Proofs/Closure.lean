import SchemaDecls.Proofs.Outcome
import SchemaDecls.Proofs.Resolution

/-!
Closed documents. In a document whose references all name entries of its own table, a reference to
an object always names an entry that declares a type, so every class name that the units take from
a reference is the name of a unit.
-/
namespace SchemaDecls

namespace WrittenSchema

mutual

/-- The locators of all references in a written schema, at any depth. -/
def locators : WrittenSchema → List String
  | ⟨reference, _, _, properties, _, items⟩ =>
    reference.toList ++ propertyLocators? properties ++ itemLocators? items

def propertyLocators? : Option (List (String × WrittenSchema)) → List String
  | none => []
  | some properties => propertyLocators properties

def propertyLocators : List (String × WrittenSchema) → List String
  | [] => []
  | (_, property) :: rest => locators property ++ propertyLocators rest

def itemLocators? : Option WrittenSchema → List String
  | none => []
  | some items => locators items

end

variable {written : WrittenSchema} {locator : String}

theorem reference_mem_locators (refers : written.reference = some locator) :
    locator ∈ written.locators := by
  obtain ⟨reference, type, title, properties, required, items⟩ := written
  cases refers
  simp [locators]

theorem mem_propertyLocators {properties : List (String × WrittenSchema)} {key : String}
    {property : WrittenSchema} (member : (key, property) ∈ properties)
    (inside : locator ∈ property.locators) : locator ∈ propertyLocators properties := by
  induction properties with
  | nil => simp at member
  | cons entry rest ih =>
    obtain ⟨other, first⟩ := entry
    rw [propertyLocators, List.mem_append]
    rcases List.mem_cons.mp member with same | later
    · cases same
      exact Or.inl inside
    · exact Or.inr (ih later)

theorem property_locators_subset {key : String} {property : WrittenSchema}
    (member : (key, property) ∈ written.properties.getD []) :
    property.locators ⊆ written.locators := by
  intro locator inside
  obtain ⟨reference, type, title, properties, required, items⟩ := written
  cases properties with
  | none => simp at member
  | some properties =>
    have collected := mem_propertyLocators member inside
    simp only [locators, propertyLocators?, List.mem_append]
    exact Or.inl (Or.inr collected)

theorem items_locators_subset {items : WrittenSchema} (declared : written.items = some items) :
    items.locators ⊆ written.locators := by
  intro locator inside
  obtain ⟨reference, type, title, properties, required, _⟩ := written
  cases declared
  simp only [locators, itemLocators?, List.mem_append]
  exact Or.inr inside

end WrittenSchema

/-- Every locator in the table, at any depth, is local and names an entry of the table. -/
def Closed (table : Members WrittenSchema) : Prop :=
  ∀ entry ∈ table, ∀ locator ∈ entry.2.locators, Pointer.isLocal locator = true ∧
    ∃ name ∈ table.keys, Pointer.componentName? locator = some name

instance (table : Members WrittenSchema) : Decidable (Closed table) :=
  inferInstanceAs (Decidable (∀ entry ∈ table, ∀ locator ∈ entry.2.locators,
    Pointer.isLocal locator = true ∧
      ∃ name ∈ table.keys, Pointer.componentName? locator = some name))

/-- Every reference to an object in a schema, at any depth, has a name that satisfies `declared`. -/
inductive Grounded (declared : String → Prop) : Schema → Prop where
  | intro {schema : Schema}
      (reference : ∀ reference, schema.reference = some reference →
        schema.type? = some .object → ∃ name, reference.id = some name ∧ declared name)
      (properties : ∀ key property, (key, property) ∈ schema.properties.getD [] →
        Grounded declared property)
      (items : ∀ items, schema.items = some items → Grounded declared items) :
      Grounded declared schema

section Grounded
variable {declared : String → Prop} {schema : Schema}

theorem grounded_reference (grounded : Grounded declared schema) {reference : Reference}
    (refers : schema.reference = some reference) (object : schema.type? = some .object) :
    ∃ name, reference.id = some name ∧ declared name := by
  cases grounded with
  | intro known _ _ => exact known reference refers object

theorem grounded_property (grounded : Grounded declared schema) {key : String} {property : Schema}
    (member : (key, property) ∈ schema.properties.getD []) : Grounded declared property := by
  cases grounded with
  | intro _ properties _ => exact properties key property member

theorem grounded_items (grounded : Grounded declared schema) {items : Schema}
    (written : schema.items = some items) : Grounded declared items := by
  cases grounded with
  | intro _ _ inside => exact inside items written

theorem resolveWith_grounded (follow : String → Schema) (written : WrittenSchema)
    (followed : ∀ locator ∈ written.locators, Grounded declared (follow locator)) :
    Grounded declared (written.resolveWith follow) := by
  induction written using WrittenSchema.keyword_induction with
  | step written properties items =>
    cases refers : written.reference with
    | some locator =>
      rw [WrittenSchema.resolveWith_reference follow refers]
      exact followed locator (WrittenSchema.reference_mem_locators refers)
    | none =>
      rw [WrittenSchema.resolveWith_plain follow refers]
      refine .intro (by simp) (fun key property member => ?_) (fun inner resolved => ?_)
      · cases listed : written.properties with
        | none => simp [listed] at member
        | some entries =>
          simp only [listed, Option.map_some, Option.getD_some, List.mem_map, Prod.mk.injEq]
            at member
          obtain ⟨⟨key, source⟩, inside, rfl, rfl⟩ := member
          have member : (key, source) ∈ written.properties.getD [] := by simpa [listed] using inside
          refine properties key source member fun locator mentioned => ?_
          exact followed locator (WrittenSchema.property_locators_subset member mentioned)
      · obtain ⟨source, declares, rfl⟩ := Option.map_eq_some_iff.mp resolved
        refine items source declares fun locator mentioned => ?_
        exact followed locator (WrittenSchema.items_locators_subset declares mentioned)

end Grounded

section Closed
variable {table : Members WrittenSchema}

theorem closed_target (closed : Closed table) {source : String} {written : WrittenSchema}
    (entry : (source, written) ∈ table) {locator : String} (mentioned : locator ∈ written.locators) :
    ∃ name target, target? table locator = some (name, target) := by
  obtain ⟨onPage, name, known, component⟩ := closed _ entry locator mentioned
  obtain ⟨target, found⟩ := Members.find?_of_mem_keys known
  exact ⟨name, target, target?_eq_some_iff.mpr ⟨onPage, component, found⟩⟩

/-- An entry of the table whose chain of references ends at an object. -/
def EndsAtObject (table : Members WrittenSchema) (name : String) : Prop :=
  ∃ written last, table.find? name = some written ∧ EndsAt table [name] written last ∧
    last.schemaType = some .object

/-- In a closed table a locator resolves to an object only where its chain ends at one. -/
theorem resolveReference_object (closed : Closed table) (visiting : List String)
    (locator : String) {name : String} {target : WrittenSchema}
    (found : target? table locator = some (name, target))
    (object : (resolveReference table visiting locator).type? = some .object) :
    name ∉ visiting ∧ ∃ last, EndsAt table (name :: visiting) target last ∧
      last.schemaType = some .object := by
  -- The resolver and the chain step to the same entry and visit it from then on.
  induction visiting, locator using resolveReference.induct table generalizing name target with
  | case1 visiting locator ih =>
    by_cases seen : name ∈ visiting
    · simp [resolveReference_seen found seen, Schema.empty] at object
    · refine ⟨seen, ?_⟩
      cases refers : target.reference with
      | none =>
        rw [resolveReference_entry found seen refers] at object
        exact ⟨target, .here refers, object⟩
      | some next =>
        rw [resolveReference_alias found seen refers] at object
        have mentioned := WrittenSchema.reference_mem_locators refers
        obtain ⟨after, end', continued⟩ :=
          closed_target closed (name_mem_of_target? found) mentioned
        obtain ⟨fresh, last, chain, type⟩ := ih name target found seen next continued object
        exact ⟨last, .next refers continued fresh chain, type⟩

theorem endsAtObject_of_resolveReference (closed : Closed table) {visiting : List String}
    {locator name : String} {target : WrittenSchema}
    (found : target? table locator = some (name, target))
    (object : (resolveReference table visiting locator).type? = some .object) :
    EndsAtObject table name := by
  obtain ⟨_, last, chain, type⟩ := resolveReference_object closed visiting locator found object
  refine ⟨target, last, (target?_eq_some_iff.mp found).2.2, endsAt_mono chain ?_, type⟩
  simp

theorem resolveReference_reference (table : Members WrittenSchema) (visiting : List String)
    (locator : String) :
    (resolveReference table visiting locator).reference = some (referenceOf locator) := by
  rw [resolveReference]
  rfl

/-- In a closed table every locator resolves to a grounded schema. -/
theorem resolveReference_grounded (closed : Closed table) (visiting : List String)
    (locator : String) {name : String} {target : WrittenSchema}
    (found : target? table locator = some (name, target)) :
    Grounded (EndsAtObject table) (resolveReference table visiting locator) := by
  -- By the recursion of the resolver, which enters aliases and the items of entries.
  induction visiting, locator using resolveReference.induct table generalizing name target with
  | case1 visiting locator ih =>
    have entry := name_mem_of_target? found
    have named : ∀ reference, (resolveReference table visiting locator).reference = some reference →
        (resolveReference table visiting locator).type? = some .object →
        ∃ name, reference.id = some name ∧ EndsAtObject table name := by
      intro reference refers object
      rw [resolveReference_reference, Option.some.injEq] at refers
      subst refers
      exact ⟨name, (target?_eq_some_iff.mp found).2.1,
        endsAtObject_of_resolveReference closed found object⟩
    by_cases seen : name ∈ visiting
    · rw [resolveReference_seen found seen] at named ⊢
      exact .intro named (by simp [Schema.empty]) (by simp [Schema.empty])
    · cases refers : target.reference with
      | none =>
        rw [resolveReference_entry found seen refers] at named ⊢
        refine .intro named (by simp [Schema.empty]) (fun inner resolved => ?_)
        obtain ⟨source, declares, rfl⟩ := Option.map_eq_some_iff.mp resolved
        refine resolveWith_grounded _ source fun next mentioned => ?_
        obtain ⟨after, end', continued⟩ := closed_target closed entry
          (WrittenSchema.items_locators_subset declares mentioned)
        exact ih name target found seen next continued
      | some next =>
        rw [resolveReference_alias found seen refers] at named ⊢
        obtain ⟨after, end', continued⟩ := closed_target closed entry
          (WrittenSchema.reference_mem_locators refers)
        have inner := ih name target found seen next continued
        exact .intro named (fun _ _ member => grounded_property inner member)
          (fun _ declares => grounded_items inner declares)

theorem resolveEntry_grounded (closed : Closed table) {name : String} {written : WrittenSchema}
    (entry : (name, written) ∈ table) :
    Grounded (EndsAtObject table) (resolveEntry table name written) := by
  have grounds : ∀ source schema, (source, schema) ∈ table →
      Grounded (EndsAtObject table) (schema.resolve table) := by
    intro source schema inside
    refine resolveWith_grounded _ schema fun locator mentioned => ?_
    obtain ⟨_, _, found⟩ := closed_target closed inside mentioned
    exact resolveReference_grounded closed [] locator found
  by_cases chain : ∃ last, EndsAt table [name] written last
  · obtain ⟨last, chain⟩ := chain
    rw [resolveEntry_endsAt chain]
    rcases endsAt_member chain with rfl | ⟨source, inside⟩
    · exact grounds name _ entry
    · exact grounds source last inside
  · rw [resolveEntry_stuck (not_exists.mp chain)]
    exact grounds name written entry

end Closed

/-- A class name that a field takes from a reference: the field is of the class, or a list of it. -/
inductive ReferenceClass (property : Schema) : TargetType → String → Prop where
  | property {reference : Reference} {className : String}
      (refers : property.reference = some reference) :
      ReferenceClass property (.named className) className
  | items {items : Schema} {reference : Reference} {className : String}
      (written : property.items = some items) (refers : items.reference = some reference) :
      ReferenceClass property (.list (.named className)) className

theorem referenceClass_grounded {declared : String → Prop} {key className : String}
    {property : Schema} {type : TargetType} (grounded : Grounded declared property)
    (typed : HasType key property type) (taken : ReferenceClass property type className) :
    ∃ name, declared name ∧ className = Name.pascal name := by
  cases taken with
  | property refers =>
    cases typed with
    | primitive _ stands => simp [TargetType.primitive?] at stands
    | reference object again =>
      obtain ⟨name, identified, known⟩ := grounded_reference grounded again object
      exact ⟨name, known, by rw [Reference.label_of_id identified, Option.getD_some]⟩
    | inline _ inPlace => simp [inPlace] at refers
  | items written refers =>
    cases typed with
    | primitive _ stands => simp [TargetType.primitive?] at stands
    | list _ again elements =>
      cases written.symm.trans again
      cases elements with
      | primitive _ stands => simp [TargetType.primitive?] at stands
      | reference object repeated labelled =>
        obtain ⟨name, identified, known⟩ :=
          grounded_reference (grounded_items grounded written) repeated object
        rw [Reference.label_of_id identified, Option.some.injEq] at labelled
        exact ⟨name, known, by rw [labelled]⟩
      | inline _ inPlace _ _ => simp [inPlace] at refers

theorem rootVisit_of_endsAtObject {table : Members WrittenSchema} {name : String}
    (ends : EndsAtObject table name) :
    ∃ visit ∈ tableVisits (table.map fun entry => (entry.1, resolveEntry table entry.1 entry.2)),
      visit.name = name := by
  obtain ⟨written, last, found, chain, type⟩ := ends
  have resolved := resolveEntry_endsAt chain
  rw [WrittenSchema.resolve, WrittenSchema.resolveWith_plain _ (endsAt_plain chain)] at resolved
  refine ⟨⟨name, Pointer.push "/components/schemas" name, resolveEntry table name written⟩, ?_, rfl⟩
  rw [tableVisits, List.mem_flatMap]
  refine ⟨(name, resolveEntry table name written), ?_, ?_⟩
  · exact List.mem_map.mpr ⟨(name, written), Members.mem_of_find? found, rfl⟩
  · have root : rootVisit? name (resolveEntry table name written)
        = some ⟨name, Pointer.push "/components/schemas" name, resolveEntry table name written⟩ := by
      simp [rootVisit?, resolved, type]
    rw [root]
    exact Visit.self_mem_postOrder _

theorem tableVisits_grounded {table : Members WrittenSchema} (closed : Closed table) :
    ∀ visit ∈ tableVisits (table.map fun entry => (entry.1, resolveEntry table entry.1 entry.2)),
      Grounded (EndsAtObject table) visit.object := by
  intro visit walked
  rw [tableVisits, List.mem_flatMap] at walked
  obtain ⟨entry, member, inside⟩ := walked
  obtain ⟨⟨name, written⟩, listed, rfl⟩ := List.mem_map.mp member
  have grounded := resolveEntry_grounded closed listed
  simp only [rootVisit?] at inside
  split at inside
  · exact Visit.postOrder_hereditary (fun _ _ _ start member => grounded_property start member)
      (fun _ _ start declares => grounded_items start declares) grounded inside
  · simp at inside

/-- A closed document compiles to closed units: one unit for each object of the walk, and every
class name that a field takes from a reference is the name of a unit. -/
theorem closed_units_of_closed {written : WrittenDocument} {settings : Settings}
    {units : List SourceUnit} (closed : ∀ table, written.table = some table → Closed table)
    (compiled : written.resolve.compile settings = .ok units) :
    ∃ table, written.resolve.schemas = some table ∧
      List.Forall₂ (fun visit unit => ∃ declaration, Declares visit declaration ∧
          unit = SourceUnit.ofDeclaration (written.resolve.moduleName settings) declaration
            settings.language ∧
          List.Forall₂ (fun entry field => ∀ className,
              ReferenceClass entry.2 field.type className →
              ∃ other ∈ units, other.name = className)
            visit.properties declaration.fields)
        (tableVisits table) units := by
  obtain ⟨resolved, declarations, present, run, rfl⟩ :=
    (compile_eq_ok_iff written.resolve settings units).mp compiled
  refine ⟨resolved, present, ?_⟩
  obtain ⟨table, listed, rfl⟩ := Option.map_eq_some_iff.mp present
  have declared := answers_holds (run ▸ tableDeclarations_answers _)
  have named : ∀ name, EndsAtObject table name →
      ∃ other ∈ unitsOf (written.resolve.moduleName settings) settings.language declarations,
        other.name = Name.pascal name := by
    intro name ends
    obtain ⟨visit, walked, rfl⟩ := rootVisit_of_endsAtObject ends
    obtain ⟨declaration, paired, declares⟩ := declaration_of_mem declared walked
    exact ⟨_, List.mem_map_of_mem (List.of_mem_zip paired).2, declares.name⟩
  rw [unitsOf, List.forall₂_map_right_iff]
  have grounded := (List.forall₂_and_left _ _).mpr ⟨tableVisits_grounded (closed table listed), declared⟩
  refine grounded.imp fun visit declaration pair => ⟨declaration, pair.2, rfl, ?_⟩
  have inside : ∀ entry ∈ visit.properties, Grounded (EndsAtObject table) entry.2 :=
    fun entry member => grounded_property pair.1 member
  refine ((List.forall₂_and_left _ _).mpr ⟨inside, pair.2.fields⟩).imp fun entry field built => ?_
  intro className taken
  obtain ⟨name, ends, rfl⟩ := referenceClass_grounded built.1 built.2.type taken
  exact named name ends

/-- Three entries that refer to each other: through items, through an alias and in properties. -/
def orders : WrittenDocument :=
  let refersTo (name : String) : WrittenSchema :=
    { WrittenSchema.empty with reference := some ("#/components/schemas/" ++ name) }
  let objectOf (properties : List (String × WrittenSchema)) : WrittenSchema :=
    { WrittenSchema.empty with type? := some (.one "object"), properties := some properties }
  let arrayOf (items : WrittenSchema) : WrittenSchema :=
    { WrittenSchema.empty with type? := some (.one "array"), items := some items }
  { WrittenDocument.empty with schemas := some [
    ("order", objectOf [("lines", arrayOf (refersTo "row"))]),
    ("row", refersTo "line"),
    ("line", objectOf [("order", refersTo "order"), ("next", refersTo "row")])] }

theorem closed_units_of_closed_orders :
    ∃ units table, orders.resolve.compile {} = .ok units ∧
      units.map SourceUnit.name = ["Order", "Row", "Line"] ∧
      orders.resolve.schemas = some table ∧
      List.Forall₂ (fun visit unit => ∃ declaration, Declares visit declaration ∧
          unit = SourceUnit.ofDeclaration (orders.resolve.moduleName {}) declaration .csharp ∧
          List.Forall₂ (fun entry field => ∀ className,
              ReferenceClass entry.2 field.type className →
              ∃ other ∈ units, other.name = className)
            visit.properties declaration.fields)
        (tableVisits table) units := by
  have closed : ∀ table, orders.table = some table → Closed table := by
    intro table listed
    cases listed
    decide +kernel
  have named : (orders.resolve.compile {}).map (·.map SourceUnit.name)
      = .ok ["Order", "Row", "Line"] := by decide +kernel
  cases compiled : orders.resolve.compile {} with
  | error failure => simp [compiled, Except.map] at named
  | ok units =>
    simp only [compiled, Except.map, Except.ok.injEq] at named
    obtain ⟨table, present, matched⟩ := closed_units_of_closed closed compiled
    exact ⟨units, table, rfl, named, present, matched⟩

end SchemaDecls
