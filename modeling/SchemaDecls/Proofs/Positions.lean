import SchemaDecls.Proofs.Checkpoint
import SchemaDecls.Proofs.PointerSegments
import SchemaDecls.Proofs.Resolution

/-!
Positions inside a schema: the steps that lead to it from the schema of an entry. Every checkpoint
of the walk stands at a position, with the path that the position spells, and every failure is the
offense of a schema at a position. A position of a written schema never steps behind a reference.
-/
namespace SchemaDecls

inductive Step where
  | property (key : String)
  | items
deriving DecidableEq, Repr

def Step.segments : Step → List String
  | .property key => ["properties", key]
  | .items => ["items"]

def stepSegments (steps : List Step) : List String := steps.flatMap Step.segments

theorem stepSegments_append (first second : List Step) :
    stepSegments (first ++ second) = stepSegments first ++ stepSegments second := by
  rw [stepSegments, List.flatMap_append]
  rfl

/-- The steps lead from a schema to the one inside it. -/
inductive Schema.At : Schema → List Step → Schema → Prop where
  | here {schema : Schema} : At schema [] schema
  | property {schema property inner : Schema} {key : String} {steps : List Step}
      (member : (key, property) ∈ schema.properties.getD []) (inside : At property steps inner) :
      At schema (.property key :: steps) inner
  | items {schema items inner : Schema} {steps : List Step}
      (declared : schema.items = some items) (inside : At items steps inner) :
      At schema (.items :: steps) inner

theorem Schema.at_append {root middle last : Schema} {first second : List Step}
    (one : root.At first middle) (other : middle.At second last) :
    root.At (first ++ second) last := by
  induction one with
  | here => exact other
  | property member _ ih => exact .property member (ih other)
  | items declared _ ih => exact .items declared (ih other)

/-- The text that names the schema at a position: the name of the whole at its root, the key of a
property, the title of array items. -/
def nameAt (name : String) (steps : List Step) (schema : Schema) : Option String :=
  match steps.getLast? with
  | none => some name
  | some (.property key) => some key
  | some .items => itemTypeName? schema

/-- A checkpoint of the walk from `root` belongs to the schema at a position. -/
inductive Stands (root : Visit) (steps : List Step) (schema : Schema) : Checkpoint → Prop where
  | identifier {text : String} (named : nameAt root.name steps schema = some text) :
      Stands root steps schema (.identifier text (Pointer.extend root.path (stepSegments steps)))
  | type : Stands root steps schema (.type schema (Pointer.extend root.path (stepSegments steps)))

/-- Seen from further out, a checkpoint stands behind the steps that lead to the inner object. -/
theorem stands_outside {root nested : Visit} {outer steps : List Step} {schema : Schema}
    {checkpoint : Checkpoint}
    (path : nested.path = Pointer.extend root.path (stepSegments outer))
    (named : nameAt root.name outer nested.object = some nested.name)
    (inside : nested.object.At steps schema) (stands : Stands nested steps schema checkpoint) :
    Stands root (outer ++ steps) schema checkpoint := by
  have samePath : Pointer.extend nested.path (stepSegments steps)
      = Pointer.extend root.path (stepSegments (outer ++ steps)) := by
    rw [path, stepSegments_append, Pointer.extend_append]
  have sameName : nameAt root.name (outer ++ steps) schema = nameAt nested.name steps schema := by
    cases inside with
    | here => rw [List.append_nil, named, nameAt, List.getLast?_nil]
    | @property _ _ _ key rest _ _ =>
      simp only [nameAt, List.getLast?_append, List.getLast?_cons, Option.some_or]
      cases rest.getLast?.getD (.property key) <;> rfl
    | @items _ _ _ rest _ _ =>
      simp only [nameAt, List.getLast?_append, List.getLast?_cons, Option.some_or]
      cases rest.getLast?.getD .items <;> rfl
  cases stands with
  | identifier name =>
    rw [samePath]
    exact .identifier (sameName.trans name)
  | type =>
    rw [samePath]
    exact .type

/-- Every checkpoint of a walk stands at a position of the object that is walked. -/
theorem checkpoint_stands {root : Visit} {checkpoint : Checkpoint}
    (noted : checkpoint ∈ root.checkpoints) :
    ∃ steps schema, root.object.At steps schema ∧ Stands root steps schema checkpoint := by
  induction root using Visit.walk_induction with
  | step root ih =>
    rw [Visit.checkpoints_eq, List.mem_cons, List.mem_flatMap] at noted
    rcases noted with rfl | ⟨⟨key, property⟩, member, noted⟩
    · exact ⟨[], root.object, .here, .identifier rfl⟩
    · have toProperty : root.object.At [.property key] property := .property member .here
      rcases List.mem_append.mp noted with nested | own
      · cases found : Visit.inner? key (root.propertyPath key) property with
        | none => simp [found] at nested
        | some visit =>
          simp only [found, Option.elim_some] at nested
          obtain ⟨steps, schema, inside, stands⟩ := ih key property visit member found nested
          rcases Visit.inner?_cases found with
            ⟨_, _, rfl⟩ | ⟨_, items, name, declared, _, _, titled, rfl⟩
          · exact ⟨_, schema, Schema.at_append toProperty inside,
              stands_outside rfl rfl inside stands⟩
          · have toItems := Schema.at_append toProperty (.items declared .here)
            have named : nameAt root.name ([.property key] ++ [.items]) items = some name := titled
            exact ⟨_, schema, Schema.at_append toItems inside,
              stands_outside rfl named inside stands⟩
      · simp only [List.mem_cons, List.not_mem_nil, or_false] at own
        rcases own with rfl | rfl
        · exact ⟨_, property, toProperty, .identifier rfl⟩
        · exact ⟨_, property, toProperty, .type⟩

/-- What is wrong with a schema at a position of the entry `name`. The failure reports the position
of that schema; where an array declares no items, it reports the position that they would have. -/
inductive Offense (name : String) (root : Schema) :
    (reported place : List Step) → Schema → Defect → Prop where
  | name {place : List Step} {schema : Schema} {text : String} (stands : root.At place schema)
      (named : nameAt name place schema = some text) (empty : Name.pascal text = "") :
      Offense name root place place schema (.emptyIdentifier text)
  | typeless {place : List Step} {property : Schema} (stands : root.At place property)
      (untyped : property.type? = none) : Offense name root place place property .typeRequired
  | null {place : List Step} {property : Schema} (stands : root.At place property)
      (written : property.type? = some .null) :
      Offense name root place place property (.unsupportedType "null")
  | unknown {place : List Step} {property : Schema} {text : String}
      (stands : root.At place property) (written : property.type? = some (.other text)) :
      Offense name root place place property (.unknownType text)
  | items {place : List Step} {array items : Schema} {defect : Defect}
      (stands : root.At place array) (type : array.type? = some .array)
      (declared : array.items = some items) (fault : ItemsFault (some items) defect) :
      Offense name root (place ++ [.items]) (place ++ [.items]) items defect
  | undeclared {place : List Step} {array : Schema} (stands : root.At place array)
      (type : array.type? = some .array) (missing : array.items = none) :
      Offense name root (place ++ [.items]) place array .unsupportedItems

/-- The offending schema stands at its position. -/
theorem offense_stands {name : String} {root schema : Schema} {reported place : List Step}
    {defect : Defect} (offense : Offense name root reported place schema defect) :
    root.At place schema := by
  cases offense with
  | name stands _ _ | typeless stands _ | null stands _ | unknown stands _
  | undeclared stands _ _ => exact stands
  | items stands _ declared _ => exact Schema.at_append stands (.items declared .here)

/-- A fault at a checkpoint is the offense of the schema that the checkpoint stands for. -/
theorem offense_of_fault {root : Visit} {steps : List Step} {schema : Schema}
    {checkpoint : Checkpoint} {failure : SchemaFailure} (inside : root.object.At steps schema)
    (stands : Stands root steps schema checkpoint) (fault : checkpoint.Fault failure) :
    ∃ reported place offender,
      Offense root.name root.object reported place offender failure.defect ∧
        failure.path = Pointer.extend root.path (stepSegments reported) := by
  cases stands with
  | identifier named =>
    cases fault with
    | identifier empty => exact ⟨steps, steps, schema, .name inside named empty, rfl⟩
  | type =>
    cases fault with
    | type fault =>
      cases fault with
      | absent untyped => exact ⟨steps, steps, schema, .typeless inside untyped, rfl⟩
      | null written => exact ⟨steps, steps, schema, .null inside written, rfl⟩
      | unknown written => exact ⟨steps, steps, schema, .unknown inside written, rfl⟩
      | items array fault =>
        have path : Pointer.push (Pointer.extend root.path (stepSegments steps)) "items"
            = Pointer.extend root.path (stepSegments (steps ++ [.items])) := by
          rw [stepSegments_append, Pointer.extend_append]
          rfl
        cases declared : schema.items with
        | none =>
          rw [declared] at fault
          cases fault
          exact ⟨_, steps, schema, .undeclared inside array declared, path⟩
        | some items =>
          rw [declared] at fault
          exact ⟨_, _, items, .items inside array declared fault, path⟩

/-- The steps lead from a written schema to the one inside it, and no schema passed on the way is a
reference. -/
inductive WrittenSchema.At : WrittenSchema → List Step → WrittenSchema → Prop where
  | here {written : WrittenSchema} : At written [] written
  | property {written property inner : WrittenSchema} {key : String} {steps : List Step}
      (plain : written.reference = none) (member : (key, property) ∈ written.properties.getD [])
      (inside : At property steps inner) : At written (.property key :: steps) inner
  | items {written items inner : WrittenSchema} {steps : List Step}
      (plain : written.reference = none) (declared : written.items = some items)
      (inside : At items steps inner) : At written (.items :: steps) inner

/-- No schema above the position is a reference. -/
def InPlace (written : WrittenSchema) (place : List Step) : Prop :=
  ∀ before after above, place = before ++ after → after ≠ [] → written.At before above →
    above.reference = none

theorem inPlace_plain {written : WrittenSchema} {step : Step} {steps : List Step}
    (inPlace : InPlace written (step :: steps)) : written.reference = none :=
  inPlace [] (step :: steps) written rfl (List.cons_ne_nil _ _) .here

theorem inPlace_here {written : WrittenSchema} : InPlace written [] := by
  intro before after above split more _
  exact absurd (List.append_eq_nil_iff.mp split.symm).2 more

theorem inPlace_property {written property : WrittenSchema} {key : String} {steps : List Step}
    (plain : written.reference = none)
    (unique : ∀ other, (key, other) ∈ written.properties.getD [] → other = property)
    (below : InPlace property steps) : InPlace written (.property key :: steps) := by
  intro before after above split more stands
  cases stands with
  | here => exact plain
  | @property _ other _ again rest _ member inside =>
    obtain ⟨same, onward⟩ := List.cons.inj split
    cases same
    cases unique other member
    exact below rest after above onward more inside
  | items _ _ _ => cases split

theorem inPlace_items {written items : WrittenSchema} {steps : List Step}
    (plain : written.reference = none) (declared : written.items = some items)
    (below : InPlace items steps) : InPlace written (.items :: steps) := by
  intro before after above split more stands
  cases stands with
  | here => exact plain
  | property _ _ _ => cases split
  | @items _ other _ rest _ again inside =>
    cases declared.symm.trans again
    exact below rest after above (List.cons.inj split).2 more inside

/-- A schema that stands in place was resolved from the schema written at its position. -/
theorem written_of_inPlace {table : Members WrittenSchema} {written : WrittenSchema}
    {place : List Step} {schema : Schema} (stands : (written.resolve table).At place schema)
    (inPlace : InPlace written place) :
    ∃ source, written.At place source ∧ schema = source.resolve table := by
  generalize resolved : written.resolve table = whole at stands
  induction stands generalizing written with
  | here => exact ⟨written, .here, resolved.symm⟩
  | @property whole property inner key steps member inside ih =>
    have plain := inPlace_plain inPlace
    rw [WrittenSchema.resolve, WrittenSchema.resolveWith_plain _ plain] at resolved
    subst resolved
    cases listed : written.properties with
    | none => simp [listed] at member
    | some entries =>
      simp only [listed, Option.map_some, Option.getD_some, List.mem_map, Prod.mk.injEq] at member
      obtain ⟨⟨key, source⟩, entry, rfl, rfl⟩ := member
      have toProperty : (key, source) ∈ written.properties.getD [] := by rwa [listed]
      have below : InPlace source steps := by
        intro before after above split more stands
        exact inPlace (.property _ :: before) after above (by rw [split]; rfl) more
          (.property plain toProperty stands)
      obtain ⟨last, stands, same⟩ := ih below rfl
      exact ⟨last, .property plain toProperty stands, same⟩
  | @items whole items inner steps declared inside ih =>
    have plain := inPlace_plain inPlace
    rw [WrittenSchema.resolve, WrittenSchema.resolveWith_plain _ plain] at resolved
    subst resolved
    obtain ⟨source, toItems, rfl⟩ := Option.map_eq_some_iff.mp declared
    have below : InPlace source steps := by
      intro before after above split more stands
      exact inPlace (.items :: before) after above (by rw [split]; rfl) more
        (.items plain toItems stands)
    obtain ⟨last, stands, same⟩ := ih below rfl
    exact ⟨last, .items plain toItems stands, same⟩

end SchemaDecls
