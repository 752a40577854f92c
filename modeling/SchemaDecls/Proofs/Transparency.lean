import SchemaDecls.Proofs.Chain
import SchemaDecls.Proofs.Declares

/-!
References to anything but objects. Such a reference stands for the entry at the end of its chain:
a property compiles the same whether it refers to the entry or is written out as the entry. The
copy behind the reference is resolved while its chain is being visited, so this needs that the
items of the entry never lead back to the chain.
-/
namespace SchemaDecls

/-- A locator that resolving a schema follows: its own, or else one inside its properties or its
items. What stands beside a reference is not read. -/
inductive Mentions : WrittenSchema → String → Prop where
  | reference {written : WrittenSchema} {locator : String}
      (refers : written.reference = some locator) : Mentions written locator
  | property {written property : WrittenSchema} {key locator : String}
      (plain : written.reference = none)
      (member : (key, property) ∈ written.properties.getD [])
      (inside : Mentions property locator) : Mentions written locator
  | items {written items : WrittenSchema} {locator : String} (plain : written.reference = none)
      (declared : written.items = some items) (inside : Mentions items locator) :
      Mentions written locator

/-- An entry that a locator leads to: its target, and what the target leads to, through the
reference of an alias or the references inside the items of any other entry. -/
inductive Reaches (table : Members WrittenSchema) : String → String → Prop where
  | target {locator name : String} {target : WrittenSchema}
      (found : target? table locator = some (name, target)) : Reaches table locator name
  | referred {locator via next name : String} {target : WrittenSchema}
      (found : target? table locator = some (via, target))
      (refers : target.reference = some next) (onward : Reaches table next name) :
      Reaches table locator name
  | items {locator via next name : String} {target items : WrittenSchema}
      (found : target? table locator = some (via, target)) (plain : target.reference = none)
      (declared : target.items = some items) (mentioned : Mentions items next)
      (onward : Reaches table next name) : Reaches table locator name

/-- Resolving asks only for the locators that a schema mentions. -/
theorem resolveWith_congr {first second : String → Schema} (written : WrittenSchema)
    (same : ∀ locator, Mentions written locator → first locator = second locator) :
    written.resolveWith first = written.resolveWith second := by
  induction written using WrittenSchema.keyword_induction with
  | step written properties items =>
    cases refers : written.reference with
    | some locator =>
      rw [WrittenSchema.resolveWith_reference first refers,
        WrittenSchema.resolveWith_reference second refers]
      exact same locator (.reference refers)
    | none =>
      rw [WrittenSchema.resolveWith_plain first refers,
        WrittenSchema.resolveWith_plain second refers]
      congr 1
      · cases listed : written.properties with
        | none => rfl
        | some entries =>
          simp only [Option.map_some, Option.some.injEq, List.map_inj_left, Prod.mk.injEq, true_and]
          rintro ⟨key, property⟩ inside
          have member : (key, property) ∈ written.properties.getD [] := by
            simpa [listed] using inside
          exact properties key property member fun locator mentioned =>
            same locator (.property refers member mentioned)
      · cases declared : written.items with
        | none => rfl
        | some inner =>
          rw [Option.map_some, Option.map_some, items inner declared fun locator mentioned =>
            same locator (.items refers declared mentioned)]

/-- Two visits agree on a locator: they hold the same of the entries that it leads to. -/
def Agree (table : Members WrittenSchema) (locator : String) (visiting others : List String) :
    Prop :=
  ∀ name, Reaches table locator name → (name ∈ visiting ↔ name ∈ others)

section Agree
variable {table : Members WrittenSchema} {locator next : String} {visiting others : List String}

theorem agree_visit (name : String) (agree : Agree table locator visiting others)
    (onward : ∀ reached, Reaches table next reached → Reaches table locator reached) :
    Agree table next (name :: visiting) (name :: others) := by
  intro reached leads
  have same := agree reached (onward reached leads)
  simp only [List.mem_cons, same]

/-- What a locator resolves to depends on no visited entry but those that it leads to. -/
theorem resolveReference_agree (agree : Agree table locator visiting others) :
    resolveReference table visiting locator = resolveReference table others locator := by
  induction visiting, locator using resolveReference.induct table generalizing others with
  | case1 visiting locator ih =>
    cases found : target? table locator with
    | none => rw [resolveReference_missing _ found, resolveReference_missing _ found]
    | some pair =>
      obtain ⟨name, target⟩ := pair
      have same := agree name (.target found)
      by_cases seen : name ∈ visiting
      · rw [resolveReference_seen found seen, resolveReference_seen found (same.mp seen)]
      · have fresh : name ∉ others := fun visited => seen (same.mpr visited)
        cases refers : target.reference with
        | some next =>
          rw [resolveReference_alias found seen refers, resolveReference_alias found fresh refers]
          have onward := agree_visit name agree fun _ => .referred found refers
          rw [ih name target found seen next onward]
        | none =>
          rw [resolveReference_entry found seen refers, resolveReference_entry found fresh refers]
          cases declared : target.items with
          | none => rfl
          | some items =>
            have inner := resolveWith_congr items fun next mentioned =>
              ih name target found seen next
                (agree_visit name agree fun _ => .items found refers declared mentioned)
            rw [Option.map_some, Option.map_some, inner]

end Agree

/-- Schemas that are no objects and have the same type and items are the same to declarations. -/
theorem Schema.shape_congr {one other : Schema} (type : one.type? = other.type?)
    (notObject : other.type? ≠ some .object) (items : one.items = other.items) :
    one.shape = other.shape := by
  unfold shape
  rw [type, items]
  cases written : other.type? with
  | none => rfl
  | some kind => cases kind <;> first | rfl | exact absurd written notObject

/-- A property that is no object declares what its shape says. -/
theorem inner?_congr {one other : Schema} (shape : one.shape = other.shape)
    (notObject : other.shape ≠ .object) (key path : String) :
    Visit.inner? key path one = Visit.inner? key path other := by
  unfold Visit.inner?
  rw [shape]
  cases written : other.shape with
  | object => exact absurd written notObject
  | array items => cases items <;> rfl
  | _ => rfl

theorem field_congr {one other : Schema} (shape : one.shape = other.shape) (key : String)
    (required : Bool) (path : String) :
    Field.ofProperty key one required path = Field.ofProperty key other required path := by
  simp only [Field.ofProperty, propertyType, shape]

/-- A property whose chain of references ends at an entry that is no object compiles like the entry
written in its place, provided that the items of the entry lead to nothing on the chain: to the same
field or the same report, and to the same declarations made inline, anywhere in an object, whatever
the module and the language of its units are. -/
theorem reference_transparent {table : Members WrittenSchema} {property last : WrittenSchema}
    {locator name : String} {names : List String} (refers : property.reference = some locator)
    (chain : Leads table [] locator names (.entry name last))
    (notObject : last.schemaType ≠ some .object)
    (apart : ∀ items next, last.items = some items → Mentions items next →
      ∀ visited ∈ names, ¬ Reaches table next visited)
    (key path : String) (required : Bool) :
    Field.ofProperty key (property.resolve table) required path
      = Field.ofProperty key (last.resolve table) required path ∧
    visitDeclarations (Visit.inner? key path (property.resolve table))
      = visitDeclarations (Visit.inner? key path (last.resolve table)) ∧
    (∀ keys parent rest,
      propertyDeclarations keys parent ((key, property.resolve table) :: rest)
        = propertyDeclarations keys parent ((key, last.resolve table) :: rest)) ∧
    ∀ moduleName language keys parent rest,
      compileProperties moduleName language keys parent ((key, property.resolve table) :: rest)
        = compileProperties moduleName language keys parent ((key, last.resolve table) :: rest) := by
  have plain := (leads_entry chain).2
  have behind : property.resolve table
      = (ChainEnd.entry name last).schema table (names.reverse ++ []) locator := by
    rw [WrittenSchema.resolve, WrittenSchema.resolveWith_reference _ refers,
      resolveReference_of_leads chain]
  have written : last.resolve table = _ := WrittenSchema.resolveWith_plain _ plain
  have items : (property.resolve table).items = (last.resolve table).items := by
    rw [behind, written, ChainEnd.schema]
    cases declared : last.items with
    | none => rfl
    | some items =>
      simp only [Option.map_some, Option.some.injEq]
      refine resolveWith_congr items fun next mentioned => resolveReference_agree ?_
      intro visited reached
      have away := apart items next declared mentioned visited
      simpa using fun onChain => away onChain reached
  have type : (property.resolve table).type? = (last.resolve table).type? := by
    rw [behind, written, ChainEnd.schema]
  have noObject : (last.resolve table).type? ≠ some .object := by rwa [written]
  have shape := Schema.shape_congr type noObject items
  have noInline : (last.resolve table).shape ≠ .object := fun inline =>
    noObject ((Schema.shape_eq_object_iff _).mp inline).1
  have inner := inner?_congr shape noInline key
  have declared : ∀ keys parent rest,
      propertyDeclarations keys parent ((key, property.resolve table) :: rest)
        = propertyDeclarations keys parent ((key, last.resolve table) :: rest) := by
    intro keys parent rest
    have unfolded := propertyDeclarations_cons keys ⟨"", parent, Schema.empty⟩ key
    rw [unfolded, unfolded, inner, field_congr shape]
  refine ⟨field_congr shape key required path, by rw [inner path], declared, ?_⟩
  intro moduleName language keys parent rest
  rw [compileProperties_eq, compileProperties_eq, declared]

namespace Labels

def word : WrittenSchema := .ofType "string"

def tag : WrittenSchema :=
  { WrittenSchema.ofType "object" with
    title := some "tag"
    properties := some [("text", .ofReference "#/definitions/word")] }

def tags : WrittenSchema := { WrittenSchema.ofType "array" with items := some tag }

/-- An alias of an array whose items are written in place and refer to a further entry. -/
def table : Members WrittenSchema := [
  ("word", word), ("tags", tags), ("labels", .ofReference "#/definitions/tags")]

def marks : WrittenSchema := .ofReference "#/definitions/labels"

theorem labels_chain :
    Leads table [] "#/definitions/labels" ["labels", "tags"] (.entry "tags" tags) := by
  have toLabels : target? table "#/definitions/labels"
      = some ("labels", .ofReference "#/definitions/tags") :=
    target?_eq_some_iff.mpr ⟨by decide +kernel, by decide +kernel, rfl⟩
  have toTags : target? table "#/definitions/tags" = some ("tags", tags) :=
    target?_eq_some_iff.mpr ⟨by decide +kernel, by decide +kernel, rfl⟩
  exact .step toLabels (by decide) rfl (.entry toTags (by decide) rfl)

/-- The items of the array lead to the entry of their text and nowhere else. -/
theorem tags_apart : ∀ items next, tags.items = some items → Mentions items next →
    ∀ visited ∈ ["labels", "tags"], ¬ Reaches table next visited := by
  rintro _ next ⟨⟩ mentioned visited onChain reached
  have toWord : target? table "#/definitions/word" = some ("word", word) :=
    target?_eq_some_iff.mpr ⟨by decide +kernel, by decide +kernel, rfl⟩
  have onlyWord : next = "#/definitions/word" := by
    cases mentioned with
    | reference refers => cases refers
    | items _ declared _ => cases declared
    | property _ member inside =>
      obtain ⟨rfl, rfl⟩ : _ = "text" ∧ _ = WrittenSchema.ofReference "#/definitions/word" := by
        simpa [tag] using member
      cases inside with
      | reference refers => exact (Option.some.inj refers).symm
      | property plain _ _ => cases plain
      | items plain _ _ => cases plain
  subst onlyWord
  cases reached with
  | target found =>
    cases toWord.symm.trans found
    simp at onChain
  | referred found refers _ =>
    cases toWord.symm.trans found
    cases refers
  | items found _ declared _ _ =>
    cases toWord.symm.trans found
    cases declared

end Labels

theorem reference_transparent_labels :
    Field.ofProperty "marks" (Labels.marks.resolve Labels.table) true "/marks"
      = .ok ⟨"marks", .list (.named "Tag"), true⟩ ∧
    Field.ofProperty "marks" (Labels.marks.resolve Labels.table) true "/marks"
      = Field.ofProperty "marks" (Labels.tags.resolve Labels.table) true "/marks" ∧
    visitDeclarations (Visit.inner? "marks" "/marks" (Labels.marks.resolve Labels.table))
      = .ok [⟨"Tag", [⟨"text", .text, false⟩]⟩] ∧
    visitDeclarations (Visit.inner? "marks" "/marks" (Labels.marks.resolve Labels.table))
      = visitDeclarations (Visit.inner? "marks" "/marks" (Labels.tags.resolve Labels.table)) ∧
    compileProperties "N" .csharp [] "" [("marks", Labels.marks.resolve Labels.table)]
      = compileProperties "N" .csharp [] "" [("marks", Labels.tags.resolve Labels.table)] := by
  have refers : Labels.marks.reference = some "#/definitions/labels" := rfl
  obtain ⟨field, inner, _, units⟩ := reference_transparent refers Labels.labels_chain
    (by decide +kernel) Labels.tags_apart "marks" "/marks" true
  exact ⟨by decide +kernel, field, by decide +kernel, inner, units "N" .csharp [] "" []⟩

end SchemaDecls
