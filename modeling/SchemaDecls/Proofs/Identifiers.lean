import SchemaDecls.Generate
import SchemaDecls.Proofs.InlineNames

/-!
The identifiers in the units of a document that compiles. The names of types and of fields are
checked on the walk, so they are never empty. The module takes the title only where it makes an
identifier, but the default name unchecked; and nobody checks the label of a reference before it
becomes the name of a class.
-/
namespace SchemaDecls

namespace Visit
variable {α : Type}

/-- What is noted on the walk from a walked object is noted on the whole walk. -/
theorem walk_subset (enter : Visit → List α) (check : String → String → Schema → List α)
    (leave : Visit → List α) {root visit : Visit} (walked : visit ∈ root.postOrder) :
    walk enter check leave visit ⊆ walk enter check leave root := by
  induction root using walk_induction with
  | step root ih =>
    rw [postOrder_eq, List.mem_append, List.mem_flatMap, List.mem_singleton] at walked
    rcases walked with ⟨⟨key, property⟩, member, deeper⟩ | rfl
    · cases found : inner? key (root.propertyPath key) property with
      | none => simp [found] at deeper
      | some nested =>
        simp only [found, Option.elim_some] at deeper
        intro note noted
        have inside := ih key property nested member found deeper noted
        rw [walk_eq enter check leave root]
        refine List.mem_append_left _ (List.mem_append_right _ ?_)
        refine List.mem_flatMap.mpr ⟨(key, property), member, ?_⟩
        simp [propertyWalk, found, inside]
    · exact List.Subset.refl _

end Visit

theorem tableVisits_checkpoints {table : List (String × Schema)} {visit : Visit}
    (walked : visit ∈ tableVisits table) : visit.checkpoints ⊆ tableCheckpoints table := by
  obtain ⟨entry, member, inside⟩ := List.mem_flatMap.mp walked
  intro checkpoint noted
  refine List.mem_flatMap.mpr ⟨entry, member, ?_⟩
  cases root : rootVisit? entry.1 entry.2 with
  | none => simp [root] at inside
  | some start =>
    simp only [root, Option.elim_some] at inside ⊢
    exact Visit.walk_subset _ _ _ inside noted

/-- Where the walk finds no fault, the names of its objects and the keys of their properties make
identifiers. -/
theorem walked_names_usable {table : List (String × Schema)}
    (sound : ∀ checkpoint ∈ tableCheckpoints table, checkpoint.Sound) {visit : Visit}
    (walked : visit ∈ tableVisits table) :
    Name.pascal visit.name ≠ "" ∧ ∀ entry ∈ visit.properties, Name.pascal entry.1 ≠ "" := by
  have checked : ∀ checkpoint ∈ visit.checkpoints, checkpoint.Sound :=
    fun checkpoint noted => sound checkpoint (tableVisits_checkpoints walked noted)
  rw [Visit.checkpoints_eq] at checked
  constructor
  · exact (Checkpoint.identifier_sound_iff _ visit.path).mp (checked _ (by simp))
  · intro entry member
    refine (Checkpoint.identifier_sound_iff entry.1 (visit.propertyPath entry.1)).mp (checked _ ?_)
    exact List.mem_cons_of_mem _ (List.mem_flatMap.mpr ⟨entry, member, by simp⟩)

/-- A reference to an object that a property takes its class name from: the property is the
reference, or its array items are. -/
def ObjectReference (property : Schema) (reference : Reference) : Prop :=
  (property.type? = some .object ∧ property.reference = some reference) ∨
  (property.type? = some .array ∧ ∃ items, property.items = some items ∧
    items.type? = some .object ∧ items.reference = some reference)

/-- Every label that a property takes a class name from makes an identifier. -/
def LabelsUsable (property : Schema) : Prop :=
  ∀ reference, ObjectReference property reference →
    ∀ label, reference.label = some label → Name.pascal label ≠ ""

theorem primitive?_cases {type : TargetType} {written : SchemaType}
    (stands : type.primitive? = some written) :
    (written ≠ .object ∧ written ≠ .array) ∧
      (∀ name, type ≠ .named name) ∧ ∀ element, type ≠ .list element := by
  cases type <;> simp_all [TargetType.primitive?] <;> subst stands <;> simp

/-- The class names in the type of a property are identifiers exactly when its labels make them. -/
theorem classNames_usable_iff {key : String} {property : Schema} {type : TargetType}
    (typed : HasType key property type) (usable : Name.pascal key ≠ "") :
    (∀ className, type.Refers className → className ≠ "") ↔ LabelsUsable property := by
  cases typed with
  | primitive written stands =>
    obtain ⟨⟨noObject, noArray⟩, noClass, noList⟩ := primitive?_cases stands
    simp [TargetType.Refers, LabelsUsable, ObjectReference, written, noObject, noArray, noClass,
      noList]
  | @reference reference object refers =>
    cases labelled : reference.label <;>
      simp [TargetType.Refers, LabelsUsable, ObjectReference, object, refers, labelled, usable]
  | inline object inPlace =>
    simp [TargetType.Refers, LabelsUsable, ObjectReference, object, inPlace, usable]
  | @list items element array written elements =>
    simp only [TargetType.Refers, LabelsUsable, ObjectReference, array, written]
    cases elements with
    | primitive itemType stands =>
      obtain ⟨⟨noObject, _⟩, noClass, _⟩ := primitive?_cases stands
      simp [itemType, noObject, noClass]
    | reference object refers labelled => simp [object, refers, labelled]
    | inline object inPlace _ usable => simp [object, inPlace, usable]

theorem moduleName_usable_iff (document : Document) (settings : Settings) :
    Name.pascal (document.moduleName settings) ≠ "" ↔
      (∃ title, document.title = some title ∧ Name.pascal title ≠ "") ∨
        Name.pascal settings.defaultNamespace ≠ "" := by
  unfold Document.moduleName
  cases document.title with
  | none => simp
  | some title => by_cases empty : Name.pascal title = "" <;> simp [empty]

/-- In a document that compiles, declared names and the identifiers of fields are never empty. The
name of the module is empty only when the title and the default name both have no letters and
digits, and a class name in the type of a field only when its property takes it from a label
without any. -/
theorem identifiers_of_compile {document : Document} {settings : Settings} {units : List SourceUnit}
    (compiled : document.compile settings = .ok units) :
    ∃ table declarations, document.schemas = some table ∧
      units = unitsOf (document.moduleName settings) settings.language declarations ∧
      (Name.pascal (document.moduleName settings) ≠ "" ↔
        (∃ title, document.title = some title ∧ Name.pascal title ≠ "") ∨
          Name.pascal settings.defaultNamespace ≠ "") ∧
      List.Forall₂ (fun visit declaration => Declares visit declaration ∧ declaration.name ≠ "" ∧
          List.Forall₂ (fun entry field => field.key = entry.1 ∧ field.identifier ≠ "" ∧
              ((∀ className, field.type.Refers className → className ≠ "") ↔
                LabelsUsable entry.2))
            visit.properties declaration.fields)
        (tableVisits table) declarations := by
  obtain ⟨table, declarations, present, run, rfl⟩ :=
    (compile_eq_ok_iff document settings units).mp compiled
  refine ⟨table, declarations, present, rfl, moduleName_usable_iff document settings, ?_⟩
  have sound := (answers_ok_iff (tableDeclarations_answers table)).mp ⟨_, run⟩
  have declared := answers_holds (run ▸ tableDeclarations_answers table)
  have names := (List.forall₂_and_left _ _).mpr
    ⟨fun visit walked => walked_names_usable sound walked, declared⟩
  refine names.imp fun visit declaration ⟨⟨named, keyed⟩, declares⟩ => ?_
  refine ⟨declares, declares.name ▸ named, ?_⟩
  have keys := (List.forall₂_and_left _ _).mpr ⟨keyed, declares.fields⟩
  refine keys.imp fun entry field ⟨usable, built⟩ => ?_
  refine ⟨built.key, ?_, classNames_usable_iff built.type usable⟩
  rwa [Field.identifier, built.key]

/-- A list of references, under a title that makes the name of the module. -/
def catalogue : Document where
  title := some "web shop"
  schemas := some [
    ("order", Schema.object [("lines", .array (.objectRef "line")), ("note", .ofType .string)]),
    ("line", Schema.object [("order", .objectRef "order")])]

theorem identifiers_of_compile_catalogue :
    ∃ units, catalogue.compile {} = .ok units ∧
      units.map SourceUnit.name = ["Order", "Line"] ∧
      ∃ table declarations, catalogue.schemas = some table ∧
        units = unitsOf "web shop" .csharp declarations ∧
        List.Forall₂ (fun visit declaration => Declares visit declaration ∧ declaration.name ≠ "" ∧
            List.Forall₂ (fun entry field => field.key = entry.1 ∧ field.identifier ≠ "" ∧
                ((∀ className, field.type.Refers className → className ≠ "") ↔
                  LabelsUsable entry.2))
              visit.properties declaration.fields)
          (tableVisits table) declarations := by
  have named : (catalogue.compile {}).map (·.map SourceUnit.name) = .ok ["Order", "Line"] := by
    decide +kernel
  cases compiled : catalogue.compile {} with
  | error failure => simp [compiled, Except.map] at named
  | ok units =>
    simp only [compiled, Except.map, Except.ok.injEq] at named
    obtain ⟨table, declarations, present, made, _, declared⟩ := identifiers_of_compile compiled
    have title : catalogue.moduleName {} = "web shop" := by decide +kernel
    exact ⟨units, rfl, named, table, declarations, present, title ▸ made, declared⟩

/-- The key of an entry that stands for another document has no letters and digits, and a property
refers to that entry. -/
def underscoreText : String :=
  "\x7b\"components\": \x7b\"schemas\": \x7b\"_\": \x7b\"$ref\": \"shared.json\"\x7d, " ++
  "\"A\": \x7b\"type\": \"object\", \"properties\": " ++
  "\x7b\"p\": \x7b\"$ref\": \"#/components/schemas/_\"\x7d\x7d\x7d\x7d\x7d\x7d"

def untitledText : String :=
  "\x7b\"definitions\": \x7b\"A\": \x7b\"type\": \"object\"\x7d\x7d\x7d"

theorem empty_names_emitted :
    (loadDocument underscoreText .json).map (fun document =>
        document.schemas.map Document.tableDeclarations)
      = .ok (some (.ok [⟨"A", [⟨"p", .named "", false⟩]⟩])) ∧
    compileText underscoreText .json {} = .ok [⟨"A", Text.unlines ["using System;", "",
      "namespace GeneratedClasses", "\x7b", "    public class A", "    \x7b",
      "        public  P \x7b get; set; \x7d", "    \x7d", "\x7d"]⟩] ∧
    compileText untitledText .json ⟨.csharp, ""⟩ = .ok [⟨"A", Text.unlines ["using System;", "",
      "namespace ", "\x7b", "    public class A", "    \x7b", "    \x7d", "\x7d"]⟩] := by
  decide +kernel

end SchemaDecls
