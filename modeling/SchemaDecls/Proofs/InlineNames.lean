import SchemaDecls.Proofs.Normalization
import SchemaDecls.Proofs.Outcome

/-!
The class name in the field of a property and the name of the unit of the object written inline
there. The field takes the normalized key or title. The walk normalizes a title twice, once for the
name it walks the items under and once for the declaration.
-/
namespace SchemaDecls

/-- A type that is the class `name`, or a list of it. -/
def TargetType.Refers (type : TargetType) (name : String) : Prop :=
  type = .named name ∨ type = .list (.named name)

instance (type : TargetType) (name : String) : Decidable (type.Refers name) :=
  inferInstanceAs (Decidable (_ ∨ _))

theorem pascal_twice_iff (text : String) :
    Name.pascal text = Name.pascal (Name.pascal text) ↔ Name.CapitalsAlphanumeric text := by
  rw [Name.capitalsAlphanumeric_iff, ← Name.joined_joined_iff, ← String.toList_inj,
    Name.pascal_eq_joined, Name.pascal_eq_joined, Name.pascal_eq_joined, eq_comm]

theorem refers_inner_iff {parent nested : Visit} {key : String} {property : Schema} {field : Field}
    {inner : Declaration} (built : FieldOf parent.object (key, property) field)
    (found : Visit.inner? key (parent.propertyPath key) property = some nested)
    (declares : Declares nested inner) :
    field.type.Refers inner.name ↔
      (property.type? = some .array →
        ∀ title, nested.object.title = some title → Name.CapitalsAlphanumeric title) := by
  rw [declares.name]
  rcases Visit.inner?_cases found with
    ⟨object, inPlace, rfl⟩ | ⟨array, items, name, written, object, inPlace, named, rfl⟩
  · have typed := hasType_unique built.type (.inline object inPlace)
    simp [typed, TargetType.Refers, object]
  · obtain ⟨title, titled, usable, rfl⟩ := (itemTypeName?_eq_some_iff items name).mp named
    have typed := hasType_unique built.type (.list array written (.inline object inPlace titled usable))
    simp [typed, TargetType.Refers, array, titled, pascal_twice_iff]

/-- Class names against the units of a walk. An object written inline has a unit; that unit has the
name that the field of its property refers to, always when the object is the property itself, and
exactly when the capitals of its title are letters and digits when it is the items of an array. -/
def InlineNamesAgree (root : Visit) (declarations : List Declaration) (units : List SourceUnit) :
    Prop :=
  ∀ parent outer, (parent, outer) ∈ root.postOrder.zip declarations →
  ∀ key property field, ((key, property), field) ∈ parent.properties.zip outer.fields →
  ∀ nested, Visit.inner? key (parent.propertyPath key) property = some nested →
    (∃ unit, (nested, unit) ∈ root.postOrder.zip units) ∧
    ∀ unit, (nested, unit) ∈ root.postOrder.zip units →
      (field.type.Refers unit.name ↔
        (property.type? = some .array →
          ∀ title, nested.object.title = some title → Name.CapitalsAlphanumeric title))

/-- The fields of an object schema that compiles name the units of the objects written inline in
their properties, except for titled items with a capital that is more than letters and digits. -/
theorem compileSchema_inlineNames {name : String} {schema : Schema} {moduleName : String}
    {settings : Settings} {units : List SourceUnit} (object : schema.type? = some .object)
    (compiled : compileSchema name schema moduleName settings = .ok units) :
    ∃ declarations, units = unitsOf moduleName settings.language declarations ∧
      List.Forall₂ Declares (Visit.postOrder ⟨name, Pointer.push "" name, schema⟩) declarations ∧
      InlineNamesAgree ⟨name, Pointer.push "" name, schema⟩ declarations units := by
  obtain ⟨declarations, run, rfl⟩ :=
    (compileSchema_eq_ok_iff name schema moduleName settings units object).mp compiled
  have answer := objectDeclarations_answers ⟨name, Pointer.push "" name, schema⟩
  rw [run] at answer
  have declared := answers_holds answer
  refine ⟨declarations, rfl, declared, ?_⟩
  intro parent outer declaredOuter key property field listed nested found
  have outerDeclares := List.forall₂_zip declared declaredOuter
  have built := List.forall₂_zip outerDeclares.fields listed
  have walked := Visit.inner_mem_postOrder (List.of_mem_zip declaredOuter).1
    (List.of_mem_zip listed).1 found
  simp only [unitsOf, List.zip_map_right, List.mem_map, Prod.exists, Prod.map, Prod.mk.injEq, id]
  constructor
  · obtain ⟨inner, paired, _⟩ := declaration_of_mem declared walked
    exact ⟨_, nested, inner, paired, rfl, rfl⟩
  · rintro unit ⟨_, inner, paired, rfl, rfl⟩
    exact refers_inner_iff built found (List.forall₂_zip declared paired)

/-- An inline object, and items whose title begins with the ligature of `f` and `i`. -/
def shelf : Schema :=
  Schema.object [
    ("lid", Schema.object [("width", .ofType .number)]),
    ("sets", .array ((Schema.object [("files", .ofType .integer)]).withTitle "\ufb01le set"))]

theorem compileSchema_inlineNames_shelf :
    ∃ units declarations, compileSchema "shelf" shelf "web shop" {} = .ok units ∧
      units.map SourceUnit.name = ["Lid", "FIleSet", "Shelf"] ∧
      units = unitsOf "web shop" .csharp declarations ∧
      List.Forall₂ Declares (Visit.postOrder ⟨"shelf", Pointer.push "" "shelf", shelf⟩)
        declarations ∧
      InlineNamesAgree ⟨"shelf", Pointer.push "" "shelf", shelf⟩ declarations units := by
  have named : (compileSchema "shelf" shelf "web shop" {}).map (·.map SourceUnit.name)
      = .ok ["Lid", "FIleSet", "Shelf"] := by decide +kernel
  cases compiled : compileSchema "shelf" shelf "web shop" {} with
  | error failure => simp [compiled, Except.map] at named
  | ok units =>
    simp only [compiled, Except.map, Except.ok.injEq] at named
    obtain ⟨declarations, made, declared, agree⟩ := compileSchema_inlineNames rfl compiled
    exact ⟨units, declarations, rfl, named, made, declared, agree⟩

/-- Items whose title is `j` with a caron. Its upper case is a capital and the mark by itself, which
is no letter, so the second normalization drops the mark. -/
def caronItems : Schema :=
  Schema.object [("p", .array ((Schema.object []).withTitle "\u01f0"))]

theorem caronItems_undeclared :
    objectDeclarations "A" (Pointer.push "" "A") caronItems
      = .ok [⟨"J", []⟩, ⟨"A", [⟨"p", .list (.named "J\u030c"), false⟩]⟩] ∧
    compileSchema "A" caronItems "N" {} = .ok [
      ⟨"J", Text.unlines ["using System;", "", "namespace N", "\x7b", "    public class J",
        "    \x7b", "    \x7d", "\x7d"]⟩,
      ⟨"A", Text.unlines ["using System;", "using System.Collections.Generic;", "", "namespace N",
        "\x7b", "    public class A", "    \x7b",
        "        public List<J\u030c> P \x7b get; set; \x7d", "    \x7d", "\x7d"]⟩] ∧
    ∀ name ∈ ["J", "A"], ¬ (TargetType.list (.named "J\u030c")).Refers name := by
  decide +kernel

end SchemaDecls
