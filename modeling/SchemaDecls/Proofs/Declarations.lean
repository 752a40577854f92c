import SchemaDecls.Compile
import SchemaDecls.Proofs.FieldType
import SchemaDecls.Proofs.Rendering
import SchemaDecls.Proofs.Results

/-!
The walk without its writer. The compiler writes each unit where it finds the declaration, in the
middle of the walk and in the module and language that it hands down to every object. No unit is
refused, so the same walk could look for declarations only, and all of them be written behind it.
-/
namespace SchemaDecls

mutual

/-- The declarations of the object schema `name`, those of its inline objects first. -/
def objectDeclarations (name path : String) : Schema → Except SchemaFailure (List Declaration)
  | ⟨_, properties, required, _, _, _⟩ =>
    if (Name.pascal name).isEmpty then .error ⟨path, .emptyIdentifier name⟩
    else
      match properties with
      | none => .ok [Declaration.ofFields name []]
      | some properties => do
        let (inner, fields) ← propertyDeclarations (required.getD []) path properties
        return inner ++ [Declaration.ofFields name fields]

/-- The declarations made inline in a list of properties, and the fields of the properties. -/
def propertyDeclarations (required : List String) (path : String) :
    List (String × Schema) → Except SchemaFailure (List Declaration × List Field)
  | [] => .ok ([], [])
  | (key, property) :: rest => do
    let here := Pointer.push (Pointer.push path "properties") key
    let inner ← (if property.isInlineObject then objectDeclarations key here property
      else
        match property with
        | ⟨some .array, _, _, some items, _, _⟩ =>
          if items.isInlineObject then
            match itemTypeName? items with
            | some name => objectDeclarations name (Pointer.push here "items") items
            | none => .ok []
          else .ok []
        | _ => .ok [])
    let field ← Field.ofProperty key property (required.contains key) here
    let (later, fields) ← propertyDeclarations required path rest
    return (inner ++ later, field :: fields)

end

/-- The declarations of a named schema; only objects declare anything. -/
def schemaDeclarations (name path : String) (schema : Schema) :
    Except SchemaFailure (List Declaration) :=
  if schema.type? = some .object then objectDeclarations name path schema else .ok []

/-- The declarations of a table's entries, in the order of the table. An entry that is still a
reference declares nothing. -/
def Document.tableDeclarations : List (String × Schema) → Except SchemaFailure (List Declaration)
  | [] => .ok []
  | (name, schema) :: rest => do
    let first ← (if schema.reference.isSome then .ok []
      else schemaDeclarations name (Pointer.push "/components/schemas" name) schema)
    let others ← tableDeclarations rest
    return first ++ others

/-- What a walk finds, made into units; a defect that it finds is why the document does not compile. -/
def rendered {Found Units : Type} (render : Found → Units) (found : Except SchemaFailure Found) :
    Except CompileFailure Units :=
  (found.map render).mapError .schema

theorem rendered_pure {Found Units : Type} (render : Found → Units) (value : Found) :
    rendered render (pure value) = pure (render value) := rfl

theorem rendered_eq_ok_iff {Found Units : Type} {render : Found → Units}
    {found : Except SchemaFailure Found} {units : Units} :
    rendered render found = .ok units ↔ ∃ value, found = .ok value ∧ render value = units :=
  mapError_eq_ok_iff.trans map_eq_ok_iff

theorem rendered_eq_error_iff {Found Units : Type} {render : Found → Units}
    {found : Except SchemaFailure Found} {failure : CompileFailure} :
    rendered render found = .error failure ↔
      ∃ fault, found = .error fault ∧ .schema fault = failure := by
  rw [rendered, mapError_eq_error_iff]
  simp only [map_eq_error_iff]

section Presentation
variable {Found More Units : Type} (moduleName : String) (language : Language)

theorem rendered_bind (render : More → Units) (found : Except SchemaFailure Found)
    (next : Found → Except SchemaFailure More) :
    rendered render (found >>= next) = found.mapError .schema >>= fun value =>
      rendered render (next value) := by
  cases found <;> rfl

theorem bind_rendered {Result : Type} (render : Found → Units) (found : Except SchemaFailure Found)
    (next : Units → Except CompileFailure Result) :
    rendered render found >>= next = found.mapError .schema >>= fun value => next (render value) := by
  cases found <;> rfl

theorem unitsOf_append (declarations others : List Declaration) :
    unitsOf moduleName language (declarations ++ others)
      = unitsOf moduleName language declarations ++ unitsOf moduleName language others :=
  List.map_append

/-- The declarations inside an object as units, beside its fields. -/
def unitsInside (found : List Declaration × List Field) : List SourceUnit × List Field :=
  (unitsOf moduleName language found.1, found.2)

/-- What is made of the object written inline in a property, where there is one. -/
def inlineObject {ε α : Type} (make : String → String → Schema → Except ε (List α))
    (key path : String) (property : Schema) : Except ε (List α) :=
  if property.isInlineObject then make key path property
  else
    match property with
    | ⟨some .array, _, _, some items, _, _⟩ =>
      if items.isInlineObject then
        match itemTypeName? items with
        | some name => make name (Pointer.push path "items") items
        | none => .ok []
      else .ok []
    | _ => .ok []

theorem compileProperties_entry (required : List String) (path key : String) (property : Schema)
    (rest : List (String × Schema)) :
    compileProperties moduleName language required path ((key, property) :: rest) = (do
      let here := Pointer.push (Pointer.push path "properties") key
      let inner ← inlineObject (compileAt moduleName language) key here property
      let field ← (Field.ofProperty key property (required.contains key) here).mapError .schema
      let (later, fields) ← compileProperties moduleName language required path rest
      return (inner ++ later, field :: fields)) := by
  rw [compileProperties.eq_def]
  rfl

theorem propertyDeclarations_entry (required : List String) (path key : String) (property : Schema)
    (rest : List (String × Schema)) :
    propertyDeclarations required path ((key, property) :: rest) = (do
      let here := Pointer.push (Pointer.push path "properties") key
      let inner ← inlineObject objectDeclarations key here property
      let field ← Field.ofProperty key property (required.contains key) here
      let (later, fields) ← propertyDeclarations required path rest
      return (inner ++ later, field :: fields)) := by
  rw [propertyDeclarations.eq_def]
  rfl

theorem schemaDeclarations_inline {schema : Schema} (inline : schema.isInlineObject = true)
    (name path : String) :
    schemaDeclarations name path schema = objectDeclarations name path schema := by
  rw [schemaDeclarations, if_pos (schema.isInlineObject_iff.mp inline).1]

theorem inlineObject_rendered (key path : String) (property : Schema)
    (nested : compileAt moduleName language key path property
      = rendered (unitsOf moduleName language) (schemaDeclarations key path property))
    (nestedItems : ∀ items, property.items = some items → ∀ name path,
      compileAt moduleName language name path items
        = rendered (unitsOf moduleName language) (schemaDeclarations name path items)) :
    inlineObject (compileAt moduleName language) key path property
      = rendered (unitsOf moduleName language)
          (inlineObject objectDeclarations key path property) := by
  unfold inlineObject
  split
  · next inline => rw [nested, schemaDeclarations_inline inline]
  · split
    · next items _ _ _ =>
      split
      · next inline =>
        cases itemTypeName? items with
        | none => rfl
        | some name =>
          simp only
          rw [nestedItems items rfl, schemaDeclarations_inline inline]
      · rfl
    · rfl

mutual

/-- Writing the units on the walk is writing them behind it. -/
theorem compileAt_eq (name path : String) :
    ∀ schema, compileAt moduleName language name path schema
      = rendered (unitsOf moduleName language) (schemaDeclarations name path schema)
  | ⟨type?, properties, required, items, reference, title⟩ => by
    -- A match, since the recursion accepts the entries only as a part of the schema.
    have inside : ∀ entries, properties = some entries →
        compileProperties moduleName language (required.getD []) path entries
          = rendered (unitsInside moduleName language)
              (propertyDeclarations (required.getD []) path entries) :=
      match properties with
      | none => nofun
      | some entries => fun _ same => by
        cases same
        exact compileProperties_eq (required.getD []) path entries
    rw [compileAt.eq_def, schemaDeclarations, objectDeclarations.eq_def]
    simp only
    by_cases object : type? = some .object
    · by_cases empty : (Name.pascal name).isEmpty
      · rw [if_neg (Decidable.not_not.mpr object), if_pos empty, if_pos object, if_pos empty]
        rfl
      · rw [if_neg (Decidable.not_not.mpr object), if_neg empty, if_pos object, if_neg empty]
        cases properties with
        | none =>
          simp only [SourceUnit.build_eq]
          rfl
        | some entries =>
          -- The object's own unit comes last on both sides, behind those of `inside`.
          simp only [inside entries rfl, SourceUnit.build_eq, rendered_bind, bind_rendered]
          congr 1
          funext found
          rw [rendered_pure, unitsOf_append]
          rfl
    · rw [if_pos object, if_neg object]
      rfl

theorem compileProperties_eq (required : List String) (path : String) :
    ∀ properties, compileProperties moduleName language required path properties
      = rendered (unitsInside moduleName language) (propertyDeclarations required path properties)
  | [] => rfl
  | (key, property) :: rest => by
    have nestedItems : ∀ items, property.items = some items → ∀ name path,
        compileAt moduleName language name path items
          = rendered (unitsOf moduleName language) (schemaDeclarations name path items) :=
      match property with
      | ⟨_, _, _, none, _, _⟩ => nofun
      | ⟨_, _, _, some items, _, _⟩ => fun _ same name path => by
        cases same
        exact compileAt_eq name path items
    have inner := fun path => inlineObject_rendered moduleName language key path property
      (compileAt_eq key path property) nestedItems
    have later := compileProperties_eq required path rest
    rw [compileProperties_entry, propertyDeclarations_entry]
    simp only [inner, later, rendered_bind, bind_rendered]
    simp only [rendered_pure, unitsInside, unitsOf_append]

end

theorem compileTable_eq (table : List (String × Schema)) :
    Document.compileTable moduleName language table
      = rendered (unitsOf moduleName language) (Document.tableDeclarations table) := by
  induction table with
  | nil => rfl
  | cons entry rest ih =>
    obtain ⟨name, schema⟩ := entry
    have first : ∀ path, (if schema.reference.isSome then .ok []
          else compileAt moduleName language name path schema)
        = rendered (unitsOf moduleName language)
          (if schema.reference.isSome then .ok [] else schemaDeclarations name path schema) := by
      intro path
      split
      · rfl
      · exact compileAt_eq moduleName language name path schema
    rw [Document.compileTable, Document.tableDeclarations]
    simp only [first, ih, rendered_bind, bind_rendered, rendered_pure, unitsOf_append]

end Presentation

theorem compileSchema_eq (name : String) (schema : Schema) (moduleName : String)
    (settings : Settings) : compileSchema name schema moduleName settings
      = rendered (unitsOf moduleName settings.language)
          (schemaDeclarations name (Pointer.push "" name) schema) :=
  compileAt_eq moduleName settings.language name _ schema

theorem compile_eq (document : Document) (settings : Settings) (table : List (String × Schema))
    (present : document.schemas = some table) : document.compile settings
      = rendered (unitsOf (document.moduleName settings) settings.language)
          (Document.tableDeclarations table) := by
  rw [Document.compile, present]
  exact compileTable_eq _ _ table

end SchemaDecls
