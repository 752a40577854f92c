import SchemaDecls.Proofs.Outcome
import SchemaDecls.Proofs.Relocation

/-!
The run over a document beside other runs. Beside runs over its schemas one by one, it is their
concatenation up to the first that fails. Beside runs with another title or other settings, it finds
the same declarations or the same failure: presentation decides the texts of units and nothing else.
-/
namespace SchemaDecls

/-- The entries of a table that start a walk: objects that are no references. -/
def walkedEntries (table : List (String × Schema)) : List (String × Schema) :=
  table.filter fun entry => entry.2.type? = some .object ∧ entry.2.reference = none

/-- In its table a schema compiles as it does on its own, but for the path of a report. -/
theorem schemaDeclarations_inTable (name : String) (schema : Schema) :
    schemaDeclarations name (Pointer.push "/components/schemas" name) schema
      = reportedBelow "/components/schemas"
          (schemaDeclarations name (Pointer.push "" name) schema) := by
  have path : Pointer.push "/components/schemas" name
      = "/components/schemas" ++ Pointer.push "" name := by
    rw [← push_below, String.append_empty]
  unfold schemaDeclarations
  split
  · rw [path]
    exact objectDeclarations_below _ ⟨name, Pointer.push "" name, schema⟩
  · rfl

theorem tableDeclarations_eq_mapM (table : List (String × Schema)) :
    Document.tableDeclarations table
      = reportedBelow "/components/schemas" (((walkedEntries table).mapM fun entry =>
          schemaDeclarations entry.1 (Pointer.push "" entry.1) entry.2).map List.flatten) := by
  induction table with
  | nil => rfl
  | cons entry rest ih =>
    obtain ⟨name, schema⟩ := entry
    rw [tableDeclarations_cons, ih]
    by_cases root : schema.type? = some .object ∧ schema.reference = none
    · have walked : walkedEntries ((name, schema) :: rest)
          = (name, schema) :: walkedEntries rest := by
        simp [walkedEntries, root]
      have here := schemaDeclarations_inTable name schema
      rw [schemaDeclarations, if_pos root.1] at here
      rw [rootVisit?, if_pos root, visitDeclarations, here, walked, List.mapM_cons]
      cases schemaDeclarations name (Pointer.push "" name) schema with
      | error failure => rfl
      | ok block =>
        cases (walkedEntries rest).mapM fun entry =>
          schemaDeclarations entry.1 (Pointer.push "" entry.1) entry.2 <;> rfl
    · have passed : walkedEntries ((name, schema) :: rest) = walkedEntries rest := by
        simp [walkedEntries, root]
      rw [rootVisit?, if_neg root, visitDeclarations, passed]
      cases (walkedEntries rest).mapM fun entry =>
        schemaDeclarations entry.1 (Pointer.push "" entry.1) entry.2 <;> rfl

theorem unitsOf_flatten (moduleName : String) (language : Language)
    (blocks : List (List Declaration)) :
    unitsOf moduleName language blocks.flatten
      = (blocks.map (unitsOf moduleName language)).flatten := by
  rw [unitsOf, List.map_flatten]
  rfl

/-- The same failure, the path of a schema read from further out. -/
def CompileFailure.below (root : String) : CompileFailure → CompileFailure
  | .schema fault => .schema (fault.below root)
  | failure => failure

theorem mapM_rendered {α β γ : Type} {run : α → Except SchemaFailure β} (render : β → γ)
    (list : List α) :
    list.mapM (fun x => rendered render (run x)) = rendered (List.map render) (list.mapM run) := by
  induction list with
  | nil => rfl
  | cons x rest ih =>
    rw [List.mapM_cons, List.mapM_cons, ih]
    cases run x with
    | error failure => rfl
    | ok result => cases rest.mapM run <;> rfl

/-- Compiling a document is compiling its walked entries one after the other. -/
theorem compile_eq_mapM (title : Option String) (table : List (String × Schema))
    (settings : Settings) :
    Document.compile ⟨title, some table⟩ settings
      = (((walkedEntries table).mapM fun entry => compileSchema entry.1 entry.2
          (Document.moduleName ⟨title, some table⟩ settings) settings).map List.flatten).mapError
            (CompileFailure.below "/components/schemas") := by
  simp only [compile_eq ⟨title, some table⟩ settings table rfl, compileSchema_eq]
  rw [tableDeclarations_eq_mapM, mapM_rendered]
  cases (walkedEntries table).mapM fun entry =>
      schemaDeclarations entry.1 (Pointer.push "" entry.1) entry.2 with
  | error fault => rfl
  | ok blocks =>
    have joined := unitsOf_flatten (Document.moduleName ⟨title, some table⟩ settings)
      settings.language blocks
    exact congrArg Except.ok joined

theorem compileSchema_error {name : String} {schema : Schema} {moduleName : String}
    {settings : Settings} {failure : CompileFailure}
    (failed : compileSchema name schema moduleName settings = .error failure) :
    ∃ fault, failure = .schema fault := by
  rw [compileSchema_eq, rendered_eq_error_iff] at failed
  obtain ⟨fault, -, same⟩ := failed
  exact ⟨fault, same.symm⟩

/-- A document compiles exactly when each of its walked entries compiles on its own, and then to
their units, entry after entry. Otherwise it fails as the first entry does that fails, with the path
of the table in front. -/
theorem compile_concatenates_schemas (title : Option String) (table : List (String × Schema))
    (settings : Settings) :
    let document : Document := ⟨title, some table⟩
    let run := fun entry : String × Schema =>
      compileSchema entry.1 entry.2 (document.moduleName settings) settings
    ((∃ units, document.compile settings = .ok units) ↔
      ∀ entry ∈ walkedEntries table, ∃ units, run entry = .ok units) ∧
    (∀ units, document.compile settings = .ok units ↔
      ∃ blocks, List.Forall₂ (fun entry block => run entry = .ok block)
        (walkedEntries table) blocks ∧ units = blocks.flatten) ∧
    ∀ failure, document.compile settings = .error failure ↔
      ∃ before entry after fault, walkedEntries table = before ++ entry :: after ∧
        (∀ earlier ∈ before, ∃ units, run earlier = .ok units) ∧ run entry = .error (.schema fault) ∧
        failure = .schema ⟨"/components/schemas" ++ fault.path, fault.defect⟩ := by
  intro document run
  have whole : document.compile settings
      = (((walkedEntries table).mapM run).map List.flatten).mapError
          (CompileFailure.below "/components/schemas") :=
    compile_eq_mapM title table settings
  have succeeds : ∀ units, document.compile settings = .ok units ↔
      ∃ blocks, List.Forall₂ (fun entry block => run entry = .ok block)
        (walkedEntries table) blocks ∧ units = blocks.flatten := by
    intro units
    rw [whole, mapError_eq_ok_iff, map_eq_ok_iff]
    simp only [mapM_eq_ok_iff, @eq_comm _ units]
  refine ⟨?_, succeeds, ?_⟩
  · rw [← mapM_succeeds_iff]
    simp only [succeeds, ← mapM_eq_ok_iff]
    constructor
    · rintro ⟨_, blocks, ran, _⟩
      exact ⟨blocks, ran⟩
    · rintro ⟨blocks, ran⟩
      exact ⟨blocks.flatten, blocks, ran, rfl⟩
  · intro failure
    rw [whole, mapError_eq_error_iff]
    simp only [map_eq_error_iff, mapM_eq_error_iff]
    constructor
    · rintro ⟨_, ⟨before, entry, after, split, fine, failing⟩, rfl⟩
      obtain ⟨fault, rfl⟩ := compileSchema_error failing
      exact ⟨before, entry, after, fault, split, fine, failing, rfl⟩
    · rintro ⟨before, entry, after, fault, split, fine, failing, rfl⟩
      exact ⟨.schema fault, ⟨before, entry, after, split, fine, failing⟩, rfl⟩

theorem unitsOf_names (moduleName : String) (language : Language)
    (declarations : List Declaration) :
    (unitsOf moduleName language declarations).map SourceUnit.name
      = declarations.map Declaration.name := by
  rw [unitsOf, List.map_map]
  rfl

theorem unitsOf_built (moduleName : String) (language : Language)
    (declarations : List Declaration) :
    List.Forall₂ (fun declaration unit =>
        SourceUnit.build moduleName declaration language = .ok unit)
      declarations (unitsOf moduleName language declarations) := by
  rw [unitsOf, List.forall₂_map_right_iff, List.forall₂_same]
  exact fun declaration _ => SourceUnit.build_eq moduleName declaration language

/-- Two runs over one table, whatever their titles, languages and default names, fail with the same
failure, for which no writer is the reason, or write the same declarations: as many units, under the
same names, in the same order. -/
theorem compile_ignores_presentation (schemas : Option (List (String × Schema)))
    (title otherTitle : Option String) (settings others : Settings) :
    let one : Document := ⟨title, schemas⟩
    let other : Document := ⟨otherTitle, schemas⟩
    (∃ failure, one.compile settings = .error failure ∧ other.compile others = .error failure ∧
      ∀ fault, failure ≠ .rendering fault) ∨
    ∃ units otherUnits, one.compile settings = .ok units ∧ other.compile others = .ok otherUnits ∧
      units.length = otherUnits.length ∧
      units.map SourceUnit.name = otherUnits.map SourceUnit.name ∧
      ∃ declarations,
        List.Forall₂ (fun declaration unit => SourceUnit.build (one.moduleName settings)
          declaration settings.language = .ok unit) declarations units ∧
        List.Forall₂ (fun declaration unit => SourceUnit.build (other.moduleName others)
          declaration others.language = .ok unit) declarations otherUnits := by
  intro one other
  cases schemas with
  | none => exact Or.inl ⟨.tableMissing, rfl, rfl, nofun⟩
  | some table =>
    have answers : ∀ title settings, Document.compile ⟨title, some table⟩ settings
        = rendered (unitsOf (Document.moduleName ⟨title, some table⟩ settings) settings.language)
            (Document.tableDeclarations table) := fun title settings =>
      compile_eq ⟨title, some table⟩ settings table rfl
    cases found : Document.tableDeclarations table with
    | error fault =>
      have fails : ∀ title settings, Document.compile ⟨title, some table⟩ settings
          = .error (.schema fault) := fun title settings => by rw [answers, found]; rfl
      exact Or.inl ⟨.schema fault, fails title settings, fails otherTitle others, nofun⟩
    | ok declarations =>
      have succeeds : ∀ title settings, Document.compile ⟨title, some table⟩ settings
          = .ok (unitsOf (Document.moduleName ⟨title, some table⟩ settings) settings.language
              declarations) := fun title settings => by rw [answers, found]; rfl
      refine Or.inr ⟨_, _, succeeds title settings, succeeds otherTitle others, ?_, ?_,
        declarations, unitsOf_built _ _ declarations, unitsOf_built _ _ declarations⟩
      · simp only [unitsOf, List.length_map]
      · rw [unitsOf_names, unitsOf_names]

end SchemaDecls
