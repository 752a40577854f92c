import SchemaDecls.Proofs.Declares

/-!
What compiling a schema and a document answers. A schema that compiles gives the units of its walk,
one for each object; a document fails exactly at the first fault of its walk, and compiles when
there is none.
-/
namespace SchemaDecls

/-- The walk that an entry of a table starts: it has to be an object, and no reference. -/
def rootVisit? (name : String) (schema : Schema) : Option Visit :=
  if schema.type? = some .object ∧ schema.reference = none then
    some ⟨name, Pointer.push "/components/schemas" name, schema⟩
  else none

/-- The checkpoints of the walk through a table, in the order of the table. -/
def tableCheckpoints (table : List (String × Schema)) : List Checkpoint :=
  table.flatMap fun entry => (rootVisit? entry.1 entry.2).elim [] Visit.checkpoints

/-- The objects of the walk through a table. -/
def tableVisits (table : List (String × Schema)) : List Visit :=
  table.flatMap fun entry => (rootVisit? entry.1 entry.2).elim [] Visit.postOrder

theorem tableDeclarations_cons (name : String) (schema : Schema) (rest : List (String × Schema)) :
    Document.tableDeclarations ((name, schema) :: rest) = (do
      let first ← visitDeclarations (rootVisit? name schema)
      let others ← Document.tableDeclarations rest
      return first ++ others) := by
  simp only [Document.tableDeclarations, schemaDeclarations, rootVisit?]
  by_cases object : schema.type? = some .object <;> cases refers : schema.reference <;>
    simp [object, visitDeclarations]

theorem tableDeclarations_answers (table : List (String × Schema)) :
    Answers (tableCheckpoints table) (List.Forall₂ Declares (tableVisits table))
      (Document.tableDeclarations table) := by
  induction table with
  | nil => exact answers_pure .nil
  | cons entry rest ih =>
    obtain ⟨name, schema⟩ := entry
    have first := visitDeclarations_answers (rootVisit? name schema)
      fun visit _ => objectDeclarations_answers visit
    rw [tableDeclarations_cons, tableCheckpoints, tableVisits, List.flatMap_cons, List.flatMap_cons]
    refine answers_bind first fun declared made => ?_
    rw [← List.append_nil (List.flatMap _ rest)]
    refine answers_bind ih fun others collected => ?_
    exact answers_pure (List.rel_append made collected)

theorem compileSchema_eq_ok_iff (name : String) (schema : Schema) (moduleName : String)
    (settings : Settings) (units : List SourceUnit) (object : schema.type? = some .object) :
    compileSchema name schema moduleName settings = .ok units ↔
      ∃ declarations, objectDeclarations name (Pointer.push "" name) schema = .ok declarations ∧
        unitsOf moduleName settings.language declarations = units := by
  rw [compileSchema_eq, schemaDeclarations, if_pos object]
  exact rendered_eq_ok_iff

/-- An object schema that compiles gives the units of its walk: one for each object, in post-order,
each made from the declaration of that object; and all but the schema itself are written in
place. -/
theorem compileSchema_postOrder {name : String} {schema : Schema} {moduleName : String}
    {settings : Settings} {units : List SourceUnit} (object : schema.type? = some .object)
    (compiled : compileSchema name schema moduleName settings = .ok units) :
    List.Forall₂ (fun visit unit => ∃ declaration, Declares visit declaration ∧
        unit = SourceUnit.ofDeclaration moduleName declaration settings.language)
      (Visit.postOrder ⟨name, Pointer.push "" name, schema⟩) units ∧
    ∀ visit ∈ (Visit.postOrder ⟨name, Pointer.push "" name, schema⟩).dropLast,
      visit.object.type? = some .object ∧ visit.object.reference = none := by
  refine ⟨?_, fun visit walked => Visit.postOrder_dropLast_inline walked⟩
  obtain ⟨declarations, run, rfl⟩ :=
    (compileSchema_eq_ok_iff name schema moduleName settings units object).mp compiled
  have answer := objectDeclarations_answers ⟨name, Pointer.push "" name, schema⟩
  rw [run] at answer
  rw [unitsOf, List.forall₂_map_right_iff]
  exact (answers_holds answer).imp fun visit declaration declares => ⟨declaration, declares, rfl⟩

/-- An object with inline objects two deep, titled inline items and a reference. -/
def purchase : Schema :=
  (Schema.object [
    ("buyer", Schema.object [("address", Schema.object [("street", .ofType .string)])]),
    ("lines", .array ((Schema.object [("sku", .ofType .string)]).withTitle "line item")),
    ("shop", .objectRef "Shop")]).withRequired ["lines"]

theorem compileSchema_postOrder_purchase :
    ∃ units, compileSchema "purchase" purchase "web shop" {} = .ok units ∧
      units.map SourceUnit.name = ["Address", "Buyer", "LineItem", "Purchase"] ∧
      List.Forall₂ (fun visit unit => ∃ declaration, Declares visit declaration ∧
          unit = SourceUnit.ofDeclaration "web shop" declaration .csharp)
        (Visit.postOrder ⟨"purchase", Pointer.push "" "purchase", purchase⟩) units ∧
      ∀ visit ∈ (Visit.postOrder ⟨"purchase", Pointer.push "" "purchase", purchase⟩).dropLast,
        visit.object.type? = some .object ∧ visit.object.reference = none := by
  have named : (compileSchema "purchase" purchase "web shop" {}).map (·.map SourceUnit.name)
      = .ok ["Address", "Buyer", "LineItem", "Purchase"] := by decide +kernel
  cases compiled : compileSchema "purchase" purchase "web shop" {} with
  | error failure => simp [compiled, Except.map] at named
  | ok units =>
    simp only [compiled, Except.map, Except.ok.injEq] at named
    exact ⟨units, rfl, named, compileSchema_postOrder rfl compiled⟩

theorem compile_eq_ok_iff (document : Document) (settings : Settings) (units : List SourceUnit) :
    document.compile settings = .ok units ↔
      ∃ table declarations, document.schemas = some table ∧
        Document.tableDeclarations table = .ok declarations ∧
        unitsOf (document.moduleName settings) settings.language declarations = units := by
  cases present : document.schemas with
  | none => simp [Document.compile, present]
  | some table =>
    rw [compile_eq document settings table present, rendered_eq_ok_iff]
    simp

theorem compile_eq_error_iff (document : Document) (settings : Settings)
    (failure : CompileFailure) :
    document.compile settings = .error failure ↔
      (document.schemas = none ∧ failure = .tableMissing) ∨
      ∃ table fault, document.schemas = some table ∧ failure = .schema fault ∧
        Document.tableDeclarations table = .error fault := by
  cases present : document.schemas with
  | none => simp [Document.compile, present, eq_comm]
  | some table =>
    rw [compile_eq document settings table present, rendered_eq_error_iff]
    simp [and_comm, eq_comm]

/-- A document compiles exactly when it has a table and nothing on its walk is at fault. Otherwise
its failure is the missing table, or the first fault of the walk. -/
theorem compile_reports_first_fault (document : Document) (settings : Settings) :
    ((∃ units, document.compile settings = .ok units) ↔
      ∃ table, document.schemas = some table ∧
        ∀ checkpoint ∈ tableCheckpoints table, ∀ fault, ¬ checkpoint.Fault fault) ∧
    ∀ failure, document.compile settings = .error failure ↔
      (document.schemas = none ∧ failure = .tableMissing) ∨
      ∃ table fault, document.schemas = some table ∧ failure = .schema fault ∧
        FirstFault (tableCheckpoints table) fault := by
  constructor
  · constructor
    · rintro ⟨units, compiled⟩
      obtain ⟨table, declarations, present, run, _⟩ :=
        (compile_eq_ok_iff document settings units).mp compiled
      exact ⟨table, present, (answers_ok_iff (tableDeclarations_answers table)).mp ⟨_, run⟩⟩
    · rintro ⟨table, present, sound⟩
      obtain ⟨declarations, run⟩ := (answers_ok_iff (tableDeclarations_answers table)).mpr sound
      exact ⟨_, (compile_eq_ok_iff document settings _).mpr ⟨table, declarations, present, run, rfl⟩⟩
  · intro failure
    simp only [compile_eq_error_iff, answers_error_iff (tableDeclarations_answers _)]

end SchemaDecls
