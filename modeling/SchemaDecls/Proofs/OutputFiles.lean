import SchemaDecls.Proofs.WriteStages

/-!
A run that writes files, as a whole: what stands in the tree in the end, what is said of documents
that fail, and that a document may fail although it compiles.
-/
namespace SchemaDecls
namespace CommandLine

/-- A run that writes files, on a tree whose way to the directory is free. In the end the tree is
what it was at the start, with the directory where some document compiles, and with the units of
the documents that compile, in order, the later of two with one file name in its place. Of a
document with a file that is too long to be named or reached, the units before it are written and no
other. What is said and the exit code tell which documents failed. -/
theorem answer_writes_units {arguments : List String} {options : Options} {outDir : String}
    (parsed : Options.ofArguments arguments = .ok options)
    (directory : options.outDir = some outDir) (given : options.inputs ≠ [])
    (output : OutputPath outDir) (plain : ∀ input ∈ options.inputs, Path.Plain input)
    (start : FileTree) (wellFormed : start.WellFormed)
    (unblocked : ∀ location, location <+: Path.components outDir →
      ∀ content, start.node? location ≠ some (.file content))
    (free : ∀ path ∈ options.inputs.flatMap start.documentsFor,
      ∀ units, start.compileFile path options.settings = .ok units → ∀ unit ∈ units,
        start.node? (Path.components outDir ++ [unit.fileName options.settings.language])
          ≠ some .directory)
    (input : StateM FileTree ByteArray) :
    let outcome := fun path => start.compileFile path options.settings
    let documents := options.inputs.flatMap start.documentsFor
    let fits := fun unit => UnitFits outDir options.settings.language unit
    let written := documents.flatMap fun path =>
      ((outcome path).toOption.getD []).takeWhile fun unit => fits unit
    ∃ report after, (answer input arguments).run start = (.reported report, after) ∧
      (∀ location, after.node? location
        = (unitFile? (Path.components outDir) options.settings.language written location).or
            (if (documents.any fun path => (outcome path).isOk) ∧
                location <+: Path.components outDir then some .directory
              else start.node? location)) ∧
      report.output = "" ∧
      List.Forall₂ (Diagnoses outcome) (documents.filter fun path =>
        ¬ Succeeds outDir options.settings.language (outcome path)) report.diagnostics ∧
      (report.exitCode = 1 ↔ ∃ path ∈ documents, (∃ failure, outcome path = .error failure) ∨
        ∃ units, outcome path = .ok units ∧ ∃ unit ∈ units, ¬ fits unit) ∧
      (report.exitCode = 0 ↔ ∀ path ∈ documents, ∃ units, outcome path = .ok units ∧
        ∀ unit ∈ units, fits unit) := by
  intro outcome documents fits written
  have way := FileTree.passable_of_wellFormed wellFormed unblocked
  have plainDocuments : ∀ path ∈ documents, Path.Plain path := by
    intro path member
    obtain ⟨one, listed, inside⟩ := List.mem_flatMap.mp member
    exact documentsFor_plain wellFormed (plain one listed) path inside
  obtain ⟨report, after, diagnostics, ran, stage, printed, told, matched⟩ :=
    documents_stage directory output wellFormed way documents plainDocuments free {}
      (Stage.initial start outDir options.settings.language)
  have answered := answer_run_files parsed given input start
  rw [reportFiles_run, ran] at answered
  have said : report.diagnostics = diagnostics := told
  have silent : report.diagnostics = [] ↔ ∀ path ∈ documents,
      Succeeds outDir options.settings.language (outcome path) := by
    rw [said, ← List.length_eq_zero_iff, ← matched.length_eq, List.length_eq_zero_iff,
      List.filter_eq_nil_iff]
    simp [outcome]
  rw [← said] at matched
  refine ⟨report, after, answered, ?_, printed, matched, ?_, ?_⟩
  · intro location
    have nodes := stage.nodes location
    rw [Bool.false_or, List.nil_append] at nodes
    exact nodes
  · rw [exitCode_eq_one_iff, ne_eq, silent]
    simp only [Classical.not_forall, not_succeeds_iff, exists_prop]
    rfl
  · rw [exitCode_eq_zero_iff, silent]
    rfl

/-- Two documents that declare one name, one without a table, and a directory in use. -/
def workshop : FileTree := ⟨[
  (["api"], .directory),
  (["api", "a.json"], .file shelfText.toUTF8),
  (["api", "b.json"], .file "\x7b\x7d".toUTF8),
  (["api", "c.json"], .file ("\x7b\"definitions\": \x7b\"book\": \x7b\"type\": \"object\", " ++
    "\"properties\": \x7b\"pages\": \x7b\"type\": \"integer\"\x7d\x7d\x7d\x7d\x7d").toUTF8),
  (["out"], .directory),
  (["out", "Shelf.g.cs"], .file "old".toUTF8),
  (["out", "notes.txt"], .file "kept".toUTF8)]⟩

theorem workshop_wellFormed : workshop.WellFormed := by
  intro entry member
  simp only [workshop, List.mem_cons, List.not_mem_nil, or_false] at member
  rcases member with rfl | rfl | rfl | rfl | rfl | rfl | rfl
  · exact ⟨[], "api", rfl, by decide, rfl⟩
  · exact ⟨["api"], "a.json", rfl, by decide, rfl⟩
  · exact ⟨["api"], "b.json", rfl, by decide, rfl⟩
  · exact ⟨["api"], "c.json", rfl, by decide, rfl⟩
  · exact ⟨[], "out", rfl, by decide, rfl⟩
  · exact ⟨["out"], "Shelf.g.cs", rfl, by decide, rfl⟩
  · exact ⟨["out"], "notes.txt", rfl, by decide, rfl⟩

theorem workshop_unblocked : ∀ location, location <+: Path.components "out" →
    ∀ content, workshop.node? location ≠ some (.file content) := by
  intro location higher content
  have cases : location = [] ++ ["out"] ∨ location <+: [] := List.prefix_concat_iff.mp higher
  rcases cases with rfl | above
  · simp [workshop, FileTree.node?, Members.find?]
  · rw [List.prefix_nil.mp above, FileTree.node?_root]
    simp

theorem workshop_free (name : String) :
    workshop.node? (Path.components "out" ++ [name]) ≠ some .directory := by
  intro found
  have listed := FileTree.mem_of_node? found (by simp)
  have out : Path.components "out" = ["out"] := by decide
  simp [workshop, out] at listed

theorem answer_writes_units_workshop :
    let source (name : String) (fields : List String) := Text.unlines (["using System;", "",
      "namespace GeneratedClasses", "\x7b", "    public class " ++ name, "    \x7b"] ++ fields ++
      ["    \x7d", "\x7d"])
    let book := source "Book" ["        public int Pages \x7b get; set; \x7d"]
    let shelf := source "Shelf" ["        public Book Book \x7b get; set; \x7d"]
    ∀ input : StateM FileTree ByteArray, ∃ report after,
      (answer input ["-o", "out", "api/a.json", "api/b.json", "api/c.json"]).run workshop
        = (.reported report, after) ∧
      after.node? ["out", "Book.g.cs"] = some (.file book.toUTF8) ∧
      after.node? ["out", "Shelf.g.cs"] = some (.file shelf.toUTF8) ∧
      after.node? ["out", "notes.txt"] = some (.file "kept".toUTF8) ∧
      report.output = "" ∧ report.diagnostics.map Diagnostic.input = [some "api/b.json"] ∧
      report.exitCode = 1 := by
  intro source book shelf input
  let options : Options :=
    { inputs := ["api/a.json", "api/b.json", "api/c.json"], outDir := some "out" }
  have parsed : Options.ofArguments ["-o", "out", "api/a.json", "api/b.json", "api/c.json"]
      = .ok options := by decide +kernel
  have output : OutputPath "out" := ⟨by decide, by decide, by decide⟩
  have plain : ∀ input ∈ options.inputs, Path.Plain input := by decide +kernel
  have documents : options.inputs.flatMap workshop.documentsFor = options.inputs := by
    decide +kernel
  obtain ⟨report, after, ran, nodes, silent, said, failed, _⟩ :=
    answer_writes_units parsed rfl (by decide) output plain workshop workshop_wellFormed
      workshop_unblocked (fun _ _ _ _ unit _ => workshop_free _) input
  have written : (options.inputs.flatMap fun path =>
      ((workshop.compileFile path options.settings).toOption.getD []).takeWhile fun unit =>
        UnitFits "out" options.settings.language unit)
      = [⟨"Book", source "Book" []⟩, ⟨"Shelf", shelf⟩, ⟨"Book", book⟩] := by decide +kernel
  have failing : (options.inputs.filter fun path =>
      ¬ Succeeds "out" options.settings.language (workshop.compileFile path options.settings))
      = ["api/b.json"] := by decide +kernel
  have bare : workshop.compileFile "api/b.json" options.settings
      = .error (.compile .tableMissing) := by decide +kernel
  have out : Path.components "out" = ["out"] := by decide
  rw [documents, written, out] at nodes
  rw [documents] at failed
  rw [documents, failing] at said
  have one := failed.mpr ⟨"api/b.json", by decide, .inl ⟨_, bare⟩⟩
  refine ⟨report, after, ran, ?_, ?_, ?_, silent, ?_, one⟩
  · rw [nodes]
    rfl
  · rw [nodes]
    rfl
  · have apart : unitFile? ["out"] options.settings.language
        [⟨"Book", source "Book" []⟩, ⟨"Shelf", shelf⟩, ⟨"Book", book⟩] ["out", "notes.txt"]
        = none := Option.isNone_iff_eq_none.mp (by decide +kernel)
    rw [nodes, apart, if_neg (fun both => absurd both.2 (by decide))]
    rfl
  · obtain ⟨diagnostic, rest, named, none, same⟩ := List.forall₂_cons_left_iff.mp said
    rw [same, List.forall₂_nil_left_iff.mp none, List.map_singleton, named.input]

section Refused

/-- A document with one declaration. -/
def notebook : FileTree := ⟨[(["a.json"], .file
  "\x7b\"definitions\": \x7b\"A\": \x7b\"type\": \"object\"\x7d\x7d\x7d".toUTF8)]⟩

/-- A directory at the root that 4092 octets spell: no file can be named behind them. -/
def farPath : String := Path.slashed "out" 4089

theorem farPath_size : farPath.utf8ByteSize = 4092 := Path.size_slashed "out" 4089

theorem farPath_components : Path.components farPath = ["out"] := by
  rw [farPath, Path.components_slashed]
  decide

theorem farPath_output : OutputPath farPath where
  plain := by
    unfold Path.Plain
    rw [farPath_components]
    decide
  valid := FileTree.checkPath_slashed (by decide) (by decide)
  short := by
    rw [farPath_components]
    decide

theorem not_fits_farPath {unit : SourceUnit} (named : unit.fileName .csharp = "A.g.cs") :
    ¬ UnitFits farPath .csharp unit := by
  intro fits
  have own : Path.IsName "A.g.cs" := by decide
  have long := Path.size_le_join farPath own
  have last : "A.g.cs".utf8ByteSize = 6 := by decide
  have short := fits.2
  rw [named, FileTree.pathLimit] at short
  rw [farPath_size] at long
  omega

theorem ofArguments_out {outDir : String} (filled : outDir ≠ "")
    (plain : outDir.toList.head? ≠ some '-') :
    Options.ofArguments ["-o", outDir, "a.json"]
      = .ok { inputs := ["a.json"], outDir := some outDir } := by
  have first : Reading.next {} "-o" = .ok { awaiting := some .outDir } := rfl
  have second : Reading.next { awaiting := some .outDir } outDir
      = .ok { options := { outDir := some outDir } } := by
    simp [Reading.next, Reading.isOption, plain, Reading.settle, Options.assign, Options.isSet,
      nonempty, filled, bind, Except.bind, pure, Except.pure]
  have third : Reading.next { options := { outDir := some outDir } } "a.json"
      = .ok { options := { inputs := ["a.json"], outDir := some outDir } } := rfl
  unfold Options.ofArguments
  simp only [List.foldlM_cons, List.foldlM_nil, first, second, third, bind, Except.bind, pure,
    Except.pure]
  rfl

theorem ofArguments_farPath : Options.ofArguments ["-o", farPath, "a.json"]
    = .ok { inputs := ["a.json"], outDir := some farPath } := by
  apply ofArguments_out
  · intro empty
    have size := farPath_size
    rw [empty] at size
    cases size
  · have start : "out".toList = ['o', 'u', 't'] := by decide
    rw [farPath, Path.slashed, String.toList_append, start]
    simp only [List.cons_append, List.head?_cons]
    decide

theorem notebook_wellFormed : notebook.WellFormed := by
  intro entry member
  rw [List.mem_singleton.mp member]
  exact ⟨[], "a.json", rfl, by decide, rfl⟩

theorem notebook_only {location : Location} {node : FileNode} (below : location ≠ [])
    (found : notebook.node? location = some node) : location = ["a.json"] :=
  congrArg Prod.fst (List.mem_singleton.mp (FileTree.mem_of_node? found below))

theorem notebook_unblocked : ∀ location, location <+: Path.components farPath →
    ∀ content, notebook.node? location ≠ some (.file content) := by
  intro location higher content found
  by_cases root : location = []
  · rw [root, FileTree.node?_root] at found
    cases found
  · rw [notebook_only root found, farPath_components] at higher
    revert higher
    decide

theorem notebook_missing (name : String) :
    notebook.node? (Path.components farPath ++ [name]) = none := by
  rw [farPath_components]
  cases found : notebook.node? (["out"] ++ [name]) with
  | none => rfl
  | some node => simpa using notebook_only (by simp) found

theorem notebook_compiles : ∃ unit, notebook.compileFile "a.json" {} = .ok [unit] ∧
    unit.fileName .csharp = "A.g.cs" := by
  have named : (notebook.compileFile "a.json" {}).map (·.map fun unit => unit.fileName .csharp)
      = .ok ["A.g.cs"] := by decide +kernel
  obtain ⟨units, compiled, names⟩ := map_eq_ok_iff.mp named
  obtain ⟨unit, rfl, name⟩ := List.map_eq_singleton_iff.mp names
  exact ⟨unit, compiled, name⟩

/-- A document may compile and still have a file that is refused: the run then fails, and the file
is missing in the end. -/
theorem compiling_document_refused :
    notebook.WellFormed ∧ Path.Plain "a.json" ∧ Path.Plain farPath ∧
    (∀ location, location <+: Path.components farPath →
      ∀ content, notebook.node? location ≠ some (.file content)) ∧
    (∀ name, notebook.node? (Path.components farPath ++ [name]) ≠ some .directory) ∧
    notebook.documentsFor "a.json" = ["a.json"] ∧
    (∃ unit, notebook.compileFile "a.json" {} = .ok [unit] ∧ unit.fileName .csharp = "A.g.cs") ∧
    ∀ input : StateM FileTree ByteArray, ∃ report after,
      (answer input ["-o", farPath, "a.json"]).run notebook = (.reported report, after) ∧
      after.node? (Path.components farPath ++ ["A.g.cs"]) = none ∧ report.exitCode = 1 := by
  have noDirectory : ∀ name,
      notebook.node? (Path.components farPath ++ [name]) ≠ some .directory := by
    intro name
    rw [notebook_missing]
    simp
  have documents : notebook.documentsFor "a.json" = ["a.json"] := by decide +kernel
  refine ⟨notebook_wellFormed, by decide, farPath_output.plain, notebook_unblocked, noDirectory,
    documents, notebook_compiles, ?_⟩
  intro input
  let options : Options := { inputs := ["a.json"], outDir := some farPath }
  have directory : options.outDir = some farPath := rfl
  obtain ⟨unit, compiled, named⟩ := notebook_compiles
  have tooLong := not_fits_farPath named
  obtain ⟨report, after, diagnostics, ran, stage, _, told, matched⟩ :=
    documents_stage directory farPath_output notebook_wellFormed
      (FileTree.passable_of_wellFormed notebook_wellFormed notebook_unblocked) ["a.json"]
      (by decide) (fun _ _ _ _ unit _ => noDirectory _) {}
      (Stage.initial notebook farPath .csharp)
  have answered := answer_run_files ofArguments_farPath (by decide) input notebook
  have listed : options.inputs.flatMap notebook.documentsFor = ["a.json"] := by
    simp [options, documents]
  rw [reportFiles_run, listed, ran] at answered
  have fails : ¬ Succeeds farPath .csharp (notebook.compileFile "a.json" {}) := by
    rw [compiled, not_succeeds_iff]
    exact .inr ⟨[unit], rfl, unit, by simp, tooLong⟩
  have nothing : unitsLeft farPath .csharp (notebook.compileFile "a.json" {}) = [] := by
    rw [compiled]
    exact List.takeWhile_cons_of_neg (by simpa using tooLong)
  have unwritten : unitFile? (Path.components farPath) .csharp ([] ++ ["a.json"].flatMap fun path =>
      unitsLeft farPath .csharp (notebook.compileFile path {}))
      (Path.components farPath ++ ["A.g.cs"]) = none := by
    rw [List.nil_append, List.flatMap_singleton, nothing]
    rfl
  refine ⟨report, after, answered, ?_, ?_⟩
  · rw [stage.nodes, if_neg (fun both => FileTree.not_concat_prefix both.2), notebook_missing,
      Option.or_none]
    exact unwritten
  · rw [exitCode_eq_one_iff, told]
    intro empty
    rw [(List.append_eq_nil_iff.mp empty).2, List.forall₂_nil_right_iff,
      List.filter_eq_nil_iff] at matched
    exact matched "a.json" (by simp) (decide_eq_true fails)

end Refused

end CommandLine
end SchemaDecls
