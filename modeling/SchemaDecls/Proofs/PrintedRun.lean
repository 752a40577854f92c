import SchemaDecls.Proofs.SourceText
import SchemaDecls.Proofs.TreeReading

/-!
A run that prints. Each document adds the blocks of its units to the output, or one diagnostic; the
gap before a block is decided by what is printed already. Whatever documents fail or are empty, the
output is the blocks of all units with one empty line between any two.
-/
namespace SchemaDecls

section Blocks
variable {language : Language}

theorem join_spaced (units : List SourceUnit) (language : Language) (first : Nat) :
    String.join ((units.zipIdx (first + 1)).map fun (unit, index) =>
        (if 0 < index then "\n" else "") ++ unit.banner language)
      = String.join ((units.map fun unit => unit.banner language).map ("\n" ++ ·)) := by
  induction units generalizing first with
  | nil => rfl
  | cons unit rest ih =>
    have later := ih (first + 1)
    simp only [List.zipIdx_cons, List.map_cons, String.join_cons, later, Nat.succ_pos, if_true]

theorem intercalate_cons_eq_join (block : String) (rest : List String) :
    String.intercalate "\n" (block :: rest) = block ++ String.join (rest.map ("\n" ++ ·)) := by
  induction rest generalizing block with
  | nil => simp
  | cons next later ih =>
    rw [String.intercalate_cons_cons, ih next, List.map_cons, String.join_cons, String.append_assoc,
      String.append_assoc]

/-- Printed units are their blocks with an empty line between any two. -/
theorem printUnits_eq (units : List SourceUnit) (language : Language) :
    printUnits units language
      = String.intercalate "\n" (units.map fun unit => unit.banner language) := by
  cases units with
  | nil => rfl
  | cons unit rest =>
    unfold printUnits
    rw [List.zipIdx_cons, List.map_cons, String.join_cons, join_spaced, List.map_cons,
      intercalate_cons_eq_join]
    simp

theorem banner_ne_empty (unit : SourceUnit) (language : Language) : unit.banner language ≠ "" := by
  intro empty
  have text := congrArg String.toList empty
  simp [SourceUnit.banner] at text

/-- A block starts with a comment and ends with the line that closes its declaration. -/
theorem banner_frame (moduleName : String) (declaration : Declaration) (language : Language) :
    ∃ body, (SourceUnit.ofDeclaration moduleName declaration language).banner language
      = "// " ++ body ++ "\x7d\n" := by
  obtain ⟨before, closing⟩ : ∃ before, language.footer = before ++ ["\x7d"] := by
    cases language
    · exact ⟨["    \x7d"], rfl⟩
    · exact ⟨[], rfl⟩
  have last : String.join (["\x7d"].map (· ++ "\n")) = "\x7d\n" := rfl
  unfold SourceUnit.banner
  rw [Language.unitSource_eq, closing, ← List.append_assoc, Text.unlines, List.map_append,
    String.join_append, last]
  have framed : ∀ file lines : String, "// " ++ file ++ "\n" ++ (lines ++ "\x7d\n")
      = "// " ++ (file ++ "\n" ++ lines) ++ "\x7d\n" := by
    intro file lines
    simp only [String.append_assoc]
  exact ⟨_, framed _ _⟩

theorem intercalate_eq_empty_iff {blocks : List String} (written : ∀ block ∈ blocks, block ≠ "") :
    String.intercalate "\n" blocks = "" ↔ blocks = [] := by
  constructor
  · intro empty
    cases blocks with
    | nil => rfl
    | cons block rest =>
      rw [intercalate_cons_eq_join, String.append_eq_empty_iff] at empty
      exact absurd empty.1 (written block (by simp))
  · rintro rfl
    rfl

end Blocks

namespace CommandLine

/-- A report whose output is `blocks`, none of them empty, with an empty line between any two. -/
structure Printed (blocks : List String) (report : Report) : Prop where
  output : report.output = String.intercalate "\n" blocks
  written : ∀ block ∈ blocks, block ≠ ""

/-- The diagnostics of the documents that fail, in order. -/
def diagnosticsOf {α : Type} (outcome : String → Except Failure α) (documents : List String) :
    List Diagnostic :=
  documents.filterMap fun path =>
    match outcome path with
    | .ok _ => none
    | .error failure => some ⟨some path, failure⟩

/-- The blocks of the documents that compile, in order. -/
def blocksOf (outcome : String → Except Failure (List SourceUnit)) (language : Language)
    (documents : List String) : List String :=
  (documents.flatMap fun path => (outcome path).toOption.getD []).map fun unit =>
    unit.banner language

section Step
variable {blocks : List String} {report : Report}

/-- A document that compiles adds its blocks, and the one gap that sets them off. -/
theorem printed_add_units (printed : Printed blocks report) (path : String)
    (units : List SourceUnit) (language : Language) :
    Printed (blocks ++ units.map fun unit => unit.banner language)
      (report.add path (.ok (printUnits units language))) := by
  have unitsWritten : ∀ block ∈ units.map fun unit => unit.banner language, block ≠ "" := by
    simp only [List.mem_map, forall_exists_index, and_imp]
    rintro _ unit _ rfl
    exact banner_ne_empty unit language
  have written := List.forall_mem_append.mpr ⟨printed.written, unitsWritten⟩
  refine ⟨?_, written⟩
  rw [printUnits_eq]
  generalize units.map (fun unit => unit.banner language) = more at unitsWritten
  by_cases none : more = []
  · subst none
    simpa [Report.add] using printed.output
  · have someText : String.intercalate "\n" more ≠ "" :=
      fun empty => none ((intercalate_eq_empty_iff unitsWritten).mp empty)
    by_cases fresh : blocks = []
    · subst fresh
      have empty : report.output = "" := printed.output
      simp [Report.add, someText, empty]
    · have begun : report.output ≠ "" := by
        rw [printed.output]
        exact fun empty => fresh ((intercalate_eq_empty_iff printed.written).mp empty)
      rw [String.intercalate_append_of_ne_nil fresh none, ← printed.output]
      simp [Report.add, someText, begun]

theorem printed_add_error (printed : Printed blocks report) (path : String) (failure : Failure) :
    Printed blocks (report.add path (.error failure)) := ⟨printed.output, printed.written⟩

theorem add_diagnostics {α : Type} (report : Report) (path : String) (outcome : Except Failure α)
    (text : α → String) :
    (report.add path (outcome.map text)).diagnostics
      = report.diagnostics ++ diagnosticsOf (fun _ => outcome) [path] := by
  cases outcome with
  | error failure => rfl
  | ok value =>
    simp only [Except.map, Report.add, diagnosticsOf]
    split <;> simp

end Step

theorem blocksOf_cons (outcome : String → Except Failure (List SourceUnit)) (language : Language)
    (path : String) (rest : List String) :
    blocksOf outcome language (path :: rest)
      = ((outcome path).toOption.getD []).map (fun unit => unit.banner language)
        ++ blocksOf outcome language rest := by
  unfold blocksOf
  rw [List.flatMap_cons, List.map_append]

theorem diagnosticsOf_cons {α : Type} (outcome : String → Except Failure α) (path : String)
    (rest : List String) :
    diagnosticsOf outcome (path :: rest)
      = diagnosticsOf (fun _ => outcome path) [path] ++ diagnosticsOf outcome rest := by
  unfold diagnosticsOf
  cases compiled : outcome path <;> simp [compiled]

theorem printed_foldl (outcome : String → Except Failure (List SourceUnit)) (language : Language)
    (documents : List String) {blocks : List String} {report : Report}
    (printed : Printed blocks report) :
    let final := documents.foldl (fun report path =>
      report.add path ((outcome path).map fun units => printUnits units language)) report
    Printed (blocks ++ blocksOf outcome language documents) final ∧
      final.diagnostics = report.diagnostics ++ diagnosticsOf outcome documents := by
  induction documents generalizing blocks report with
  | nil => simpa [blocksOf, diagnosticsOf] using printed
  | cons path rest ih =>
    have diagnosed := add_diagnostics report path (outcome path) fun units =>
      printUnits units language
    have step : Printed
        (blocks ++ ((outcome path).toOption.getD []).map fun unit => unit.banner language)
        (report.add path ((outcome path).map fun units => printUnits units language)) := by
      cases outcome path with
      | error failure =>
        have kept := printed_add_error printed path failure
        simpa [Except.toOption, Except.map] using kept
      | ok units => exact printed_add_units printed path units language
    obtain ⟨final, diagnostics⟩ := ih step
    rw [blocksOf_cons, diagnosticsOf_cons, ← List.append_assoc, ← List.append_assoc, ← diagnosed]
    exact ⟨final, diagnostics⟩

section Run
variable (tree : FileTree) (options : Options)

theorem produce_prints (printing : options.outDir = none) (format : DocumentFormat)
    (text : String) :
    (produce text format options : TreeRun String).run tree
      = ((compileText text format options.settings).map fun units =>
          printUnits units options.settings.language, tree) := by
  unfold produce
  rw [printing]
  cases compileText text format options.settings <;> rfl

theorem produceFromFile_run (printing : options.outDir = none) (path : String) :
    (produceFromFile path options : TreeRun String).run tree
      = ((tree.compileFile path options.settings).map fun units =>
          printUnits units options.settings.language, tree) := by
  have each := fun document : String × DocumentFormat =>
    produce_prints tree options printing document.2 document.1
  unfold produceFromFile
  rw [run_bind_reading (readDocumentFile_run tree path) each]
  unfold FileTree.compileFile
  cases tree.readDocument path <;> rfl

/-- The first document is taken up, then the rest on the tree that it leaves. -/
theorem foldlM_addDocument_cons {path : String} {result : Except Failure String}
    {tree after : FileTree} {options : Options}
    (ran : (produceFromFile path options : TreeRun String).run tree = (result, after))
    (rest : List String) (report : Report) :
    ((path :: rest).foldlM (addDocument options) report : StateM FileTree Report).run tree
      = (rest.foldlM (addDocument options) (report.add path result) :
          StateM FileTree Report).run after := by
  have first : StateT.run (produceFromFile path options : TreeRun String).run tree
      = (result, after) := ran
  rw [List.foldlM_cons, addDocument, StateT.run_bind, StateT.run_bind, first]
  rfl

/-- Where no document changes the tree, each is taken up as the tree has it. -/
theorem foldlM_addDocument_run {options : Options} {result : String → Except Failure String}
    (each : ∀ path, (produceFromFile path options : TreeRun String).run tree = (result path, tree))
    (documents : List String) (report : Report) :
    (documents.foldlM (addDocument options) report : StateM FileTree Report).run tree
      = (documents.foldl (fun report path => report.add path (result path)) report, tree) := by
  induction documents generalizing report with
  | nil => rfl
  | cons path rest ih =>
    rw [foldlM_addDocument_cons (each path), ih]
    rfl

/-- A run on files finds its documents before it takes up the first. -/
theorem reportFiles_run : (reportFiles options : StateM FileTree Report).run tree
    = ((options.inputs.flatMap tree.documentsFor).foldlM (addDocument options) {} :
        StateM FileTree Report).run tree := by
  have found := discover_run tree options.inputs
  unfold reportFiles
  simp only [StateT.run, bind, StateT.bind] at found ⊢
  rw [found]

theorem reportFiles_prints (printing : options.outDir = none) :
    (reportFiles options : StateM FileTree Report).run tree
      = ((options.inputs.flatMap tree.documentsFor).foldl (fun report path =>
          report.add path ((tree.compileFile path options.settings).map fun units =>
            printUnits units options.settings.language)) {}, tree) := by
  rw [reportFiles_run, foldlM_addDocument_run tree (produceFromFile_run tree options printing)]

theorem answer_run_files {arguments : List String} {options : Options}
    (parsed : Options.ofArguments arguments = .ok options) (given : options.inputs ≠ [])
    (input : StateM FileTree ByteArray) (tree : FileTree) :
    (answer input arguments).run tree
      = ((reportFiles options : StateM FileTree Report).run tree).map Outcome.reported id := by
  have files : options.inputs.isEmpty = false := by simpa using given
  unfold answer
  simp only [parsed, run_eq, files]
  rfl

end Run

theorem mem_blocksOf {outcome : String → Except Failure (List SourceUnit)} {language : Language}
    {documents : List String} {block : String}
    (member : block ∈ blocksOf outcome language documents) :
    ∃ path units unit, outcome path = .ok units ∧ unit ∈ units ∧ block = unit.banner language := by
  unfold blocksOf at member
  obtain ⟨unit, listed, rfl⟩ := List.mem_map.mp member
  obtain ⟨path, _, inside⟩ := List.mem_flatMap.mp listed
  cases compiled : outcome path with
  | error failure => simp [compiled, Except.toOption] at inside
  | ok units =>
    rw [compiled] at inside
    exact ⟨path, units, unit, compiled, inside, rfl⟩

theorem exitCode_eq_zero_iff {report : Report} : report.exitCode = 0 ↔ report.diagnostics = [] := by
  unfold Report.exitCode
  cases report.diagnostics <;> simp

theorem exitCode_eq_one_iff {report : Report} : report.exitCode = 1 ↔ report.diagnostics ≠ [] := by
  unfold Report.exitCode
  cases report.diagnostics <;> simp

theorem diagnosticsOf_eq_nil_iff {α : Type} {outcome : String → Except Failure α}
    {documents : List String} :
    diagnosticsOf outcome documents = [] ↔
      ∀ path ∈ documents, ∃ value, outcome path = .ok value := by
  unfold diagnosticsOf
  rw [List.filterMap_eq_nil_iff]
  refine forall₂_congr fun path _ => ?_
  cases outcome path <;> simp

theorem diagnosticsOf_ne_nil_iff {α : Type} {outcome : String → Except Failure α}
    {documents : List String} :
    diagnosticsOf outcome documents ≠ [] ↔
      ∃ path ∈ documents, ∃ failure, outcome path = .error failure := by
  have decided : ∀ path, (¬ ∃ value, outcome path = .ok value) ↔
      ∃ failure, outcome path = .error failure := by
    intro path
    cases outcome path <;> simp
  simp only [ne_eq, diagnosticsOf_eq_nil_iff, Classical.not_forall, decided, exists_prop]

/-- A run that prints changes no file. Its output is one block for each unit of the documents that
compile, in order, with one empty line between any two: every block starts with a comment and ends
with the line that closes its declaration. Each document that fails has one line of its own among
the errors, and the exit code tells whether there is one. -/
theorem answer_prints_blocks {arguments : List String} {options : Options}
    (parsed : Options.ofArguments arguments = .ok options) (printing : options.outDir = none)
    (given : options.inputs ≠ []) (tree : FileTree) (input : StateM FileTree ByteArray) :
    let outcome := fun path => tree.compileFile path options.settings
    let documents := options.inputs.flatMap tree.documentsFor
    let blocks := blocksOf outcome options.settings.language documents
    ∃ report, (answer input arguments).run tree = (.reported report, tree) ∧
      report.output = String.intercalate "\n" blocks ∧
      (∀ block ∈ blocks, ∃ body, block = "// " ++ body ++ "\x7d\n") ∧
      report.diagnostics.map Diagnostic.line = (documents.filterMap fun path =>
        match outcome path with
        | .ok _ => none
        | .error failure => some ("Error: " ++ path ++ ": " ++ failure.message)) ∧
      (report.exitCode = 1 ↔ ∃ path ∈ documents, ∃ failure, outcome path = .error failure) ∧
      (report.exitCode = 0 ↔ ∀ path ∈ documents, ∃ units, outcome path = .ok units) := by
  intro outcome documents blocks
  have start : Printed [] ({} : Report) := ⟨rfl, by simp⟩
  obtain ⟨printed, diagnostics⟩ :=
    printed_foldl outcome options.settings.language documents start
  have ran := answer_run_files parsed given input tree
  rw [reportFiles_prints tree options printing] at ran
  refine ⟨_, ran, printed.output, ?_, ?_, ?_, ?_⟩
  · intro block member
    obtain ⟨path, units, unit, compiled, listed, rfl⟩ := mem_blocksOf member
    obtain ⟨moduleName, name, fields, rfl⟩ := FileTree.unit_of_compileFile compiled unit listed
    exact banner_frame moduleName (.ofFields name fields) options.settings.language
  · rw [diagnostics, List.nil_append, diagnosticsOf, List.map_filterMap]
    refine List.filterMap_congr fun path _ => ?_
    cases outcome path with
    | ok units => rfl
    | error failure => simp [Diagnostic.line, Diagnostic.message, String.append_assoc]
  · rw [exitCode_eq_one_iff, diagnostics, List.nil_append, diagnosticsOf_ne_nil_iff]
  · rw [exitCode_eq_zero_iff, diagnostics, List.nil_append, diagnosticsOf_eq_nil_iff]

def shelfText : String :=
  "\x7b\"definitions\": \x7b\"shelf\": \x7b\"type\": \"object\", \"properties\": " ++
  "\x7b\"book\": \x7b\"type\": \"object\"\x7d\x7d\x7d\x7d\x7d"

/-- Documents with two units, without any and without a table. -/
def library : FileTree := ⟨[
  (["docs"], .directory),
  (["docs", "b.json"], .file "\x7b\"definitions\": \x7b\x7d\x7d".toUTF8),
  (["docs", "a.JSON"], .file shelfText.toUTF8),
  (["docs", "notes.txt"], .file "".toUTF8),
  (["bare.json"], .file "\x7b\x7d".toUTF8),
  (["shelf.json"], .file shelfText.toUTF8)]⟩

theorem library_documents :
    ["bare.json", "docs", "gone.yaml", "shelf.json"].flatMap library.documentsFor
      = ["bare.json", "docs/a.JSON", "docs/b.json", "gone.yaml", "shelf.json"] := by
  have directory : library.isDirectory "docs" = true := by decide +kernel
  have names : (library.fileNames "docs").toOption.getD [] = ["b.json", "a.JSON", "notes.txt"] := by
    decide +kernel
  have sorted : (["b.json", "a.JSON", "notes.txt"].mergeSort fun a b => decide (a ≤ b))
      = ["a.JSON", "b.json", "notes.txt"] := by
    simp [List.mergeSort, List.MergeSort.Internal.splitInTwo]
  have kept : (["a.JSON", "b.json", "notes.txt"].map (Path.join "docs")).filter (fun path =>
      (DocumentFormat.ofPath? path).isSome) = ["docs/a.JSON", "docs/b.json"] := by decide +kernel
  have listed : library.documentsFor "docs" = ["docs/a.JSON", "docs/b.json"] := by
    rw [FileTree.documentsFor, if_pos directory, names, documentsAmong, sorted, kept]
  have themselves : ∀ input ∈ ["bare.json", "gone.yaml", "shelf.json"],
      library.documentsFor input = [input] := by decide +kernel
  simp only [List.forall_mem_cons] at themselves
  simp [themselves, listed]

theorem answer_prints_blocks_library :
    let arguments := ["-l", "rust", "bare.json", "docs", "gone.yaml", "shelf.json"]
    let source (name : String) (fields : List String) := Text.unlines ([
      "//! `" ++ name ++ "` in module `generated_classes`. Generated by openapi-codegen. " ++
        "Do not edit manually.", "", "#![allow(unused_imports)]", "", "use super::*;", "",
      "#[derive(Debug, Clone, PartialEq)]", "pub struct " ++ name ++ " \x7b"] ++ fields ++ ["\x7d"])
    let book := "// Book.g.rs\n" ++ source "Book" []
    let shelf := "// Shelf.g.rs\n" ++ source "Shelf" ["    pub book: Option<Box<Book>>,"]
    ∀ input : StateM FileTree ByteArray, ∃ report,
      (answer input arguments).run library = (.reported report, library) ∧
      report.output = book ++ "\n" ++ shelf ++ "\n" ++ book ++ "\n" ++ shelf ∧
      report.diagnostics.map Diagnostic.line = [
        "Error: bare.json: document has no schemas (expected `components.schemas` or `definitions`)",
        "Error: gone.yaml: No such file or directory (os error 2)"] ∧
      report.exitCode = 1 := by
  intro arguments source book shelf input
  let options : Options :=
    { inputs := ["bare.json", "docs", "gone.yaml", "shelf.json"], language := some .rust }
  have parsed : Options.ofArguments arguments = .ok options := by decide +kernel
  obtain ⟨report, ran, output, _, lines, failed, _⟩ :=
    answer_prints_blocks parsed rfl (by decide) library input
  let units : List SourceUnit := [⟨"Book", source "Book" []⟩,
    ⟨"Shelf", source "Shelf" ["    pub book: Option<Box<Book>>,"]⟩]
  obtain ⟨bare, first, empty, gone, second⟩ :
      library.compileFile "bare.json" options.settings = .error (.compile .tableMissing) ∧
      library.compileFile "docs/a.JSON" options.settings = .ok units ∧
      library.compileFile "docs/b.json" options.settings = .ok [] ∧
      library.compileFile "gone.yaml" options.settings = .error (.file .notFound) ∧
      library.compileFile "shelf.json" options.settings = .ok units := by decide +kernel
  have banners : units.map (fun unit => unit.banner options.settings.language) = [book, shelf] := by
    decide +kernel
  rw [library_documents] at output lines failed
  refine ⟨report, ran, ?_, ?_, failed.mpr ⟨"bare.json", by simp, _, bare⟩⟩
  · simp only [blocksOf_cons, bare, first, empty, gone, second, Except.toOption, Option.getD_some,
      Option.getD_none, banners, List.map_nil, List.nil_append] at output
    rw [output]
    simp only [blocksOf, List.flatMap_nil, List.map_nil, List.append_nil, List.cons_append,
      List.nil_append, String.intercalate_cons_cons, String.intercalate_singleton,
      String.append_assoc]
  · rw [lines]
    simp only [List.filterMap_cons, List.filterMap_nil, bare, first, empty, gone, second]
    decide

end CommandLine
end SchemaDecls
