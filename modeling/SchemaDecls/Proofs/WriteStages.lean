import SchemaDecls.Proofs.PrintedRun
import SchemaDecls.Proofs.WrittenUnits

/-!
The stages of a run that writes files. Documents are read and written in turn, but what one document
leaves never changes what a later one reads: directories stay, and the files of units are no
documents. So each document takes the tree to a stage that the tree at the start and the units
written so far determine.
-/
namespace SchemaDecls

theorem FileTree.spelled_of_compileFile {tree : FileTree} {path : String} {settings : Settings}
    {units : List SourceUnit} (compiled : tree.compileFile path settings = .ok units) :
    ∀ unit ∈ units, Spelled [] unit.name := by
  intro unit member
  obtain ⟨_, name, _, rfl⟩ := unit_of_compileFile compiled unit member
  exact Name.pascal_spelled name

/-- A tree in the middle of a run: the tree the run started from, with the directory if that is made
already, and with the files of the units written so far. -/
structure Stage (start : FileTree) (outDir : String) (language : Language) (made : Bool)
    (units : List SourceUnit) (tree : FileTree) : Prop where
  nodes : ∀ location, tree.node? location
    = (unitFile? (Path.components outDir) language units location).or
        (if made = true ∧ location <+: Path.components outDir then some .directory
          else start.node? location)
  free : ∀ unit ∈ units,
    start.node? (Path.components outDir ++ [unit.fileName language]) ≠ some .directory

namespace Stage
variable {start tree : FileTree} {outDir : String} {language : Language} {made : Bool}
  {units : List SourceUnit}

theorem initial (start : FileTree) (outDir : String) (language : Language) :
    Stage start outDir language false [] start where
  nodes location := by simp [unitFile?]
  free unit member := by simp at member

theorem above (stage : Stage start outDir language made units tree) {location : Location}
    (higher : location <+: Path.components outDir) :
    tree.node? location = if made then some .directory else start.node? location := by
  rw [stage.nodes, unitFile?_above higher]
  simp [higher]

/-- What stood in the way of nothing at the start does not later. -/
theorem passable (stage : Stage start outDir language made units tree)
    (way : start.Passable (Path.components outDir)) : tree.Passable (Path.components outDir) := by
  cases made with
  | true => exact FileTree.passable_of_open fun above higher => stage.above higher
  | false =>
    refine ⟨fun above higher content => ?_, fun above name higher => ?_⟩
    · rw [stage.above higher]
      exact way.unblocked above higher content
    · rw [stage.above higher, stage.above ((List.prefix_append above [name]).trans higher)]
      exact way.nested above name higher

theorem free_next (stage : Stage start outDir language made units tree) {name : String}
    (free : start.node? (Path.components outDir ++ [name]) ≠ some .directory) :
    tree.node? (Path.components outDir ++ [name]) ≠ some .directory := by
  rw [stage.nodes, if_neg (fun both => FileTree.not_concat_prefix both.2)]
  cases written : unitFile? (Path.components outDir) language units
      (Path.components outDir ++ [name]) with
  | none => simpa using free
  | some node =>
    obtain ⟨unit, _, _, rfl⟩ := unit_of_unitFile? written
    simp

theorem directory (stage : Stage start outDir language made units tree) {location : Location}
    (found : start.node? location = some .directory) : tree.node? location = some .directory := by
  have apart : unitFile? (Path.components outDir) language units location = none := by
    apply unitFile?_eq_none
    rintro unit member rfl
    exact stage.free unit member found
  rw [stage.nodes, apart, found]
  simp

/-- No file comes or goes but those of units. -/
theorem file_iff (stage : Stage start outDir language made units tree)
    (way : start.Passable (Path.components outDir)) {location : Location}
    (elsewhere : ∀ unit ∈ units, Path.components outDir ++ [unit.fileName language] ≠ location)
    (content : ByteArray) :
    tree.node? location = some (.file content) ↔ start.node? location = some (.file content) := by
  rw [stage.nodes, unitFile?_eq_none elsewhere, Option.none_or]
  split
  · next inside =>
    have blocked := way.unblocked location inside.2 content
    simp [blocked]
  · rfl

theorem read_iff (stage : Stage start outDir language made units tree)
    (wellFormed : start.WellFormed) (way : start.Passable (Path.components outDir)) {path : String}
    (plain : Path.Plain path) {format : DocumentFormat}
    (announced : DocumentFormat.ofPath path = .ok format) (content : ByteArray) :
    tree.read path = .ok content ↔ start.read path = .ok content := by
  -- The path ends as a document does, and no file of a unit ends so.
  have elsewhere : ∀ unit ∈ units,
      Path.components outDir ++ [unit.fileName language] ≠ Path.components path := by
    intro unit _ same
    have last : Path.fileName? path = some (unit.fileName language) := by
      rw [Path.fileName?_plain plain, ← same, List.getLast?_concat]
    have noDocument := ofPath?_of_fileName language last
    simp [DocumentFormat.ofPath, noDocument] at announced
  have same := stage.file_iff way elsewhere content
  rw [FileTree.read_eq_ok_iff plain, FileTree.read_eq_ok_iff plain, same]
  refine and_congr_right fun _ => and_congr_right fun _ => and_congr_right fun _ => ?_
  refine and_congr_left fun found => ?_
  have openAtStart := FileTree.open_above_of_node? wellFormed found
  exact ⟨fun _ => openAtStart, fun _ above higher => stage.directory (openAtStart above higher)⟩

/-- A document compiles as it did at the start. -/
theorem compileFile_iff (stage : Stage start outDir language made units tree)
    (wellFormed : start.WellFormed) (way : start.Passable (Path.components outDir)) {path : String}
    (plain : Path.Plain path) (settings : Settings) (compiled : List SourceUnit) :
    tree.compileFile path settings = .ok compiled ↔
      start.compileFile path settings = .ok compiled := by
  simp only [FileTree.compileFile_eq_ok_iff]
  refine exists_congr fun format => exists_congr fun content => exists_congr fun text => ?_
  exact and_congr_right fun announced =>
    and_congr_left fun _ => stage.read_iff wellFormed way plain announced content

/-- The files of further units, and their directory, lead to the next stage. -/
theorem advance (stage : Stage start outDir language made units tree) {more : List SourceUnit}
    {after : FileTree}
    (free : ∀ unit ∈ more,
      start.node? (Path.components outDir ++ [unit.fileName language]) ≠ some .directory)
    (left : ∀ location, after.node? location
      = (unitFile? (Path.components outDir) language more location).or
          (if location <+: Path.components outDir then some .directory
            else tree.node? location)) :
    Stage start outDir language true (units ++ more) after where
  nodes location := by
    rw [left, unitFile?_append]
    by_cases higher : location <+: Path.components outDir
    · simp [higher, unitFile?_above]
    · simp [higher, stage.nodes, Option.or_assoc]
  free := List.forall_mem_append.mpr ⟨stage.free, free⟩

end Stage

section Plain
variable {tree : FileTree} {input : String}

theorem documentsFor_plain (wellFormed : tree.WellFormed) (plain : Path.Plain input) :
    ∀ path ∈ tree.documentsFor input, Path.Plain path := by
  intro path member
  by_cases opened : tree.isDirectory input = true
  · obtain ⟨_, _, location, denotes, _⟩ := FileTree.isDirectory_iff.mp opened
    rw [FileTree.documentsFor_directory opened denotes] at member
    obtain ⟨name, listed, rfl, _⟩ := CommandLine.mem_documentsAmong_iff.mp member
    exact Path.plain_join plain
      (FileTree.namesIn_isName wellFormed (List.mem_of_mem_filter listed))
  · rw [FileTree.documentsFor_other (by simpa using opened), List.mem_singleton] at member
    rwa [member]

end Plain

namespace CommandLine

/-- A document succeeds that compiles to units whose files all fit. -/
def Succeeds (outDir : String) (language : Language) (outcome : Except Failure (List SourceUnit)) :
    Prop := ∃ units, outcome = .ok units ∧ ∀ unit ∈ units, UnitFits outDir language unit

instance (outDir : String) (language : Language) :
    (outcome : Except Failure (List SourceUnit)) → Decidable (Succeeds outDir language outcome)
  | .ok units =>
    decidable_of_iff (∀ unit ∈ units, UnitFits outDir language unit) (by simp [Succeeds])
  | .error _ => .isFalse (by simp [Succeeds])

theorem not_succeeds_iff {outDir : String} {language : Language}
    {outcome : Except Failure (List SourceUnit)} :
    ¬ Succeeds outDir language outcome ↔ (∃ failure, outcome = .error failure) ∨
      ∃ units, outcome = .ok units ∧ ∃ unit ∈ units, ¬ UnitFits outDir language unit := by
  cases outcome <;> simp [Succeeds]

/-- The units that a document leaves: those before the first that does not fit. -/
def unitsLeft (outDir : String) (language : Language) (outcome : Except Failure (List SourceUnit)) :
    List SourceUnit :=
  (outcome.toOption.getD []).takeWhile fun unit => UnitFits outDir language unit

section Document
variable {options : Options} {outDir path : String} {tree : FileTree}

/-- The document is compiled as a whole before the first effect on the tree. -/
theorem produceFromFile_eq (directory : options.outDir = some outDir) :
    (produceFromFile path options : TreeRun String)
      = ((readDocumentFile path >>= fun document =>
          liftM (compileText document.1 document.2 options.settings)) >>= fun units => do
            let _ ← writeUnits units outDir options.settings.language
            return "") := by
  unfold produceFromFile produce
  simp only [directory, bind_assoc]

theorem compileDocument_run (path : String) (settings : Settings) (tree : FileTree) :
    (readDocumentFile path >>= fun document =>
        liftM (compileText document.1 document.2 settings) : TreeRun (List SourceUnit)).run tree
      = (tree.compileFile path settings, tree) :=
  run_bind_reading (readDocumentFile_run tree path) fun _ => run_lift _

theorem produceFromFile_error (directory : options.outDir = some outDir) {failure : Failure}
    (failed : tree.compileFile path options.settings = .error failure) :
    (produceFromFile path options : TreeRun String).run tree = (.error failure, tree) := by
  have ran := compileDocument_run path options.settings tree
  rw [failed] at ran
  rw [produceFromFile_eq directory, run_bind_error ran]

theorem produceFromFile_ok (directory : options.outDir = some outDir) {units : List SourceUnit}
    (compiled : tree.compileFile path options.settings = .ok units)
    {result : Except Failure (List String)} {after : FileTree}
    (wrote : (writeUnits units outDir options.settings.language : TreeRun (List String)).run tree
      = (result, after)) :
    (produceFromFile path options : TreeRun String).run tree = (result.map fun _ => "", after) := by
  have ran := compileDocument_run path options.settings tree
  rw [compiled] at ran
  rw [produceFromFile_eq directory, run_bind_ok ran]
  cases result with
  | error failure => exact run_bind_error wrote _
  | ok paths => exact run_bind_ok wrote _

section Step
variable {start : FileTree} {made : Bool} {units : List SourceUnit}

/-- A document that does not compile at the start fails later too, and changes nothing. What is
wrong with it may read differently by then: a missing path can have become a directory. -/
theorem produceFromFile_fails (directory : options.outDir = some outDir)
    (wellFormed : start.WellFormed) (way : start.Passable (Path.components outDir))
    (plain : Path.Plain path)
    (stage : Stage start outDir options.settings.language made units tree) {failure : Failure}
    (failed : start.compileFile path options.settings = .error failure) :
    ∃ fault, (produceFromFile path options : TreeRun String).run tree = (.error fault, tree) := by
  have same := stage.compileFile_iff wellFormed way plain options.settings
  cases later : tree.compileFile path options.settings with
  | ok compiled => exact absurd (failed.symm.trans ((same compiled).mp later)) (by simp)
  | error fault => exact ⟨fault, produceFromFile_error directory later⟩

/-- A document that compiles at the start leaves its units up to the first that is refused. -/
theorem produceFromFile_compiles (directory : options.outDir = some outDir)
    (output : OutputPath outDir) (wellFormed : start.WellFormed)
    (way : start.Passable (Path.components outDir)) (plain : Path.Plain path)
    (stage : Stage start outDir options.settings.language made units tree)
    {compiled : List SourceUnit}
    (compiles : start.compileFile path options.settings = .ok compiled)
    (free : ∀ unit ∈ compiled, start.node? (Path.components outDir
      ++ [unit.fileName options.settings.language]) ≠ some .directory) :
    ∃ after, (produceFromFile path options : TreeRun String).run tree
      = (if ∀ unit ∈ compiled, UnitFits outDir options.settings.language unit then .ok ""
        else .error (.file .nameTooLong), after) ∧
      Stage start outDir options.settings.language true
        (units ++ compiled.takeWhile fun unit => UnitFits outDir options.settings.language unit)
        after := by
  have named := FileTree.spelled_of_compileFile compiles
  have freeNow := fun unit member => stage.free_next (free unit member)
  obtain ⟨after, wrote, left⟩ := writeUnits_run output named (stage.passable way) freeNow
  have same := stage.compileFile_iff wellFormed way plain options.settings compiled
  have ran := produceFromFile_ok directory (same.mpr compiles) wrote
  refine ⟨after, ?_, ?_⟩
  · rw [ran]
    split <;> rfl
  · exact stage.advance (fun unit member => free unit (List.takeWhile_subset _ member)) left

/-- One document takes the tree to its next stage. -/
theorem produceFromFile_stage (directory : options.outDir = some outDir)
    (output : OutputPath outDir) (wellFormed : start.WellFormed)
    (way : start.Passable (Path.components outDir)) (plain : Path.Plain path)
    (free : ∀ compiled, start.compileFile path options.settings = .ok compiled →
      ∀ unit ∈ compiled, start.node? (Path.components outDir
        ++ [unit.fileName options.settings.language]) ≠ some .directory)
    (stage : Stage start outDir options.settings.language made units tree) :
    let outcome := start.compileFile path options.settings
    ∃ result after, (produceFromFile path options : TreeRun String).run tree = (result, after) ∧
      Stage start outDir options.settings.language (made || outcome.isOk)
        (units ++ unitsLeft outDir options.settings.language outcome) after ∧
      (Succeeds outDir options.settings.language outcome ∧ result = .ok "" ∨
        ¬ Succeeds outDir options.settings.language outcome ∧ ∃ failure, result = .error failure ∧
          ∀ compiled, outcome = .ok compiled → failure = .file .nameTooLong) := by
  intro outcome
  cases compiles : outcome with
  | error failure =>
    obtain ⟨fault, ran⟩ := produceFromFile_fails directory wellFormed way plain stage compiles
    have unchanged : Stage start outDir options.settings.language (made || false) (units ++ [])
        tree := by simpa using stage
    exact ⟨_, tree, ran, unchanged, .inr ⟨by simp [Succeeds], fault, rfl, nofun⟩⟩
  | ok compiled =>
    obtain ⟨after, ran, next⟩ := produceFromFile_compiles directory output wellFormed way plain
      stage compiles (free compiled compiles)
    refine ⟨_, after, ran, (Bool.or_true made).symm ▸ next, ?_⟩
    by_cases all : ∀ unit ∈ compiled, UnitFits outDir options.settings.language unit
    · rw [if_pos all]
      exact .inl ⟨⟨compiled, rfl, all⟩, rfl⟩
    · rw [if_neg all]
      refine .inr ⟨?_, _, rfl, fun _ _ => rfl⟩
      rintro ⟨_, same, fits⟩
      cases same
      exact all fits

end Step
end Document

/-- A failing document, and what is said of it. -/
structure Diagnoses (outcome : String → Except Failure (List SourceUnit)) (path : String)
    (diagnostic : Diagnostic) : Prop where
  input : diagnostic.input = some path
  refused : ∀ units, outcome path = .ok units → diagnostic.failure = .file .nameTooLong

section Run
variable {options : Options} {outDir : String} {start : FileTree}

theorem documents_stage (directory : options.outDir = some outDir) (output : OutputPath outDir)
    (wellFormed : start.WellFormed) (way : start.Passable (Path.components outDir))
    (documents : List String) (plain : ∀ path ∈ documents, Path.Plain path)
    (free : ∀ path ∈ documents, ∀ compiled, start.compileFile path options.settings = .ok compiled →
      ∀ unit ∈ compiled, start.node? (Path.components outDir
        ++ [unit.fileName options.settings.language]) ≠ some .directory)
    {made : Bool} {units : List SourceUnit} {tree : FileTree} (report : Report)
    (stage : Stage start outDir options.settings.language made units tree) :
    let outcome := fun path => start.compileFile path options.settings
    ∃ final after more,
      (documents.foldlM (addDocument options) report : StateM FileTree Report).run tree
        = (final, after) ∧
      Stage start outDir options.settings.language
        (made || documents.any fun path => (outcome path).isOk)
        (units ++ documents.flatMap fun path =>
          unitsLeft outDir options.settings.language (outcome path)) after ∧
      final.output = report.output ∧ final.diagnostics = report.diagnostics ++ more ∧
      List.Forall₂ (Diagnoses outcome) (documents.filter fun path =>
        ¬ Succeeds outDir options.settings.language (outcome path)) more := by
  intro outcome
  induction documents generalizing made units tree report with
  | nil => exact ⟨report, tree, [], rfl, by simpa using stage, rfl, by simp, by simp⟩
  | cons path rest ih =>
    obtain ⟨plainHere, plainLater⟩ := List.forall_mem_cons.mp plain
    obtain ⟨freeHere, freeLater⟩ := List.forall_mem_cons.mp free
    obtain ⟨result, middle, ran, stageNext, told⟩ :=
      produceFromFile_stage directory output wellFormed way plainHere freeHere stage
    obtain ⟨final, after, more, ranLater, stageLast, printed, diagnostics, matched⟩ :=
      ih plainLater freeLater (report.add path result) stageNext
    have stageWhole : Stage start outDir options.settings.language
        (made || (path :: rest).any fun path => (outcome path).isOk)
        (units ++ (path :: rest).flatMap fun path =>
          unitsLeft outDir options.settings.language (outcome path)) after := by
      rw [List.any_cons, List.flatMap_cons, ← Bool.or_assoc, ← List.append_assoc]
      exact stageLast
    have wholeRun := (foldlM_addDocument_cons ran rest report).trans ranLater
    rcases told with ⟨succeeds, rfl⟩ | ⟨fails, failure, rfl, refused⟩
    · refine ⟨final, after, more, wholeRun, stageWhole, printed, diagnostics, ?_⟩
      rw [List.filter_cons_of_neg (by simpa using succeeds)]
      exact matched
    · refine ⟨final, after, ⟨some path, failure⟩ :: more, wholeRun, stageWhole, printed, ?_, ?_⟩
      · rw [diagnostics, Report.add, List.append_assoc, List.singleton_append]
      · rw [List.filter_cons_of_pos (by simpa using fails)]
        exact .cons ⟨rfl, refused⟩ matched

end Run
end CommandLine
end SchemaDecls
