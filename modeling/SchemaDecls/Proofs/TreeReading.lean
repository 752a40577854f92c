import SchemaDecls.Proofs.JsonMembers
import SchemaDecls.Proofs.Outcome
import SchemaDecls.Proofs.Pipelines

/-!
What a run reads from a file tree. Looking for documents and reading them changes nothing, so both
are functions of the tree: the documents that an input stands for, and the units that the document
in a file compiles to.
-/
namespace SchemaDecls

/-- Every unit of a text renders a declaration under a normalized name. -/
theorem unit_of_compileText {text : String} {format : DocumentFormat} {settings : Settings}
    {units : List SourceUnit} (compiled : compileText text format settings = .ok units) :
    ∀ unit ∈ units, ∃ moduleName name fields,
      unit = SourceUnit.ofDeclaration moduleName (.ofFields name fields) settings.language := by
  obtain ⟨document, _, rendered⟩ := bind_eq_ok_iff.mp compiled
  obtain ⟨table, declarations, _, run, rfl⟩ :=
    (compile_eq_ok_iff document settings units).mp (mapError_eq_ok_iff.mp rendered)
  have declared := answers_holds (run ▸ tableDeclarations_answers table)
  intro unit member
  obtain ⟨declaration, listed, rfl⟩ := List.mem_map.mp member
  obtain ⟨visit, _, declares⟩ := visit_of_mem declared listed
  refine ⟨document.moduleName settings, visit.name, declaration.fields, ?_⟩
  rw [Declaration.ofFields, ← declares.name]

theorem DocumentFormat.ofPath?_isSome_iff {path : String} :
    (ofPath? path).isSome = true ↔ ∃ format, ofPath path = .ok format := by
  unfold ofPath
  cases ofPath? path <;> simp

theorem CommandLine.mem_documentsAmong_iff {names : List String} {directory path : String} :
    path ∈ documentsAmong names directory ↔ ∃ name ∈ names, path = Path.join directory name ∧
      ∃ format, DocumentFormat.ofPath path = .ok format := by
  unfold documentsAmong
  rw [List.mem_filter, DocumentFormat.ofPath?_isSome_iff]
  simp only [List.mem_map, List.mem_mergeSort]
  constructor
  · rintro ⟨⟨name, listed, rfl⟩, announced⟩
    exact ⟨name, listed, rfl, announced⟩
  · rintro ⟨name, listed, rfl, announced⟩
    exact ⟨⟨name, listed, rfl⟩, announced⟩

namespace FileTree

/-- The text of a file and the format that its name announces. -/
def readDocument (tree : FileTree) (path : String) : Except Failure (String × DocumentFormat) := do
  let format ← DocumentFormat.ofPath path
  let content ← (tree.read path).mapError .file
  let text ← Files.decode content
  return (text, format)

/-- The units of the document in a file. -/
def compileFile (tree : FileTree) (path : String) (settings : Settings) :
    Except Failure (List SourceUnit) := do
  let (text, format) ← tree.readDocument path
  compileText text format settings

theorem compileFile_eq_ok_iff {tree : FileTree} {path : String} {settings : Settings}
    {units : List SourceUnit} :
    tree.compileFile path settings = .ok units ↔
      ∃ format content text, DocumentFormat.ofPath path = .ok format ∧
        tree.read path = .ok content ∧ Files.decode content = .ok text ∧
        compileText text format settings = .ok units := by
  simp only [compileFile, readDocument, bind_eq_ok_iff, mapError_eq_ok_iff, pure, Except.pure,
    Except.ok.injEq, Prod.exists, Prod.mk.injEq]
  constructor
  · rintro ⟨_, _, ⟨format, announced, content, read, text, decoded, rfl, rfl⟩, compiled⟩
    exact ⟨format, content, text, announced, read, decoded, compiled⟩
  · rintro ⟨format, content, text, announced, read, decoded, compiled⟩
    exact ⟨text, format, ⟨format, announced, content, read, text, decoded, rfl, rfl⟩, compiled⟩

theorem unit_of_compileFile {tree : FileTree} {path : String} {settings : Settings}
    {units : List SourceUnit} (compiled : tree.compileFile path settings = .ok units) :
    ∀ unit ∈ units, ∃ moduleName name fields,
      unit = SourceUnit.ofDeclaration moduleName (.ofFields name fields) settings.language := by
  obtain ⟨_, _, _, _, _, _, rendered⟩ := compileFile_eq_ok_iff.mp compiled
  exact unit_of_compileText rendered

/-- The documents that an input stands for: those directly inside a directory, else itself. -/
def documentsFor (tree : FileTree) (input : String) : List String :=
  if tree.isDirectory input then
    CommandLine.documentsAmong ((tree.fileNames input).toOption.getD []) input
  else [input]

theorem checkPath_eq_ok_iff {path : String} :
    checkPath path = .ok () ↔ '\x00' ∉ path.toList ∧ path.utf8ByteSize ≤ pathLimit := by
  unfold checkPath
  by_cases inside : '\x00' ∈ path.toList
  · simp [inside]
  · by_cases long : pathLimit < path.utf8ByteSize
    · simp [inside, long]
    · simp [inside, long, Nat.not_lt.mp long]

theorem look_of_isDirectory {tree : FileTree} {path : String}
    (directory : tree.isDirectory path = true) : tree.look path = .ok .directory := by
  unfold isDirectory at directory
  split at directory
  · assumption
  · cases directory

/-- A path is found where its steps lead to something. -/
theorem look_eq_ok_iff {tree : FileTree} {path : String} {node : FileNode} :
    tree.look path = .ok node ↔ checkPath path = .ok () ∧ path ≠ "" ∧
      ∃ location, tree.follow [] (Path.lookupSteps path) = .ok location ∧
        tree.node? location = some node := by
  unfold look
  cases checkPath path with
  | error fault => simp [bind, Except.bind]
  | ok _ =>
    by_cases empty : path = ""
    · simp [empty, bind, Except.bind]
    · cases followed : tree.follow [] (Path.lookupSteps path) with
      | error fault => simp [empty, find, followed, bind, Except.bind, Except.map]
      | ok location =>
        cases found : tree.node? location <;>
          simp [empty, find, followed, found, bind, Except.bind, Except.map, pure, Except.pure]

theorem read_eq_ok_iff_look {tree : FileTree} {path : String} {content : ByteArray} :
    tree.read path = .ok content ↔ tree.look path = .ok (.file content) := by
  unfold read
  split <;> simp_all

theorem isFile_iff {tree : FileTree} {path : String} :
    tree.isFile path = true ↔ ∃ content, tree.look path = .ok (.file content) := by
  unfold isFile
  split
  · next content found => simp [found]
  · next other => simpa using other

theorem isDirectory_of_isFile {tree : FileTree} {path : String}
    (file : tree.isFile path = true) : tree.isDirectory path = false := by
  obtain ⟨content, found⟩ := isFile_iff.mp file
  unfold isDirectory
  rw [found]

theorem documentsFor_other {tree : FileTree} {input : String}
    (closed : tree.isDirectory input = false) : tree.documentsFor input = [input] := by
  rw [documentsFor, closed]
  rfl

theorem fileNames_of_isDirectory {tree : FileTree} {path : String}
    (directory : tree.isDirectory path = true) : ∃ names, tree.fileNames path = .ok names := by
  have found := look_of_isDirectory directory
  obtain ⟨_, _, location, followed, _⟩ := look_eq_ok_iff.mp found
  unfold fileNames
  rw [found]
  simp only [bind, Except.bind, followed]
  exact ⟨_, rfl⟩

end FileTree

section Runs
variable {α β : Type} {tree after : FileTree}

/-- A computation that may fail, on file trees. -/
abbrev TreeRun (α : Type) := ExceptT Failure (StateM FileTree) α

theorem run_bind_ok {first : TreeRun α} {value : α} (ran : first.run tree = (.ok value, after))
    (next : α → TreeRun β) : (first >>= next).run tree = (next value).run after := by
  rw [ExceptT.run_bind]
  simp only [bind, StateT.bind, ran]

theorem run_bind_error {first : TreeRun α} {failure : Failure}
    (ran : first.run tree = (.error failure, after)) (next : α → TreeRun β) :
    (first >>= next).run tree = (.error failure, after) := by
  rw [ExceptT.run_bind]
  simp only [bind, StateT.bind, ran]
  rfl

theorem run_bind_eq_ok_iff {first : TreeRun α} {next : α → TreeRun β} {result : β} :
    (first >>= next).run tree = (.ok result, after) ↔ ∃ value middle,
      first.run tree = (.ok value, middle) ∧ (next value).run middle = (.ok result, after) := by
  constructor
  · intro whole
    cases ran : first.run tree with
    | mk answer middle =>
      cases answer with
      | error failure =>
        rw [run_bind_error ran] at whole
        cases whole
      | ok value =>
        rw [run_bind_ok ran] at whole
        exact ⟨value, middle, rfl, whole⟩
  · rintro ⟨value, middle, ran, later⟩
    rw [run_bind_ok ran, later]

/-- What two steps read from a tree that neither of them changes. -/
theorem run_bind_reading {first : TreeRun α} {result : Except Failure α}
    (ran : first.run tree = (result, tree)) {next : α → TreeRun β} {answer : α → Except Failure β}
    (each : ∀ value, (next value).run tree = (answer value, tree)) :
    (first >>= next).run tree = (result >>= answer, tree) := by
  cases result with
  | error failure => exact run_bind_error ran next
  | ok value => exact (run_bind_ok ran next).trans (each value)

theorem run_lift (result : Except Failure α) :
    (liftM result : TreeRun α).run tree = (result, tree) := rfl

theorem attempt_run (operation : StateM FileTree (Except FileFault α)) :
    (Files.attempt operation).run tree
      = ((operation tree).1.mapError Failure.file, (operation tree).2) := rfl

end Runs

section Runs
variable (tree : FileTree)

theorem documentsOf_run (input : String) :
    (CommandLine.documentsOf input : TreeRun (List String)).run tree
      = (.ok (tree.documentsFor input), tree) := by
  have asked : (liftM (Files.isDirectory input : StateM FileTree Bool) : TreeRun Bool).run tree
      = (.ok (tree.isDirectory input), tree) := rfl
  unfold CommandLine.documentsOf FileTree.documentsFor
  rw [run_bind_ok asked]
  split
  · next directory =>
    obtain ⟨names, listed⟩ := FileTree.fileNames_of_isDirectory directory
    have scanned : (Files.attempt (Files.fileNames input : StateM FileTree _)).run tree
        = (.ok names, tree) := by
      rw [attempt_run]
      simp only [Files.fileNames, listed]
      rfl
    rw [run_bind_ok scanned, listed]
    rfl
  · rfl

theorem discover_run (inputs : List String) :
    (CommandLine.discover inputs : TreeRun (List String)).run tree
      = (.ok (inputs.flatMap tree.documentsFor), tree) := by
  have each : (inputs.mapM CommandLine.documentsOf : TreeRun (List (List String))).run tree
      = (.ok (inputs.map tree.documentsFor), tree) := by
    induction inputs with
    | nil => rfl
    | cons input rest ih =>
      rw [List.mapM_cons, run_bind_ok (documentsOf_run tree input), run_bind_ok ih]
      rfl
  unfold CommandLine.discover
  rw [run_bind_ok each, List.flatMap]
  rfl

theorem readDocumentFile_run (path : String) :
    (readDocumentFile path : TreeRun (String × DocumentFormat)).run tree
      = (tree.readDocument path, tree) := by
  have content : (Files.attempt (Files.read path : StateM FileTree _)).run tree
      = ((tree.read path).mapError Failure.file, tree) := attempt_run _
  refine run_bind_reading (run_lift _) fun format => ?_
  refine run_bind_reading content fun bytes => ?_
  exact run_bind_reading (run_lift _) fun text => rfl

end Runs
end SchemaDecls
