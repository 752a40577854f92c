import SchemaDecls.Proofs.PrintedRun

/-!
The two sources of a document. Once its bytes and its format are known, a document from the standard
input and one from a file go the same way: both are decoded, and what is produced from the text
depends on the output directory and the settings alone. The runs differ in the name that stands
before an error, and in nothing else.
-/
namespace SchemaDecls

theorem FileTree.documentsFor_of_read {tree : FileTree} {path : String} {content : ByteArray}
    (read : tree.read path = .ok content) : tree.documentsFor path = [path] := by
  have found := read_eq_ok_iff_look.mp read
  exact documentsFor_other (isDirectory_of_isFile (isFile_iff.mpr ⟨content, found⟩))

theorem FileTree.readDocument_of_read {tree : FileTree} {path : String} {content : ByteArray}
    {format : DocumentFormat} (read : tree.read path = .ok content)
    (announced : DocumentFormat.ofPath? path = some format) :
    tree.readDocument path = (Files.decode content).map fun text => (text, format) := by
  unfold readDocument
  simp only [DocumentFormat.ofPath, announced, read, Except.mapError, bind, Except.bind]
  cases Files.decode content <;> rfl

namespace CommandLine

section Runs
variable {tree after : FileTree} {content : ByteArray} {format : DocumentFormat}
  {result : Except Failure String}

/-- Of what a command line asks for, only the directory and the settings decide what a text produces. -/
theorem produce_congr {options others : Options} (directory : options.outDir = others.outDir)
    (settings : options.settings = others.settings) (text : String) :
    (produce text format options : TreeRun String) = produce text format others := by
  unfold produce
  rw [directory, settings]

/-- The bytes of a file produce what they do on the standard input. -/
theorem produceFromFile_eq_input {inputOptions fileOptions : Options}
    (sameDirectory : inputOptions.outDir = fileOptions.outDir)
    (sameSettings : inputOptions.settings = fileOptions.settings)
    (chosen : inputOptions.format.getD .json = format) {path : String}
    (read : tree.read path = .ok content) (announced : DocumentFormat.ofPath? path = some format) :
    (produceFromFile path fileOptions : TreeRun String).run tree
      = (produceFromInput (pure content) inputOptions : TreeRun String).run tree := by
  have document := readDocumentFile_run tree path
  rw [FileTree.readDocument_of_read read announced] at document
  have given : (liftM (pure content : StateM FileTree ByteArray) : TreeRun ByteArray).run tree
      = (.ok content, tree) := rfl
  have decoded : (liftM (Files.decode content) : TreeRun String).run tree
      = (Files.decode content, tree) := run_lift _
  unfold produceFromFile produceFromInput
  rw [run_bind_ok given]
  cases text : Files.decode content with
  | error failure =>
    rw [text] at document decoded
    rw [run_bind_error document, run_bind_error decoded]
  | ok value =>
    rw [text] at document decoded
    rw [run_bind_ok document, run_bind_ok decoded, chosen,
      produce_congr sameDirectory sameSettings value]

theorem answer_run_input {arguments : List String} {options : Options}
    (parsed : Options.ofArguments arguments = .ok options) (fromInput : options.inputs = [])
    (ran : (produceFromInput (pure content) options : TreeRun String).run tree = (result, after)) :
    (answer (pure content : StateM FileTree ByteArray) arguments).run tree
      = (.reported (Report.add {} "<stdin>" result), after) := by
  have noFiles : options.inputs.isEmpty = true := by simp [fromInput]
  have produced : StateT.run (produceFromInput (pure content) options : TreeRun String).run tree
      = (result, after) := ran
  unfold answer
  simp only [parsed, run_eq, noFiles, if_true]
  rw [StateT.run_map, reportInput, StateT.run_bind, produced]
  rfl

theorem answer_run_file {arguments : List String} {options : Options} {path : String}
    (parsed : Options.ofArguments arguments = .ok options) (fromFile : options.inputs = [path])
    (read : tree.read path = .ok content)
    (ran : (produceFromFile path options : TreeRun String).run tree = (result, after))
    (input : StateM FileTree ByteArray) :
    (answer input arguments).run tree = (.reported (Report.add {} path result), after) := by
  have documents : options.inputs.flatMap tree.documentsFor = [path] := by
    rw [fromFile, List.flatMap_singleton, FileTree.documentsFor_of_read read]
  rw [answer_run_files parsed (by simp [fromFile]), reportFiles_run, documents,
    foldlM_addDocument_cons ran]
  rfl

/-- What is said of the only document of a run. -/
theorem sole_diagnostics (name : String) (result : Except Failure String) :
    (Report.add {} name result).diagnostics.map Diagnostic.line
      = (match result with
        | .ok _ => []
        | .error failure => [failure.message]).map fun message =>
          "Error: " ++ name ++ ": " ++ message := by
  have told := add_diagnostics {} name result id
  cases result with
  | ok text => simpa [Except.map, diagnosticsOf] using told
  | error failure => simp [Report.add, Diagnostic.line, Diagnostic.message, String.append_assoc]

theorem sole_output (name other : String) (result : Except Failure String) :
    (Report.add {} name result).output = (Report.add {} other result).output := by
  cases result <;> rfl

theorem sole_exitCode (name other : String) (result : Except Failure String) :
    (Report.add {} name result).exitCode = (Report.add {} other result).exitCode := by
  cases result <;> rfl

end Runs

/-- A document on the standard input and the same document in a file lead to the same run: the same
output, the same tree, the same exit code and, up to the name of the source, the same errors. That
holds however the run ends, also where it breaks off among the files that it writes. -/
theorem input_run_eq_file_run {inputArguments fileArguments : List String}
    {inputOptions fileOptions : Options}
    (parsedInput : Options.ofArguments inputArguments = .ok inputOptions)
    (parsedFile : Options.ofArguments fileArguments = .ok fileOptions)
    (sameDirectory : inputOptions.outDir = fileOptions.outDir)
    (sameSettings : inputOptions.settings = fileOptions.settings)
    {path : String} (fromInput : inputOptions.inputs = []) (fromFile : fileOptions.inputs = [path])
    {tree : FileTree} {content : ByteArray} {format : DocumentFormat}
    (chosen : inputOptions.format.getD .json = format)
    (read : tree.read path = .ok content) (announced : DocumentFormat.ofPath? path = some format)
    (ignored : StateM FileTree ByteArray) :
    ∃ onInput onFile after, ∃ messages : List String,
      (answer (pure content : StateM FileTree ByteArray) inputArguments).run tree
        = (.reported onInput, after) ∧
      (answer ignored fileArguments).run tree = (.reported onFile, after) ∧
      (fileOptions.outDir = none → after = tree) ∧
      onInput.output = onFile.output ∧ onInput.exitCode = onFile.exitCode ∧
      onInput.diagnostics.map Diagnostic.line
        = messages.map (fun message => "Error: <stdin>: " ++ message) ∧
      onFile.diagnostics.map Diagnostic.line
        = messages.map (fun message => "Error: " ++ path ++ ": " ++ message) := by
  obtain ⟨result, after, ranFile⟩ : ∃ result after,
      (produceFromFile path fileOptions : TreeRun String).run tree = (result, after) :=
    ⟨_, _, rfl⟩
  have ranInput := ranFile
  rw [produceFromFile_eq_input sameDirectory sameSettings chosen read announced] at ranInput
  -- From here on only the name of the source tells the two runs apart.
  have answeredInput := answer_run_input parsedInput fromInput ranInput
  have answeredFile := answer_run_file parsedFile fromFile read ranFile ignored
  have unchanged : fileOptions.outDir = none → after = tree := by
    intro printing
    have kept := produceFromFile_run tree fileOptions printing path
    exact (Prod.mk.inj (ranFile.symm.trans kept)).2
  exact ⟨_, _, after, _, answeredInput, answeredFile, unchanged,
    sole_output "<stdin>" path result, sole_exitCode "<stdin>" path result,
    sole_diagnostics "<stdin>" result, sole_diagnostics path result⟩

/-- A directory stands in the place of the second file that the document leads to. -/
def blocked : FileTree := ⟨[
  (["shelf.JSON"], .file shelfText.toUTF8),
  (["out"], .directory),
  (["out", "Shelf.g.rs"], .directory)]⟩

theorem input_run_eq_file_run_blocked :
    ∃ onInput onFile after,
      (answer (pure shelfText.toUTF8 : StateM FileTree ByteArray)
        ["-fjson", "-lrs", "--out-dir", "out"]).run blocked = (.reported onInput, after) ∧
      (answer (pure .empty : StateM FileTree ByteArray)
        ["shelf.JSON", "-oout", "--language=rust"]).run blocked = (.reported onFile, after) ∧
      onInput.diagnostics.map Diagnostic.line
        = ["Error: <stdin>: Is a directory (os error 21)"] ∧
      onFile.diagnostics.map Diagnostic.line
        = ["Error: shelf.JSON: Is a directory (os error 21)"] ∧
      (after.node? ["out", "Book.g.rs"]).isSome = true := by
  let inputArguments := ["-fjson", "-lrs", "--out-dir", "out"]
  let fileArguments := ["shelf.JSON", "-oout", "--language=rust"]
  let inputOptions : Options :=
    { outDir := some "out", language := some .rust, format := some .json }
  let fileOptions : Options :=
    { inputs := ["shelf.JSON"], outDir := some "out", language := some .rust }
  have parsedInput : Options.ofArguments inputArguments = .ok inputOptions := by decide +kernel
  have parsedFile : Options.ofArguments fileArguments = .ok fileOptions := by decide +kernel
  have announced : DocumentFormat.ofPath? "shelf.JSON" = some .json := by decide +kernel
  obtain ⟨onInput, onFile, after, messages, ranInput, ranFile, _, _, _, toldInput, toldFile⟩ :=
    input_run_eq_file_run parsedInput parsedFile rfl rfl rfl rfl rfl
      (show blocked.read "shelf.JSON" = .ok shelfText.toUTF8 from rfl) announced
      (pure .empty)
  obtain ⟨outcome, written⟩ :
      ((answer (pure shelfText.toUTF8 : StateM FileTree ByteArray) inputArguments).run blocked).1
        = .reported ⟨"", [⟨some "<stdin>", .file .isADirectory⟩]⟩ ∧
      (((answer (pure shelfText.toUTF8 : StateM FileTree ByteArray) inputArguments).run
        blocked).2.node? ["out", "Book.g.rs"]).isSome = true := by decide +kernel
  rw [ranInput] at outcome written
  cases outcome
  refine ⟨_, onFile, after, ranInput, ranFile, rfl, ?_, written⟩
  have single : messages = ["Is a directory (os error 21)"] := by
    have lines : ["Error: <stdin>: " ++ "Is a directory (os error 21)"]
        = messages.map fun message => "Error: <stdin>: " ++ message := toldInput
    obtain ⟨message, rfl, same⟩ := List.map_eq_singleton_iff.mp lines.symm
    exact congrArg (fun text => [text]) ((String.append_right_inj _).mp same)
  rw [toldFile, single]
  rfl

end CommandLine
end SchemaDecls
