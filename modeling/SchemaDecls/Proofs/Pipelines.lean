import SchemaDecls.CommandLine
import SchemaDecls.Proofs.Sinks

/-!
The four ways of a document through a run. A document comes from the standard input or from a file,
and its units are printed or go into a directory. Each way has steps of its own: one prints while it
goes through the units, one fills a buffer and looks at it before anything is printed, and two hand
the units to files. All four come to compiling first and then either printing one text or writing
files, and a run on files comes to adding what its documents produce to one report.
-/
namespace SchemaDecls
variable {m : Type → Type} [Monad m]

namespace CommandLine

section Reports

/-- Takes up what comes of one more input. Its text follows an empty line where anything is printed
before it; an empty text leaves no mark. -/
def Report.add (report : Report) (input : String) : Except Failure String → Report
  | .ok text =>
    if text.isEmpty then report
    else
      let gap := if report.output.isEmpty then "" else "\n"
      { report with output := report.output ++ gap ++ text }
  | .error failure =>
    { report with diagnostics := report.diagnostics ++ [⟨some input, failure⟩] }

theorem Report.add_text (report : Report) (input : String) {text : String} (filled : text ≠ "") :
    report.add input (.ok text) = { report with
      output := report.output ++ (if report.output.isEmpty then "" else "\n") ++ text } := by
  have some_text : text.isEmpty = false := by simpa using filled
  rw [add, some_text]
  rfl

theorem Report.add_first (input text : String) :
    add {} input (.ok text) = { output := text } := by
  by_cases blank : text = ""
  · subst blank
    rfl
  · rw [add_text {} input blank]
    exact congrArg (Report.mk · []) String.empty_append

theorem Report.add_output_isEmpty (report : Report) (input text : String) :
    (report.add input (.ok text)).output.isEmpty = (report.output.isEmpty && text.isEmpty) := by
  by_cases blank : text = ""
  · subst blank
    simp [add]
  · have some_text : ∀ front, (front ++ text).isEmpty = false := by simpa using blank
    rw [add_text report input blank]
    simp [some_text, blank]

theorem diagnose_run (input : Option String) (failure : Failure) (report : Report) :
    (diagnose input failure : StateT Report m Unit).run report
      = pure ((), { report with diagnostics := report.diagnostics ++ [⟨input, failure⟩] }) := rfl

variable [LawfulMonad m]

/-- Prints the text of a document, behind an empty line where it is to be set apart. -/
def printApart (output : String) (separate : Bool) : ExceptT Failure (StateT Report m) Bool := do
  if output.isEmpty then return false
  if separate then Sink.put "\n"
  Sink.put output
  return true

theorem printApart_text {output : String} (filled : output ≠ "") (separate : Bool) :
    (printApart output separate : ExceptT Failure (StateT Report m) Bool)
      = Sink.put ((if separate then "\n" else "") ++ output) >>= fun _ => pure true := by
  have some_text : output.isEmpty = false := by simpa using filled
  unfold printApart
  simp only [some_text]
  cases separate with
  | true =>
    rw [if_pos rfl, ← LawfulSink.put_put, bind_assoc]
    rfl
  | false =>
    have plain : (if false = true then "\n" else "") ++ output = output := String.empty_append
    rw [plain]
    rfl

/-- A text is set apart where anything is printed already. -/
theorem printApart_run (input output : String) (report : Report) :
    (printApart output (!report.output.isEmpty) : ExceptT Failure (StateT Report m) Bool).run.run
        report
      = pure (.ok (!output.isEmpty), report.add input (.ok output)) := by
  by_cases blank : output = ""
  · subst blank
    rfl
  · have some_text : output.isEmpty = false := by simpa using blank
    rw [printApart_text blank, Report.add_text report input blank, ExceptT.run_bind,
      StateT.run_bind, put_report, pure_bind, some_text]
    cases report.output.isEmpty <;> simp [String.append_assoc]

end Reports

section OnFiles
variable [LawfulMonad m] {α β : Type}

theorem onFiles_run (operation : ExceptT Failure m α) (report : Report) :
    (onFiles operation).run.run report
      = operation.run >>= fun result => pure (result, report) := by
  simp [onFiles, StateT.lift, StateT.run]

/-- What follows work on files sees the report as it was before. -/
theorem onFiles_bind_run (operation : ExceptT Failure m α)
    (next : α → ExceptT Failure (StateT Report m) β) (report : Report) :
    (onFiles operation >>= next).run.run report
      = operation.run >>= fun result =>
          match result with
          | .ok value => (next value).run.run report
          | .error failure => pure (.error failure, report) := by
  rw [ExceptT.run_bind, StateT.run_bind, onFiles_run, bind_assoc]
  refine bind_congr fun result => ?_
  cases result <;> simp

theorem onFiles_bind (first : ExceptT Failure m α) (next : α → ExceptT Failure m β) :
    onFiles (first >>= next) = onFiles first >>= fun value => onFiles (next value) := by
  apply ExceptT.ext
  apply StateT.ext
  intro report
  rw [onFiles_run, onFiles_bind_run, ExceptT.run_bind, bind_assoc]
  refine bind_congr fun result => ?_
  cases result with
  | error failure => simp
  | ok value => exact (onFiles_run (next value) report).symm

theorem onFiles_lift (result : Except Failure α) :
    onFiles (liftM result : ExceptT Failure m α) = liftM result := by
  apply ExceptT.ext
  apply StateT.ext
  intro report
  rw [onFiles_run]
  exact pure_bind result _

theorem onFiles_pure (value : α) : onFiles (pure value : ExceptT Failure m α) = pure value :=
  onFiles_lift (.ok value)

end OnFiles
end CommandLine

variable [Files m]

/-- The text of a file and the format that its name announces. -/
def readDocumentFile (path : String) : ExceptT Failure m (String × DocumentFormat) := do
  let format ← DocumentFormat.ofPath path
  let text ← Files.decode (← Files.attempt (Files.read path))
  return (text, format)

theorem generateFromFile_eq [LawfulMonad m] (path outDir : String) (settings : Settings) :
    (generateFromFile path outDir settings : ExceptT Failure m (List String))
      = readDocumentFile path >>= fun document =>
          liftM (compileText document.1 document.2 settings) >>= fun units =>
            writeUnits units outDir settings.language := by
  unfold generateFromFile readDocumentFile compileText
  simp only [liftM_bind, bind_assoc, pure_bind]

namespace CommandLine

/-- What a document prints: its units, unless they go into files. -/
def produce (text : String) (format : DocumentFormat) (options : Options) :
    ExceptT Failure m String := do
  let units ← compileText text format options.settings
  match options.outDir with
  | none => return printUnits units options.settings.language
  | some outDir =>
    let _ ← writeUnits units outDir options.settings.language
    return ""

def produceFromFile (path : String) (options : Options) : ExceptT Failure m String := do
  let (text, format) ← readDocumentFile path
  produce text format options

def produceFromInput (input : m ByteArray) (options : Options) : ExceptT Failure m String := do
  let text ← Files.decode (← input)
  produce text (options.format.getD .json) options

/-- Takes up the document in a file, as `Report.add` takes up what it produces. -/
def addDocument (options : Options) (report : Report) (path : String) : m Report := do
  return report.add path (← (produceFromFile path options).run)

/-- The report on documents that are taken up in order. -/
def reportFiles (options : Options) : m Report := do
  match ← (discover options.inputs).run with
  | .error failure => return ⟨"", [⟨none, failure⟩]⟩
  | .ok documents => documents.foldlM (addDocument options) {}

def reportInput (input : m ByteArray) (options : Options) : m Report := do
  return Report.add {} "<stdin>" (← (produceFromInput input options).run)

variable [LawfulMonad m]

/-- The ways from the standard input: straight to the output, and into a directory. -/
theorem takeInput_eq (input : m ByteArray) (options : Options) :
    takeInput input options = onFiles (produceFromInput input options) >>= Sink.put := by
  unfold takeInput produceFromInput produce
  simp only [onFiles_bind, onFiles_lift, bind_assoc]
  refine bind_congr fun content => bind_congr fun text => ?_
  cases options.outDir with
  | none => simp only [generateTo_eq, onFiles_pure, pure_bind]
  | some outDir =>
    simp only [compileText, liftM_bind, onFiles_bind, onFiles_pure, bind_assoc, pure_bind,
      LawfulSink.put_empty]

/-- The ways from a file: through a buffer to the output, and into a directory. -/
theorem takeFile_eq (path : String) (options : Options) (printed : Bool) :
    (takeFile path options printed : ExceptT Failure (StateT Report m) Bool)
      = onFiles (produceFromFile path options) >>= fun output => printApart output printed := by
  unfold takeFile produceFromFile produce
  cases options.outDir with
  | none =>
    unfold printDocument readDocumentFile
    simp only [generateText_eq, onFiles_bind, onFiles_lift, onFiles_pure, liftM_bind, liftM_pure,
      bind_assoc, pure_bind]
    rfl
  | some outDir =>
    simp only [generateFromFile_eq, onFiles_bind, onFiles_pure, bind_assoc, pure_bind]
    rfl

/-- Taking up one document more adds what it produces, and whether anything is printed is told by
the output. -/
theorem takeNext_run (options : Options) (path : String) (report : Report) :
    (takeNext options (!report.output.isEmpty) path : StateT Report m Bool).run report
      = addDocument options report path >>= fun next => pure (!next.output.isEmpty, next) := by
  unfold takeNext addDocument
  rw [takeFile_eq, StateT.run_bind, onFiles_bind_run, bind_assoc, bind_assoc]
  refine bind_congr fun result => ?_
  cases result with
  | error failure => simp [diagnose_run, Report.add]
  | ok output => simp [printApart_run path output, Report.add_output_isEmpty]

theorem foldlM_takeNext (options : Options) (documents : List String) (report : Report) :
    (documents.foldlM (takeNext options) (!report.output.isEmpty) : StateT Report m Bool).run report
      = documents.foldlM (addDocument options) report >>= fun final =>
          pure (!final.output.isEmpty, final) := by
  induction documents generalizing report with
  | nil =>
    rw [List.foldlM_nil, List.foldlM_nil, pure_bind]
    rfl
  | cons path rest ih =>
    rw [List.foldlM_cons, List.foldlM_cons, StateT.run_bind, takeNext_run, bind_assoc, bind_assoc]
    refine bind_congr fun next => ?_
    rw [pure_bind]
    exact ih next

theorem runFiles_eq (options : Options) :
    (runFiles options : StateT Report m Unit).run {}
      = reportFiles options >>= fun report => pure ((), report) := by
  unfold runFiles reportFiles
  rw [StateT.run_bind, onFiles_run, bind_assoc, bind_assoc]
  refine bind_congr fun result => ?_
  cases result with
  | error failure => simp [diagnose_run]
  | ok documents =>
    have all := @foldlM_takeNext m _ _ _ options documents {}
    have unprinted : (!("" : String).isEmpty) = false := rfl
    rw [unprinted] at all
    simp [all]

theorem runInput_eq (input : m ByteArray) (options : Options) :
    (runInput input options : StateT Report m Unit).run {}
      = reportInput input options >>= fun report => pure ((), report) := by
  unfold runInput reportInput
  rw [takeInput_eq, StateT.run_bind, onFiles_bind_run, bind_assoc, bind_assoc]
  refine bind_congr fun result => ?_
  cases result with
  | error failure => simp [diagnose_run, Report.add]
  | ok output => simp [put_report, Report.add_first]

/-- A run is told by what its documents produce. -/
theorem run_eq (input : m ByteArray) (options : Options) :
    run input options
      = if options.inputs.isEmpty then reportInput input options else reportFiles options := by
  unfold run
  split <;> simp [runFiles_eq, runInput_eq]

end CommandLine
end SchemaDecls
