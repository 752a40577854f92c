import SchemaDecls.CommandLine.Arguments
import SchemaDecls.CommandLine.Discovery
import SchemaDecls.CommandLine.Report
import SchemaDecls.UnitFiles

/-! The program that the command line runs. -/
namespace SchemaDecls.CommandLine
variable {m : Type → Type} [Monad m] [Files m]

/-- Work on files in the middle of a run. It prints nothing. -/
def onFiles (operation : ExceptT Failure m α) : ExceptT Failure (StateT Report m) α :=
  ExceptT.mk (StateT.lift operation.run)

/-- Prints the units of the document in a file, behind an empty line where they are to be set apart.
Returns whether anything is printed. -/
def printDocument (path : String) (settings : Settings) (separate : Bool) :
    ExceptT Failure (StateT Report m) Bool := do
  let format ← DocumentFormat.ofPath path
  let text ← Files.decode (← onFiles (Files.attempt (Files.read path)))
  let output ← generateText text format settings
  if output.isEmpty then return false
  if separate then Sink.put "\n"
  Sink.put output
  return true

/-- Takes up the document in a file: its units go into the directory that is chosen, else they are
printed. Returns whether anything is printed. -/
def takeFile (path : String) (options : Options) (printed : Bool) :
    ExceptT Failure (StateT Report m) Bool := do
  match options.outDir with
  | none => printDocument path options.settings printed
  | some outDir =>
    let _ ← onFiles (generateFromFile path outDir options.settings)
    return false

/-- Takes up the document on the standard input, which is read only here. -/
def takeInput (input : m ByteArray) (options : Options) :
    ExceptT Failure (StateT Report m) Unit := do
  let text ← Files.decode (← onFiles (ExceptT.lift input))
  let format := options.format.getD .json
  match options.outDir with
  | none => generateTo text format options.settings
  | some outDir =>
    let document ← liftM ((loadDocument text format).mapError Failure.load)
    let units ← liftM ((document.compile options.settings).mapError Failure.compile)
    let _ ← onFiles (writeUnits units outDir options.settings.language)

/-- Takes up one document more. A failure is reported and passed over. Returns whether anything is
printed by now. -/
def takeNext (options : Options) (printed : Bool) (path : String) : StateT Report m Bool := do
  match ← (takeFile path options printed).run with
  | .ok more => return printed || more
  | .error failure =>
    diagnose path failure
    return printed

/-- Runs on the documents that inputs stand for, in order. -/
def runFiles (options : Options) : StateT Report m Unit := do
  match ← (onFiles (discover options.inputs)).run with
  | .error failure => diagnose none failure
  | .ok documents =>
    let _ ← documents.foldlM (takeNext options) false

def runInput (input : m ByteArray) (options : Options) : StateT Report m Unit := do
  match ← (takeInput input options).run with
  | .error failure => diagnose "<stdin>" failure
  | .ok () => return

def run (input : m ByteArray) (options : Options) : m Report := do
  let ((), report) ←
    (if options.inputs.isEmpty then runInput input options else runFiles options).run {}
  return report

/-- What a command line comes to. -/
inductive Outcome where
  | misused (fault : UsageFault)
  | reported (report : Report)
deriving DecidableEq, Repr

def Outcome.exitCode : Outcome → UInt8
  | .misused _ => 2
  | .reported report => report.exitCode

def version : String := "openapi-codegen 0.1.0\n"

def help : String :=
  Text.unlines [
    "Generate C# or Rust data declarations from OpenAPI schemas",
    "",
    "Usage: openapi-codegen [OPTIONS] [INPUT]...",
    "",
    "Arguments:",
    "  [INPUT]...  OpenAPI documents, or directories scanned for .json/.yaml/.yml files",
    "",
    "Options:",
    "  -o, --out-dir <DIR>          Write one `\x7bName\x7d.g.\x7bext\x7d` file per declaration " ++
      "into this directory",
    "  -l, --language <LANGUAGE>    Language to generate [default: csharp] " ++
      "[possible values: csharp, rust]",
    "  -n, --namespace <NAMESPACE>  Namespace for documents without an `info.title` " ++
      "[default: GeneratedClasses]",
    "  -f, --format <FORMAT>        Format of the document read from stdin [default: json] " ++
      "[possible values: json, yaml]",
    "  -v...                        Increase verbosity (-v, -vv, -vvv)",
    "  -h, --help                   Print help",
    "  -V, --version                Print version"]

def answer (input : m ByteArray) (arguments : List String) : m Outcome :=
  match Options.ofArguments arguments with
  | .ok options => Outcome.reported <$> run input options
  | .error .help => return .reported ⟨help, []⟩
  | .error .version => return .reported ⟨version, []⟩
  | .error (.fault fault) => return .misused fault

end SchemaDecls.CommandLine
