import SchemaDecls.DocumentFormat
import SchemaDecls.Files

/-! From the inputs of a run to the documents they stand for. -/
namespace SchemaDecls.CommandLine
variable {m : Type → Type} [Monad m] [Files m]

/-- The names that announce a document, in ascending order, as paths inside a directory. -/
def documentsAmong (names : List String) (directory : String) : List String :=
  ((names.mergeSort fun a b => decide (a ≤ b)).map (Path.join directory)).filter fun path =>
    (DocumentFormat.ofPath? path).isSome

/-- A directory stands for the documents directly inside it, anything else for itself. -/
def documentsOf (input : String) : ExceptT Failure m (List String) := do
  if ← (Files.isDirectory input : m Bool) then
    return documentsAmong (← Files.attempt (Files.fileNames input)) input
  else return [input]

def discover (inputs : List String) : ExceptT Failure m (List String) := do
  return (← inputs.mapM documentsOf).flatten

end SchemaDecls.CommandLine
