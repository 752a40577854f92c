import SchemaDecls.Sink

/-! What a run tells its caller: its standard output, and a line for each failure. -/
namespace SchemaDecls.CommandLine

/-- A failure, and the input that it concerns. -/
structure Diagnostic where
  input : Option String
  failure : Failure
deriving DecidableEq, Repr

def Diagnostic.message (diagnostic : Diagnostic) : String :=
  match diagnostic.input with
  | some input => input ++ ": " ++ diagnostic.failure.message
  | none => diagnostic.failure.message

/-- The line that reports a failure. -/
def Diagnostic.line (diagnostic : Diagnostic) : String := "Error: " ++ diagnostic.message

structure Report where
  output : String := ""
  diagnostics : List Diagnostic := []
deriving DecidableEq, Repr

namespace Report

def exitCode (report : Report) : UInt8 := if report.diagnostics.isEmpty then 0 else 1

end Report

section Telling
variable {m : Type → Type} [Monad m]

/-- What is printed goes behind the output so far. -/
instance : Sink (StateT Report m) where
  write text := modifyGet fun report => (.ok (), { report with output := report.output ++ text })

def diagnose (input : Option String) (failure : Failure) : StateT Report m Unit :=
  modify fun report => { report with diagnostics := report.diagnostics ++ [⟨input, failure⟩] }

end Telling
end SchemaDecls.CommandLine
