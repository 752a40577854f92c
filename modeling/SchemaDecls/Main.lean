import SchemaDecls.CommandLine

/-! The program: generates declarations from documents in files or on the standard input. -/
namespace SchemaDecls

def FileFault.ofError : IO.Error → FileFault
  | .noFileOrDirectory .. => .notFound
  | .alreadyExists .. => .exists
  | .inappropriateType _ 21 _ => .isADirectory
  | .inappropriateType .. => .notADirectory
  | .invalidArgument _ 36 _ => .nameTooLong
  | error => .other (toString error)

def realOutcome (action : IO α) : IO (Except FileFault α) := do
  return (← action.toBaseIO).mapError FileFault.ofError

def isRealDirectory (path : String) : IO Bool := do
  try (← IO.FS.realPath path).isDir
  catch _ => return false

def isRealFile (path : String) : IO Bool := do
  try return (← (← IO.FS.realPath path).metadata).type matches .file
  catch _ => return false

instance : Files IO where
  isDirectory := isRealDirectory
  fileNames path := realOutcome do
    let entries ← (← IO.FS.realPath path).readDir
    let files ← entries.filterM fun entry => isRealFile (Path.join path entry.fileName)
    return (files.map fun entry => entry.fileName).toList
  read path := realOutcome (IO.FS.readBinFile path)
  write path content := realOutcome (IO.FS.writeBinFile path content)
  createDirectories path := realOutcome do
    try IO.FS.createDir path
    catch
      | .noFileOrDirectory .. => IO.FS.createDirAll path
      | error => unless ← isRealDirectory path do throw error

def printOutcome : CommandLine.Outcome → IO Unit
  | .misused fault => IO.eprintln ("error: " ++ fault.message)
  | .reported report => do
    IO.print report.output
    for diagnostic in report.diagnostics do
      IO.eprintln diagnostic.line

end SchemaDecls

def main (arguments : List String) : IO UInt32 := do
  let input : IO ByteArray := do (← IO.getStdin).readBinToEnd
  let outcome ← SchemaDecls.CommandLine.answer input arguments
  SchemaDecls.printOutcome outcome
  return outcome.exitCode.toUInt32
