import SchemaDecls.FileTree

/-! File operations as a program sees them: real ones, or those on a file tree. -/
namespace SchemaDecls

/-- The file operations of a run, in the monad that the run happens in. -/
class Files (m : Type → Type) where
  isDirectory : String → m Bool
  /-- The names of the files directly inside a directory that a path through it reaches, in any
  order. -/
  fileNames : String → m (Except FileFault (List String))
  read : String → m (Except FileFault ByteArray)
  /-- Puts a file where none is or in the place of another. -/
  write : String → ByteArray → m (Except FileFault Unit)
  /-- Makes a directory and every missing directory above it. -/
  createDirectories : String → m (Except FileFault Unit)

instance : Files (StateM FileTree) where
  isDirectory path := fun tree => (tree.isDirectory path, tree)
  fileNames path := fun tree => (tree.fileNames path, tree)
  read path := fun tree => (tree.read path, tree)
  write path content := fun tree =>
    match tree.write path content with
    | .ok written => (.ok (), written)
    | .error fault => (.error fault, tree)
  createDirectories path := fun tree => tree.createDirectories path

namespace Files
variable {m : Type → Type} [Monad m]

/-- Runs a file operation whose fault ends what it is part of. -/
def attempt (operation : m (Except FileFault α)) : ExceptT Failure m α :=
  ExceptT.mk (Except.mapError Failure.file <$> operation)

/-- The text that bytes encode. -/
def decode (content : ByteArray) : Except Failure String :=
  match String.fromUTF8? content with
  | some text => .ok text
  | none => .error (.file .invalidText)

end Files
end SchemaDecls
