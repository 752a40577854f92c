import SchemaDecls.Files
import SchemaDecls.Generate

/-! Units as files: one for each unit, inside one directory. -/
namespace SchemaDecls
variable {m : Type → Type} [Monad m] [Files m]

/-- Writes one unit into a directory. Returns the path. -/
def writeUnit (outDir : String) (language : Language) (unit : SourceUnit) :
    ExceptT Failure m String := do
  let path := Path.join outDir (unit.fileName language)
  Files.attempt (Files.write path unit.source.toUTF8)
  return path

/-- Writes units in order, so that of two with one name the later stays. Returns the paths. -/
def writeUnits (units : List SourceUnit) (outDir : String) (language : Language) :
    ExceptT Failure m (List String) := do
  Files.attempt (Files.createDirectories outDir)
  units.mapM (writeUnit outDir language)

/-- Generates declarations from the document in a file and writes them into a directory. -/
def generateFromFile (path outDir : String) (settings : Settings) :
    ExceptT Failure m (List String) := do
  let format ← DocumentFormat.ofPath path
  let text ← Files.decode (← Files.attempt (Files.read path))
  let document ← liftM ((loadDocument text format).mapError Failure.load)
  let units ← liftM ((document.compile settings).mapError Failure.compile)
  writeUnits units outDir settings.language

end SchemaDecls
