import SchemaDecls.Compile
import SchemaDecls.DocumentFormat
import SchemaDecls.Json.Decode
import SchemaDecls.Sink
import SchemaDecls.Written.Resolve
import SchemaDecls.Yaml.Decode

/-! From the text of a document to units, and units written out as text. -/
namespace SchemaDecls

def readWritten (text : String) : DocumentFormat → Except LoadFailure WrittenDocument
  | .json => (Json.readDocument text).mapError .json
  | .yaml =>
    match Yaml.readDocument text with
    | some written => .ok written
    | none => .error .yaml

/-- The document that a text holds, its references resolved. -/
def loadDocument (text : String) (format : DocumentFormat) : Except LoadFailure Document :=
  (readWritten text format).map WrittenDocument.resolve

/-- The units of the document that a text holds. -/
def compileText (text : String) (format : DocumentFormat) (settings : Settings) :
    Except Failure (List SourceUnit) := do
  let document ← (loadDocument text format).mapError .load
  (document.compile settings).mapError .compile

section Output
variable {m : Type → Type} [Monad m] [Sink m]

/-- Writes units one after the other, each under a line that names its file, with an empty line before
each but the first. -/
def writeBlocks (units : List SourceUnit) (language : Language) : ExceptT Failure m Unit :=
  units.zipIdx.forM fun (unit, index) => do
    if 0 < index then Sink.put "\n"
    Sink.put ("// " ++ unit.fileName language ++ "\n")
    Sink.put unit.source

/-- Generates declarations from the text of a document and writes them to a sink. Nothing is written
unless the whole document compiles. -/
def generateTo (text : String) (format : DocumentFormat) (settings : Settings) :
    ExceptT Failure m Unit := do
  let document ← liftM ((loadDocument text format).mapError Failure.load)
  let units ← liftM ((document.compile settings).mapError Failure.compile)
  writeBlocks units settings.language

end Output

/-- The declarations of a document as one text, generated into a buffer. -/
def generateText (text : String) (format : DocumentFormat) (settings : Settings) :
    Except Failure String :=
  let (result, buffer) := (generateTo text format settings : ExceptT Failure (StateM String) Unit) ""
  result.map fun () => buffer

end SchemaDecls
