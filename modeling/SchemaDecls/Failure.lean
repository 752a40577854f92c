/-! Everything that can go wrong, and the sentence that reports it. -/
namespace SchemaDecls

/-- What is wrong with a schema. -/
inductive Defect where
  | typeRequired
  | unsupportedType (found : String)
  | unknownType (found : String)
  | notPrimitive (found : String)
  | missingItemTitle
  | emptyIdentifier (name : String)
  | unsupportedItems
deriving DecidableEq, Repr

def Defect.message : Defect → String
  | .typeRequired => "schema type is required"
  | .unsupportedType found => "schema type `" ++ found ++ "` is not supported"
  | .unknownType found => "unknown schema type `" ++ found ++ "`"
  | .notPrimitive found => "schema type `" ++ found ++ "` is not a primitive type"
  | .missingItemTitle => "inline object array items must have a title"
  | .emptyIdentifier name => "`" ++ name ++ "` has no letters or digits to form an identifier"
  | .unsupportedItems => "unsupported array item type"

/-- A defect of the schema that a JSON Pointer addresses. -/
structure SchemaFailure where
  path : String
  defect : Defect
deriving DecidableEq, Repr

def SchemaFailure.message (failure : SchemaFailure) : String :=
  failure.path ++ ": " ++ failure.defect.message

/-- What a writer answers that takes no more text. -/
inductive WriterFault where
  | refused
deriving DecidableEq, Repr

/-- Why a document does not compile. -/
inductive CompileFailure where
  | tableMissing
  | schema (failure : SchemaFailure)
  | rendering (fault : WriterFault)
deriving DecidableEq, Repr

def CompileFailure.message : CompileFailure → String
  | .tableMissing => "document has no schemas (expected `components.schemas` or `definitions`)"
  | .schema failure => failure.message
  | .rendering _ => "failed to format generated source"

/-- What is wrong with a JSON text: it ends too early, it is not JSON, or its values have the wrong
shape. -/
inductive JsonFault where
  | truncated | malformed | mismatched
deriving DecidableEq, Repr

/-- Why a text does not load as a document. -/
inductive LoadFailure where
  | json (fault : JsonFault)
  | yaml
deriving DecidableEq, Repr

/-- A stand-in for the wording of the JSON and YAML libraries, which says more: what they expected and
at which line and column. Only the kind of a failure is kept apart here. -/
def LoadFailure.message : LoadFailure → String
  | .json .truncated => "the JSON text ends too early"
  | .json .malformed => "the text is not JSON"
  | .json .mismatched => "the JSON value has an unexpected shape"
  | .yaml => "the text is not a YAML document of the expected shape"

/-- What a file system answers instead of doing what it is asked; the last are the answers that only
a real one gives. -/
inductive FileFault where
  | notFound | notADirectory | isADirectory | exists | nameTooLong | nulInPath | invalidText
  | other (message : String)
deriving DecidableEq, Repr

def FileFault.message : FileFault → String
  | .notFound => "No such file or directory (os error 2)"
  | .notADirectory => "Not a directory (os error 20)"
  | .isADirectory => "Is a directory (os error 21)"
  | .exists => "File exists (os error 17)"
  | .nameTooLong => "File name too long (os error 36)"
  | .nulInPath => "file name contained an unexpected NUL byte"
  | .invalidText => "stream did not contain valid UTF-8"
  | .other message => message

/-- Why declarations cannot be generated from an input. -/
inductive Failure where
  | compile (failure : CompileFailure)
  | load (failure : LoadFailure)
  | unsupportedFormat (path : String)
  | file (fault : FileFault)
deriving DecidableEq, Repr

def Failure.message : Failure → String
  | .compile failure => failure.message
  | .load failure => failure.message
  | .unsupportedFormat path =>
    path ++ ": unsupported document format (expected .json, .yaml or .yml)"
  | .file fault => fault.message

end SchemaDecls
