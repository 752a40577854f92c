import SchemaDecls.DocumentFormat
import SchemaDecls.Language

/-! The arguments of the command line. -/
namespace SchemaDecls.CommandLine

/-- An option that takes a value. -/
inductive Setting where
  | outDir | language | defaultNamespace | format
deriving DecidableEq, Repr

namespace Setting

def letter : Setting → Char
  | .outDir => 'o'
  | .language => 'l'
  | .defaultNamespace => 'n'
  | .format => 'f'

def name : Setting → String
  | .outDir => "out-dir"
  | .language => "language"
  | .defaultNamespace => "namespace"
  | .format => "format"

def all : List Setting := [.outDir, .language, .defaultNamespace, .format]

def ofLetter? (letter : Char) : Option Setting := all.find? fun setting => setting.letter == letter

def ofName? (name : String) : Option Setting := all.find? fun setting => setting.name == name

end Setting

/-- What a command line asks for. -/
structure Options where
  inputs : List String := []
  outDir : Option String := none
  language : Option Language := none
  defaultNamespace : Option String := none
  format : Option DocumentFormat := none
deriving DecidableEq, Repr

/-- What is wrong with a command line. -/
inductive UsageFault where
  | unknownArgument (argument : String)
  | missingValue (setting : Setting)
  | unexpectedValue (argument : String)
  | emptyValue
  | unknownValue (setting : Setting) (value : String)
  | repeated (setting : Setting)
deriving DecidableEq, Repr

def UsageFault.message : UsageFault → String
  | .unknownArgument argument => "unexpected argument '" ++ argument ++ "'"
  | .missingValue setting => "a value is required for '--" ++ setting.name ++ "'"
  | .unexpectedValue argument => "'" ++ argument ++ "' takes no value"
  | .emptyValue => "a path is required"
  | .unknownValue setting value => "invalid value '" ++ value ++ "' for '--" ++ setting.name ++ "'"
  | .repeated setting => "'--" ++ setting.name ++ "' cannot be used twice"

/-- Why the reading of arguments ends before its last one. -/
inductive Stop where
  | help
  | version
  | fault (fault : UsageFault)
deriving DecidableEq, Repr

def languageOfName? : String → Option Language
  | "csharp" | "cs" => some .csharp
  | "rust" | "rs" => some .rust
  | _ => none

def formatOfName? : String → Option DocumentFormat
  | "json" => some .json
  | "yaml" => some .yaml
  | _ => none

def nonempty (path : String) : Except Stop String :=
  if path.isEmpty then .error (.fault .emptyValue) else .ok path

namespace Options

def addInput (options : Options) (path : String) : Except Stop Options := do
  return { options with inputs := options.inputs ++ [← nonempty path] }

def isSet (options : Options) : Setting → Bool
  | .outDir => options.outDir.isSome
  | .language => options.language.isSome
  | .defaultNamespace => options.defaultNamespace.isSome
  | .format => options.format.isSome

/-- Gives an option its value, once. -/
def assign (options : Options) (setting : Setting) (value : String) : Except Stop Options := do
  if options.isSet setting then .error (.fault (.repeated setting))
  else
    match setting with
    | .outDir => return { options with outDir := some (← nonempty value) }
    | .defaultNamespace => return { options with defaultNamespace := some value }
    | .language =>
      match languageOfName? value with
      | some language => return { options with language := some language }
      | none => .error (.fault (.unknownValue setting value))
    | .format =>
      match formatOfName? value with
      | some format => return { options with format := some format }
      | none => .error (.fault (.unknownValue setting value))

def settings (options : Options) : Settings :=
  let defaults : Settings := {}
  ⟨options.language.getD defaults.language,
    options.defaultNamespace.getD defaults.defaultNamespace⟩

end Options

/-- What has been read of a command line. -/
structure Reading where
  options : Options := {}
  /-- The option whose value has to come next. -/
  awaiting : Option Setting := none
  /-- Whether all that comes is an input. -/
  inputsOnly : Bool := false
deriving DecidableEq, Repr

namespace Reading

def settle (reading : Reading) (setting : Setting) (value : String) : Except Stop Reading := do
  return { reading with options := ← reading.options.assign setting value, awaiting := none }

/-- Reads `name` or `name=value`, which two dashes introduce. -/
def long (reading : Reading) (text : List Char) : Except Stop Reading :=
  let name := String.ofList (text.takeWhile (· != '='))
  let written := "--" ++ String.ofList text
  match Setting.ofName? name, text.dropWhile (· != '=') with
  | some setting, [] => .ok { reading with awaiting := some setting }
  | some setting, _ :: value => reading.settle setting (String.ofList value)
  | none, value =>
    if name = "help" || name = "version" then
      if value.isEmpty then .error (if name = "help" then .help else .version)
      else .error (.fault (.unexpectedValue written))
    else .error (.fault (.unknownArgument written))

/-- Reads letters, which one dash introduces. What follows the letter of an option that takes a
value is the value; an equals sign may stand between. -/
def short (reading : Reading) : List Char → Except Stop Reading
  | [] => .ok reading
  | 'v' :: rest => short reading rest
  | 'h' :: _ => .error .help
  | 'V' :: _ => .error .version
  | letter :: rest =>
    match Setting.ofLetter? letter, rest with
    | some setting, [] => .ok { reading with awaiting := some setting }
    | some setting, '=' :: value => reading.settle setting (String.ofList value)
    | some setting, value => reading.settle setting (String.ofList value)
    | none, _ => .error (.fault (.unknownArgument (String.ofList ['-', letter])))

/-- Reads an argument that is no value: a dash alone is an input. -/
def plain (reading : Reading) (argument : String) : Except Stop Reading :=
  match argument.toList with
  | ['-', '-'] => .ok { reading with inputsOnly := true }
  | '-' :: '-' :: text => reading.long text
  | '-' :: letter :: rest => reading.short (letter :: rest)
  | _ => do return { reading with options := ← reading.options.addInput argument }

/-- Whether an argument introduces options and so is no value. -/
def isOption (argument : String) : Bool := argument.toList.head? = some '-' && argument != "-"

def next (reading : Reading) (argument : String) : Except Stop Reading :=
  if reading.inputsOnly then do
    return { reading with options := ← reading.options.addInput argument }
  else
    match reading.awaiting with
    | some setting =>
      if isOption argument then .error (.fault (.missingValue setting))
      else reading.settle setting argument
    | none => reading.plain argument

def finish (reading : Reading) : Except Stop Options :=
  match reading.awaiting with
  | some setting => .error (.fault (.missingValue setting))
  | none => .ok reading.options

end Reading

/-- Reads arguments in order; the first that stops the reading decides what comes of it. -/
def Options.ofArguments (arguments : List String) : Except Stop Options :=
  arguments.foldlM Reading.next {} >>= Reading.finish

end SchemaDecls.CommandLine
