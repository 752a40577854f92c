import SchemaDecls.Json.Token

/-! JSON values. A tree holds a text as far as it is JSON; where the text breaks off, it holds the
break. A break is the last thing of its tree in the order of the text. -/
namespace SchemaDecls.Json

mutual

inductive Tree where
  | null
  | boolean (value : Bool)
  | number (inRange : Bool)
  | text (text : Text)
  | array (elements : Elements)
  | object (members : Entries)
  | broken (fault : Break)

inductive Elements where
  | closed
  | cut (fault : Break)
  | cons (element : Tree) (rest : Elements)

inductive Entries where
  | closed
  | cut (fault : Break)
  | cons (key : Text) (value : Tree) (rest : Entries)

end

/-- `before`, last first, and then `rest`. -/
def Elements.prepend (before : List Tree) (rest : Elements) : Elements :=
  before.foldl (fun rest element => .cons element rest) rest

def Entries.prepend (before : List (Text × Tree)) (rest : Entries) : Entries :=
  before.foldl (fun rest entry => .cons entry.1 entry.2 rest) rest

/-- A container that is still open, with what stands before the value being read, last first. -/
inductive Frame where
  | array (before : List Tree)
  | object (before : List (Text × Tree))
  | member (before : List (Text × Tree)) (key : Text)

/-- What has to come next. -/
inductive Awaiting where
  | value
  | element
  | firstKey
  | key
  | colon (key : Text)
  | next

/-- A text as one value and whatever follows it. -/
structure Parsed where
  root : Tree
  trailing : Bool

/-- The whole tree around an innermost value at which the text breaks off. -/
def enclose (fault : Break) (inner : Tree) : List Frame → Tree
  | [] => inner
  | .array before :: outer =>
    enclose fault (.array (.prepend before (.cons inner (.cut fault)))) outer
  | .object before :: outer => enclose fault (.object (.prepend before (.cut fault))) outer
  | .member before key :: outer =>
    enclose fault (.object (.prepend before (.cons key inner (.cut fault)))) outer

/-- The tree of a text that breaks off where `awaiting` is due. -/
def breakOff (fault : Break) (awaiting : Awaiting) (frames : List Frame) : Parsed :=
  match awaiting, frames with
  | .value, frames | .element, frames => ⟨enclose fault (.broken fault) frames, false⟩
  | .colon key, .object before :: outer =>
    ⟨enclose fault (.broken fault) (.member before key :: outer), false⟩
  | _, .array before :: outer =>
    ⟨enclose fault (.array (.prepend before (.cut fault))) outer, false⟩
  | _, .object before :: outer | _, .member before _ :: outer =>
    ⟨enclose fault (.object (.prepend before (.cut fault))) outer, false⟩
  | _, [] => ⟨.broken fault, false⟩

/-- What one more token does. -/
inductive Advance where
  | go (awaiting : Awaiting) (frames : List Frame)
  | whole (root : Tree)
  | stuck (fault : Break)

/-- Puts a complete value into the innermost open container; without one it is the whole. -/
def place (value : Tree) : List Frame → Advance
  | [] => .whole value
  | .array before :: outer => .go .next (.array (value :: before) :: outer)
  | .object before :: outer => .go .next (.object before :: outer)
  | .member before key :: outer => .go .next (.object ((key, value) :: before) :: outer)

def beginValue (frames : List Frame) : Token → Advance
  | .openArray => .go .element (.array [] :: frames)
  | .openObject => .go .firstKey (.object [] :: frames)
  | .null => place .null frames
  | .boolean value => place (.boolean value) frames
  | .number inRange => place (.number inRange) frames
  | .text text => place (.text text) frames
  | .broken fault | .brokenText fault => .stuck fault
  | .closeArray | .closeObject | .comma | .colon => .stuck .malformed

def closeArray : List Frame → Advance
  | .array before :: outer => place (.array (.prepend before .closed)) outer
  | _ => .stuck .malformed

def closeObject : List Frame → Advance
  | .object before :: outer => place (.object (.prepend before .closed)) outer
  | _ => .stuck .malformed

def readKey (frames : List Frame) : Token → Advance
  | .text key => .go (.colon key) frames
  | .brokenText fault => .stuck fault
  | _ => .stuck .malformed

def advance (awaiting : Awaiting) (frames : List Frame) (token : Token) : Advance :=
  match awaiting with
  | .value => beginValue frames token
  | .element => if token = .closeArray then closeArray frames else beginValue frames token
  | .firstKey => if token = .closeObject then closeObject frames else readKey frames token
  | .key => readKey frames token
  | .colon key =>
    match token, frames with
    | .colon, .object before :: outer => .go .value (.member before key :: outer)
    | _, _ => .stuck .malformed
  | .next =>
    match token, frames with
    | .closeArray, frames => closeArray frames
    | .closeObject, frames => closeObject frames
    | .comma, .array before :: outer => .go .value (.array before :: outer)
    | .comma, .object before :: outer => .go .key (.object before :: outer)
    | _, _ => .stuck .malformed

/-- Reads on where `awaiting` is due inside the open `frames`. -/
def assemble (awaiting : Awaiting) (frames : List Frame) : List Token → Parsed
  | [] => breakOff .truncated awaiting frames
  | token :: rest =>
    match advance awaiting frames token with
    | .go awaiting frames => assemble awaiting frames rest
    | .whole root => ⟨root, !rest.isEmpty⟩
    | .stuck fault => breakOff fault awaiting frames

def parse (text : String) : Parsed := assemble .value [] (tokens text)

end SchemaDecls.Json
