import SchemaDecls.Yaml.Scalar.Block
import SchemaDecls.Yaml.Scalar.Plain
import SchemaDecls.Yaml.Scalar.Quoted
import SchemaDecls.Yaml.Tag

/-! Scanning a YAML text into its elements. An element that may turn out to be a key is remembered
until a colon follows it on its line; the key and the mapping it opens are then put in front of
it. -/
namespace SchemaDecls.Yaml

/-- An element that a colon would make a key. It has to become one when nothing else may stand at
its column. -/
structure PossibleKey where
  required : Bool
  token : Nat
  at_ : Position
deriving DecidableEq, Repr

structure Scanner where
  cursor : Cursor
  /-- Columns of the open block collections, innermost first. -/
  indents : List Nat
  /-- The possible key of the innermost brackets, or of the block around them all. -/
  key : Option PossibleKey
  /-- The possible keys outside the innermost brackets, one for each pair of brackets. -/
  outerKeys : List (Option PossibleKey)
  keyAllowed : Bool
  tokens : Array Token

namespace Scanner

def start (text : List Char) : Scanner where
  cursor := ⟨Position.start, text⟩
  indents := []
  key := none
  outerKeys := []
  keyAllowed := true
  tokens := #[]

def flow (s : Scanner) : Bool := !s.outerKeys.isEmpty

def at_ (s : Scanner) : Position := s.cursor.at_

def emit (s : Scanner) (token : Token) : Scanner := { s with tokens := s.tokens.push token }

def insert (s : Scanner) (index : Nat) (token : Token) : Scanner :=
  { s with tokens := s.tokens.insertIdxIfInBounds index token }

def allowKey (s : Scanner) (allowed : Bool) : Scanner := { s with keyAllowed := allowed }

/-- Gives up the possible key. -/
def dropKey (s : Scanner) : Option Scanner :=
  if s.key.any PossibleKey.required then none else some { s with key := none }

/-- Remembers that the next element may be a key. -/
def saveKey (s : Scanner) : Option Scanner :=
  if s.keyAllowed then do
    let required := !s.flow && s.indents.head? == some s.at_.column
    let s ← s.dropKey
    return { s with key := some ⟨required, s.tokens.size, s.at_⟩ }
  else some s

/-- A key lies within a line and is followed by its colon within 1024 octets. -/
def PossibleKey.isStale (key : PossibleKey) (at_ : Position) : Bool :=
  key.at_.line < at_.line || key.at_.octets + 1024 < at_.octets

def refresh (at_ : Position) (key : Option PossibleKey) : Option (Option PossibleKey) :=
  match key with
  | none => some none
  | some key =>
    if PossibleKey.isStale key at_ then (if key.required then none else some none)
    else some (some key)

/-- Gives up the possible keys that have become too old. -/
def dropStaleKeys (s : Scanner) : Option Scanner := do
  let key ← refresh s.at_ s.key
  let outerKeys ← s.outerKeys.mapM (refresh s.at_)
  return { s with key := key, outerKeys := outerKeys }

/-- Opens a block collection at a column right of the innermost one; its start is put in front of
the token `index`, or last. -/
def indentTo (s : Scanner) (column : Nat) (index : Option Nat) (start : Token) : Scanner :=
  if s.flow || s.indents.head?.any (column ≤ ·) then s
  else
    let s := { s with indents := column :: s.indents }
    match index with
    | some index => s.insert index start
    | none => s.emit start

/-- Closes the block collections whose columns `inside` refuses. -/
def unindent (s : Scanner) (inside : Nat → Bool) : Scanner :=
  if s.flow then s
  else
    let closed := s.indents.takeWhile fun column => !inside column
    { s with
      indents := s.indents.drop closed.length
      tokens := closed.foldl (fun tokens _ => tokens.push .blockEnd) s.tokens }

def unindentAll (s : Scanner) : Scanner := s.unindent fun _ => false

/-- Passes over blanks, comments and line breaks, and over a byte order mark at the start of a
line. A tab may not indent a block. Returns whether a key may begin, and where. -/
def skipToToken (flow keyAllowed comment : Bool) (at_ : Position) : List Char → Bool × Cursor
  | [] => (keyAllowed, ⟨at_, []⟩)
  | c :: rest =>
    if isBreak c then skipToToken flow (keyAllowed || !flow) false at_.down rest
    else if comment then skipToToken flow keyAllowed true (at_.past c) rest
    else if c == ' ' || (c == '\t' && (flow || !keyAllowed)) ||
        (c == '\ufeff' && at_.column == 0) then
      skipToToken flow keyAllowed false (at_.past c) rest
    else if c == '#' then skipToToken flow keyAllowed true (at_.past c) rest
    else (keyAllowed, ⟨at_, c :: rest⟩)

def skipSpace (s : Scanner) : Scanner :=
  let (keyAllowed, cursor) := skipToToken s.flow s.keyAllowed false s.at_ s.cursor.rest
  { s with keyAllowed := keyAllowed, cursor := cursor }

/-- Takes an element of `count` characters. -/
def take (s : Scanner) (count : Nat) (token : Token) : Scanner :=
  { s with cursor := s.cursor.skip count }.emit token

def takeScanned (s : Scanner) (scanned : Token × Cursor) : Scanner :=
  { s with cursor := scanned.2 }.emit scanned.1

/-- Anything that belongs to no block collection ends them all. -/
def closeAll (s : Scanner) : Option Scanner :=
  s.unindentAll.dropKey.map fun s => s.allowKey false

def openFlow (s : Scanner) (token : Token) : Option Scanner := do
  let s ← s.saveKey
  return { s with key := none, outerKeys := s.key :: s.outerKeys, keyAllowed := true }.take 1 token

def closeFlow (s : Scanner) (token : Token) : Option Scanner := do
  let s ← s.dropKey
  let s :=
    match s.outerKeys with
    | [] => s
    | key :: outer => { s with key := key, outerKeys := outer }
  return (s.allowKey false).take 1 token

/-- The sign of an entry or of an explicit key, which opens a block collection at its column. -/
def openEntry (s : Scanner) (start token : Token) (keyAfter : Bool) : Option Scanner :=
  if !s.flow && !s.keyAllowed then none
  else do
    let s ← (s.indentTo s.at_.column none start).dropKey
    return (s.allowKey keyAfter).take 1 token

def colon (s : Scanner) : Option Scanner :=
  match s.key with
  | some key =>
    let s := s.insert key.token .key
    let s := s.indentTo key.at_.column (some key.token) .blockMappingStart
    some ({ s with key := none, keyAllowed := false }.take 1 .value)
  | none =>
    if !s.flow && !s.keyAllowed then none
    else
      let s := s.indentTo s.at_.column none .blockMappingStart
      some ((s.allowKey !s.flow).take 1 .value)

def anchored (s : Scanner) (token : String → Token) : Option Scanner := do
  let s ← s.saveKey
  let (name, cursor) ← anchorName? s.cursor
  return (s.allowKey false).takeScanned (token name, cursor)

def tagged (s : Scanner) : Option Scanner := do
  let s ← s.saveKey
  return (s.allowKey false).takeScanned (← tag? s.flow s.cursor)

def block (s : Scanner) (literal : Bool) : Option Scanner := do
  let s ← s.dropKey
  let (header, cursor) ← blockHeader? literal (s.cursor.skip 1)
  let (value, cursor) ← blockScalar (.start header s.indents.head?) cursor.at_ cursor.rest
  return (s.allowKey true).takeScanned (.scalar false value, cursor)

def quoted (s : Scanner) (double : Bool) : Option Scanner := do
  let s ← s.saveKey
  let inside := s.cursor.skip 1
  let (value, cursor) ←
    if double then doubleQuoted .text "" .none inside.at_ inside.rest
    else singleQuoted "" .none inside.at_ inside.rest
  return (s.allowKey false).takeScanned (.scalar false value, cursor)

/-- A plain scalar; a key may follow it when the search for more of it has crossed a line. -/
def plain (s : Scanner) : Option Scanner := do
  let s ← s.saveKey
  let indent := (s.indents.head?.map (· + 1)).getD 0
  let found ← plainScalar s.flow indent "" .none s.at_ s.cursor.rest
  return (s.allowKey found.gap.crossesLine).takeScanned (.scalar true found.value, found.cursor)

/-- Characters that cannot begin a plain scalar, unless something other than a blank follows. -/
def isIndicator (c : Char) : Bool :=
  ['-', '?', ':', ',', '[', ']', '{', '}', '#', '&', '*', '!', '|', '>', '\'', '"', '%', '@',
    '\x60'].contains c

/-- Whether a plain scalar begins with `c` before `rest`. -/
def startsPlain (flow : Bool) (c : Char) (rest : List Char) : Bool :=
  (!isIndicator c && !isBlank c) || (c == '-' && !(rest.head?.any isBlank)) ||
    (!flow && (c == '?' || c == ':') && !blankFirst rest)

/-- Takes the element that begins with `c`. -/
def element (s : Scanner) (c : Char) (rest : List Char) : Option Scanner :=
  let text := c :: rest
  let separate := s.flow || blankFirst rest
  if s.at_.column == 0 && c == '%' then
    s.closeAll.bind fun s => (directive? s.cursor).map s.takeScanned
  else if s.at_.column == 0 && markerFirst '-' text then s.closeAll.map (·.take 3 .documentStart)
  else if s.at_.column == 0 && markerFirst '.' text then s.closeAll.map (·.take 3 .documentEnd)
  else if c == '[' then s.openFlow .flowSequenceStart
  else if c == '{' then s.openFlow .flowMappingStart
  else if c == ']' then s.closeFlow .flowSequenceEnd
  else if c == '}' then s.closeFlow .flowMappingEnd
  else if c == ',' then s.dropKey.map fun s => (s.allowKey true).take 1 .flowEntry
  else if c == '-' && blankFirst rest then s.openEntry .blockSequenceStart .blockEntry true
  else if c == '?' && separate then s.openEntry .blockMappingStart .key (!s.flow)
  else if c == ':' && separate then s.colon
  else if c == '*' then s.anchored .alias
  else if c == '&' then s.anchored .anchor
  else if c == '!' then s.tagged
  else if c == '|' && !s.flow then s.block true
  else if c == '>' && !s.flow then s.block false
  else if c == '\'' then s.quoted false
  else if c == '"' then s.quoted true
  else if startsPlain s.flow c rest then s.plain
  else none

/-- What the end of the text closes. -/
def finish (s : Scanner) : Option (List Token) :=
  s.unindentAll.dropKey.map fun s => s.tokens.toList

/-- Takes up to `count` elements; there are never more than characters. -/
def run (count : Nat) (s : Scanner) : Option (List Token) :=
  match count with
  | 0 => none
  | count + 1 => do
    let s ← s.skipSpace.dropStaleKeys
    let s := s.unindent (· ≤ s.at_.column)
    match s.cursor.rest with
    | [] => s.finish
    | c :: rest => (← s.element c rest).run count

end Scanner

/-- The elements of a text, if it has nothing but printable characters and well-formed elements. -/
def tokens? (text : String) : Option (List Token) :=
  if text.toList.all isPrintable then
    let scanner := Scanner.start (normalizeBreaks text.toList)
    scanner.run (scanner.cursor.rest.length + 1)
  else none

end SchemaDecls.Yaml
