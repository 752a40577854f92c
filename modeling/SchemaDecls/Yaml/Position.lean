/-! Places in a YAML text, and the classes of characters that decide where its elements end. -/
namespace SchemaDecls.Yaml

/-- A place: its line, and how many characters stand before it in the line, which take up so many
octets in UTF-8. -/
structure Position where
  line : Nat
  column : Nat
  octets : Nat
deriving DecidableEq, Repr

namespace Position

def start : Position := ⟨0, 0, 0⟩

/-- The place behind a character. -/
def past (at_ : Position) (c : Char) : Position :=
  ⟨at_.line, at_.column + 1, at_.octets + c.utf8Size⟩

def pastAll (at_ : Position) (text : List Char) : Position := text.foldl past at_

def down (at_ : Position) : Position := ⟨at_.line + 1, 0, 0⟩

end Position

/-- Characters that may stand in a text as they are. -/
def isPrintable (c : Char) : Bool :=
  let n := c.toNat
  n == 0x9 || n == 0xA || n == 0xD || n == 0x85 || (0x20 ≤ n && n ≤ 0x7E) ||
    (0xA0 ≤ n && n ≤ 0xFFFD) || 0x10000 ≤ n

/-- A text in which every line break is a line feed, apart from the line and the paragraph
separator, which stay what they are. -/
def normalizeBreaks : List Char → List Char
  | [] => []
  | '\r' :: '\n' :: rest => '\n' :: normalizeBreaks rest
  | c :: rest => (if c == '\r' || c == '\u0085' then '\n' else c) :: normalizeBreaks rest

def isBlank (c : Char) : Bool := c == ' ' || c == '\t'

/-- Line breaks of a normalized text. -/
def isBreak (c : Char) : Bool := c == '\n' || c == '\u2028' || c == '\u2029'

/-- Whether a blank, a line break or the end of the text comes first. -/
def blankFirst : List Char → Bool
  | [] => true
  | c :: _ => isBlank c || isBreak c

/-- Whether a marker of three dashes, or of three dots, comes first. -/
def markerFirst (mark : Char) : List Char → Bool
  | a :: b :: c :: rest => a == mark && b == mark && c == mark && blankFirst rest
  | _ => false

/-- Whether a line begins with the marker of a document's start or end. -/
def documentMark (at_ : Position) (text : List Char) : Bool :=
  at_.column == 0 && (markerFirst '-' text || markerFirst '.' text)

/-- Characters of anchors, directive names and tag handles. -/
def isWordChar (c : Char) : Bool := c.isAlphanum || c == '_' || c == '-'

def hexValue? (c : Char) : Option Nat :=
  if c.isDigit then some (c.toNat - '0'.toNat)
  else if 'a' ≤ c ∧ c ≤ 'f' then some (c.toNat - 'a'.toNat + 10)
  else if 'A' ≤ c ∧ c ≤ 'F' then some (c.toNat - 'A'.toNat + 10)
  else none

/-- The text that remains and where it begins. -/
structure Cursor where
  at_ : Position
  rest : List Char
deriving Repr

namespace Cursor

/-- Passes over characters of the line. -/
def skip (cursor : Cursor) (count : Nat) : Cursor :=
  ⟨cursor.at_.pastAll (cursor.rest.take count), cursor.rest.drop count⟩

/-- The characters up to the first that `p` refuses. -/
def takeWhile (cursor : Cursor) (p : Char → Bool) : List Char × Cursor :=
  let taken := cursor.rest.takeWhile p
  (taken, ⟨cursor.at_.pastAll taken, cursor.rest.dropWhile p⟩)

def skipBlanks (cursor : Cursor) : Cursor := (cursor.takeWhile isBlank).2

/-- Passes over blanks and a comment to the end of the line, and over its line break. -/
def endLine? (cursor : Cursor) : Option Cursor :=
  let cursor := cursor.skipBlanks
  let cursor :=
    if cursor.rest.head? == some '#' then (cursor.takeWhile fun c => !isBreak c).2 else cursor
  match cursor.rest with
  | [] => some cursor
  | c :: rest => if isBreak c then some ⟨cursor.at_.down, rest⟩ else none

end Cursor
end SchemaDecls.Yaml
