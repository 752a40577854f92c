import SchemaDecls.Yaml.Position
import SchemaDecls.Yaml.Token

/-! Tags, anchors and directives: the elements of YAML that name types, nodes and versions. -/
namespace SchemaDecls.Yaml

/-- The name after the sign of an anchor or alias, which only certain characters may follow. -/
def anchorName? (cursor : Cursor) : Option (String × Cursor) :=
  let (name, cursor) := (cursor.skip 1).takeWhile isWordChar
  let ends :=
    match cursor.rest with
    | [] => true
    | c :: _ => isBlank c || isBreak c || ['?', ':', ',', ']', '}', '%', '@', '\x60'].contains c
  if name.isEmpty || !ends then none else some (String.ofList name, cursor)

/-- Characters of tags; a verbatim one may also hold commas and square brackets. -/
def isTagChar (verbatim : Bool) (c : Char) : Bool :=
  isWordChar c ||
    [';', '/', '?', ':', '@', '&', '=', '+', '$', '.', '%', '!', '~', '*', '\'', '(',
      ')'].contains c
    || (verbatim && [',', '[', ']'].contains c)

/-- How many octets follow the first one of a character in UTF-8. -/
def octetsAfter? (octet : Nat) : Option Nat :=
  if octet < 0x80 then some 0
  else if octet / 0x20 = 6 then some 1
  else if octet / 0x10 = 14 then some 2
  else if octet / 0x08 = 30 then some 3
  else none

/-- The octets of a tag, each as the character of its number; `due` octets of an escaped character
are still to come. -/
def tagChars (verbatim : Bool) (due : Nat) (seen : List Char) :
    List Char → Option (List Char × List Char)
  | [] => if due = 0 then some (seen.reverse, []) else none
  | c :: rest =>
    if c == '%' then
      match rest with
      | a :: b :: rest =>
        match hexValue? a, hexValue? b with
        | some high, some low =>
          let octet := high * 16 + low
          let after := if due = 0 then octetsAfter? octet
            else if octet / 0x40 = 2 then some (due - 1) else none
          match after with
          | some due => tagChars verbatim due (Char.ofNat octet :: seen) rest
          | none => none
        | _, _ => none
      | _ => none
    else if due = 0 then
      if isTagChar verbatim c then tagChars verbatim 0 (c :: seen) rest
      else some (seen.reverse, c :: rest)
    else none

/-- The octets of a tag and the cursor behind them. -/
def takeTag? (verbatim : Bool) (cursor : Cursor) : Option (List Char × Cursor) :=
  (tagChars verbatim 0 [] cursor.rest).map fun (taken, rest) =>
    (taken, cursor.skip (cursor.rest.length - rest.length))

/-- What octets say as a tag: it ends at the first that is zero. -/
def tagText (octets : List Char) : String := String.ofList (octets.takeWhile (· != '\x00'))

/-- A handle: an exclamation mark, or a word between two of them. A word that only one precedes is
no handle, but may begin a tag. -/
def takeHandle? (cursor : Cursor) : Option (List Char × Cursor) :=
  if cursor.rest.head? == some '!' then
    let (word, cursor) := (cursor.skip 1).takeWhile isWordChar
    if cursor.rest.head? == some '!' then some ('!' :: word ++ ['!'], cursor.skip 1)
    else some ('!' :: word, cursor)
  else none

/-- A tag must be followed by a blank or a line break; inside brackets a comma will do. -/
def tagEnds (flow : Bool) (rest : List Char) : Bool :=
  blankFirst rest || (flow && rest.head? == some ',')

def verbatimTag? (cursor : Cursor) : Option (Token × Cursor) := do
  let (suffix, cursor) ← takeTag? true (cursor.skip 2)
  if suffix.isEmpty || cursor.rest.head? != some '>' then none
  else return (.tag "" (tagText suffix), cursor.skip 1)

def shorthandTag? (cursor : Cursor) : Option (Token × Cursor) := do
  let (handle, cursor) ← takeHandle? cursor
  if handle.length > 1 && handle.getLast? == some '!' then
    let (suffix, cursor) ← takeTag? false cursor
    if suffix.isEmpty then none
    else return (.tag (String.ofList handle) (tagText suffix), cursor)
  else
    let (suffix, cursor) ← takeTag? false cursor
    let suffix := tagText (handle.tail ++ suffix)
    return (if suffix.isEmpty then .tag "" "!" else .tag "!" suffix, cursor)

def tag? (flow : Bool) (cursor : Cursor) : Option (Token × Cursor) := do
  let (token, cursor) ←
    if (cursor.rest.drop 1).head? == some '<' then verbatimTag? cursor else shorthandTag? cursor
  if tagEnds flow cursor.rest then return (token, cursor) else none

/-- Up to nine digits. -/
def versionNumber? (cursor : Cursor) : Option (Nat × Cursor) :=
  let (digits, cursor) := cursor.takeWhile Char.isDigit
  if digits.isEmpty || digits.length > 9 then none
  else some (digits.foldl (fun n d => n * 10 + (d.toNat - '0'.toNat)) 0, cursor)

def versionDirective? (cursor : Cursor) : Option (Token × Cursor) := do
  let (major, cursor) ← versionNumber? cursor.skipBlanks
  if cursor.rest.head? == some '.' then
    let (minor, cursor) ← versionNumber? (cursor.skip 1)
    return (.version major minor, cursor)
  else none

def tagDirective? (cursor : Cursor) : Option (Token × Cursor) := do
  let (handle, cursor) ← takeHandle? cursor.skipBlanks
  if handle.length > 1 && handle.getLast? != some '!' then none
  else if !(cursor.rest.head?.any isBlank) then none
  else
    let (expansion, cursor) ← takeTag? true cursor.skipBlanks
    if expansion.isEmpty || !blankFirst cursor.rest then none
    else return (.tagHandle (String.ofList handle) (tagText expansion), cursor)

/-- A directive and the rest of its line; only two names are known. -/
def directive? (cursor : Cursor) : Option (Token × Cursor) := do
  let (name, cursor) := (cursor.skip 1).takeWhile isWordChar
  if !blankFirst cursor.rest then none
  else
    let (token, cursor) ←
      if name == ['Y', 'A', 'M', 'L'] then versionDirective? cursor
      else if name == ['T', 'A', 'G'] then tagDirective? cursor
      else none
    return (token, ← cursor.endLine?)

end SchemaDecls.Yaml
