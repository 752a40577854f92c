import SchemaDecls.Text

/-! JSON Pointer paths, and the schema names that reference locators address. -/
namespace SchemaDecls.Pointer

def escapeChar : Char → List Char
  | '~' => ['~', '0']
  | '/' => ['~', '1']
  | c => [c]

def escape (segment : String) : String := String.ofList (segment.toList.flatMap escapeChar)

/-- The path of the member `segment` of what `path` addresses. -/
def push (path segment : String) : String := path ++ "/" ++ escape segment

/-- Every `~` followed by `digit` becomes `plain`. -/
def replaceEscape (digit plain : Char) : List Char → List Char
  | [] => []
  | [c] => [c]
  | c :: d :: rest =>
    if c = '~' ∧ d = digit then plain :: replaceEscape digit plain rest
    else c :: replaceEscape digit plain (d :: rest)

/-- `~1` is undone before `~0`, so that `~01` reads as `~1`. -/
def unescapeChars (segment : List Char) : List Char :=
  replaceEscape '0' '~' (replaceEscape '1' '/' segment)

def unescape (segment : String) : String := String.ofList (unescapeChars segment.toList)

/-- What follows the first `#`. -/
def fragment? : List Char → Option (List Char)
  | [] => none
  | '#' :: rest => some rest
  | _ :: rest => fragment? rest

/-- The decoded segments of the fragment; a fragment has to begin with `/`. -/
def fragmentSegments? (locator : String) : Option (List String) :=
  match fragment? locator.toList with
  | some ('/' :: rest) =>
    some ((Text.segments (· == '/') rest).map (fun s => String.ofList (unescapeChars s)))
  | _ => none

/-- The tables whose members are named schemas. -/
def schemaTables : List (List String) := [["components", "schemas"], ["definitions"], ["$defs"]]

/-- The schema that a locator names, when its fragment addresses a member of a schema table. -/
def componentName? (locator : String) : Option String := do
  let segments ← fragmentSegments? locator
  let name ← segments.getLast?
  if schemaTables.contains segments.dropLast && !name.isEmpty then some name else none

/-- A locator that is nothing but a fragment addresses the document it stands in. -/
def isLocal (locator : String) : Bool := locator.toList.head? == some '#'

end SchemaDecls.Pointer
