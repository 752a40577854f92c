import SchemaDecls.Yaml.Position

/-! Block scalars: indented lines under a header. A literal one keeps its line breaks; a folded one
turns a single break between lines that begin with text into a space. -/
namespace SchemaDecls.Yaml

/-- What becomes of the line breaks at the end. -/
inductive Chomping where
  | strip | clip | keep
deriving DecidableEq, Repr

structure BlockHeader where
  literal : Bool
  chomping : Chomping
  increment : Nat
deriving DecidableEq, Repr

def chomping? : List Char → Option (Chomping × List Char)
  | '+' :: rest => some (.keep, rest)
  | '-' :: rest => some (.strip, rest)
  | _ => none

/-- An indentation indicator, zero if there is none; a written zero is an error. -/
def increment? : List Char → Option (Nat × List Char)
  | [] => some (0, [])
  | c :: rest =>
    if c.isDigit then
      if c == '0' then none else some (c.toNat - '0'.toNat, rest)
    else some (0, c :: rest)

/-- The indicators after the sign of a block scalar, in either order. -/
def blockHeader? (literal : Bool) (cursor : Cursor) : Option (BlockHeader × Cursor) := do
  let (header, rest) ←
    match chomping? cursor.rest with
    | some (chomping, rest) => do
      let (increment, rest) ← increment? rest
      pure (BlockHeader.mk literal chomping increment, rest)
    | none => do
      let (increment, rest) ← increment? cursor.rest
      if increment = 0 then pure (BlockHeader.mk literal .clip 0, rest)
      else
        match chomping? rest with
        | some (chomping, rest) => pure (BlockHeader.mk literal chomping increment, rest)
        | none => pure (BlockHeader.mk literal .clip increment, rest)
  let cursor ← (cursor.skip (cursor.rest.length - rest.length)).endLine?
  return (header, cursor)

/-- A block scalar read so far. The indentation is zero until the first line with text settles it;
`widest` is the widest line before that. -/
structure BlockState where
  header : BlockHeader
  least : Nat
  indent : Nat
  widest : Nat
  inLine : Bool
  value : String
  lastBreak : Option Char
  moreBreaks : String
  blankBefore : Bool
deriving Repr

namespace BlockState

/-- The scalar under `header`, inside a collection whose contents are indented by `least`. -/
def start (header : BlockHeader) (outer : Option Nat) : BlockState where
  header := header
  least := (outer.map (· + 1)).getD 0
  indent := if header.increment = 0 then 0 else outer.getD 0 + header.increment
  widest := 0
  inLine := false
  value := ""
  lastBreak := none
  moreBreaks := ""
  blankBefore := false

/-- Settles the indentation where the first line with text begins. -/
def settle (state : BlockState) (column : Nat) : BlockState :=
  if state.indent = 0 then
    { state with indent := max (max (max state.widest column) state.least) 1 }
  else state

def lastBreakText (state : BlockState) : String := (state.lastBreak.map String.singleton).getD ""

/-- A line with text begins with `c`. -/
def beginLine (state : BlockState) (c : Char) : BlockState :=
  let folds := !state.header.literal && state.lastBreak == some '\n' && !state.blankBefore
    && !isBlank c
  let joint :=
    if folds then (if state.moreBreaks.isEmpty then " " else "") else state.lastBreakText
  { state with
    inLine := true
    value := (state.value ++ joint ++ state.moreBreaks).push c
    lastBreak := none
    moreBreaks := ""
    blankBefore := isBlank c }

def endLine (state : BlockState) (c : Char) : BlockState :=
  { state with inLine := false, lastBreak := some c }

/-- The scalar once its last line is read. -/
def finish (state : BlockState) : String :=
  match state.header.chomping with
  | .strip => state.value
  | .clip => state.value ++ state.lastBreakText
  | .keep => state.value ++ state.lastBreakText ++ state.moreBreaks

end BlockState

/-- Reads on in a block scalar. -/
def blockScalar (state : BlockState) (at_ : Position) : List Char → Option (String × Cursor)
  | [] => some (state.finish, ⟨at_, []⟩)
  | c :: rest =>
    if state.inLine then
      if isBreak c then blockScalar (state.endLine c) at_.down rest
      else blockScalar { state with value := state.value.push c } (at_.past c) rest
    else
      let indenting := state.indent = 0 || at_.column < state.indent
      if indenting && c == ' ' then blockScalar state (at_.past c) rest
      else if indenting && c == '\t' then none
      else if isBreak c then
        let state := { state with
          widest := max state.widest at_.column, moreBreaks := state.moreBreaks.push c }
        blockScalar state at_.down rest
      else
        let state := state.settle at_.column
        if at_.column = state.indent then blockScalar (state.beginLine c) (at_.past c) rest
        else some (state.finish, ⟨at_, c :: rest⟩)

end SchemaDecls.Yaml
