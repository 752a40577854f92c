import SchemaDecls.Json.Tree
import SchemaDecls.Written.DataFormat

/-! Documents out of JSON values. Values are taken up in the order of the text, and the first fault
met decides. A record may be written as an object or as an array of its members in their declared
order; a member that is `null` counts as absent, and members without meaning are skipped. -/
namespace SchemaDecls.Json

abbrev Decoded := Except JsonFault

mutual

/-- Passes over a value; what nobody reads may break only the grammar. -/
def Tree.skip : Tree → Decoded Unit
  | .null | .boolean _ | .number _ | .text _ => .ok ()
  | .array elements => elements.skip
  | .object members => members.skip
  | .broken fault => .error fault.skipping

def Elements.skip : Elements → Decoded Unit
  | .closed => .ok ()
  | .cut fault => .error fault.skipping
  | .cons element rest => element.skip >>= fun _ => rest.skip

def Entries.skip : Entries → Decoded Unit
  | .closed => .ok ()
  | .cut fault => .error fault.skipping
  | .cons _ value rest => value.skip >>= fun _ => rest.skip

end

mutual

/-- Reads a value whole; `room` is how many containers may still be opened inside each other. -/
def Tree.read (room : Nat) : Tree → Decoded Unit
  | .null | .boolean _ => .ok ()
  | .number inRange => if inRange then .ok () else .error .malformed
  | .text literal => if literal.paired then .ok () else .error .malformed
  | .array elements => if room = 0 then .error .malformed else elements.read (room - 1)
  | .object members => if room = 0 then .error .malformed else members.read (room - 1)
  | .broken fault => .error fault.reading

def Elements.read (room : Nat) : Elements → Decoded Unit
  | .closed => .ok ()
  | .cut fault => .error fault.reading
  | .cons element rest => element.read room >>= fun _ => rest.read room

def Entries.read (room : Nat) : Entries → Decoded Unit
  | .closed => .ok ()
  | .cut fault => .error fault.reading
  | .cons key value rest =>
    if key.paired then value.read room >>= fun _ => rest.read room else .error .malformed

end

/-- The fault of a value that stands where another kind is due. A scalar is read before it is
refused, a container is not. -/
def Tree.mismatch : Tree → JsonFault
  | .number false => .malformed
  | .text literal => if literal.paired then .mismatched else .malformed
  | .broken fault => fault.reading
  | _ => .mismatched

def string : Tree → Decoded String
  | .text text => if text.paired then .ok text.content else .error .malformed
  | tree => .error tree.mismatch

def optional (decode : Tree → Decoded α) : Tree → Decoded (Option α)
  | .null => .ok none
  | tree => (decode tree).map some

/-- Opens a container if there is room for it. -/
def enter (room : Nat) (inside : Nat → Decoded α) : Decoded α :=
  match room with
  | 0 => .error .malformed
  | room + 1 => inside room

def Elements.strings : Elements → Decoded (List String)
  | .closed => .ok []
  | .cut fault => .error fault.reading
  | .cons element rest => do
    let first ← string element
    let others ← rest.strings
    return first :: others

def strings (room : Nat) : Tree → Decoded (List String)
  | .array elements => enter room fun _ => elements.strings
  | tree => .error tree.mismatch

/-- The `type` keyword is read whole before its kind is looked at. -/
def typeKeyword (room : Nat) (tree : Tree) : Decoded TypeKeyword := do
  tree.read room
  match tree with
  | .text text => return .one text.content
  | .array elements =>
    match elements.strings with
    | .ok names => return .several names
    | .error _ => .error .mismatched
  | _ => .error .mismatched

/-- Members of a record written as an object; none of the `known` keys may stand twice. -/
def Entries.record [DecidableEq κ] (known : String → Option κ) (assign : κ → ρ → Tree → Decoded ρ)
    (seen : List κ) (record : ρ) : Entries → Decoded ρ
  | .closed => .ok record
  | .cut fault => .error fault.reading
  | .cons key value rest =>
    if key.paired then
      match known key.content with
      | none => value.skip >>= fun _ => rest.record known assign seen record
      | some key =>
        if key ∈ seen then .error .mismatched
        else assign key record value >>= fun record => rest.record known assign (key :: seen) record
    else .error .malformed

/-- Members of a record written as an array: a shorter one leaves the last members absent. -/
def Elements.record (assign : κ → ρ → Tree → Decoded ρ) (keys : List κ) (record : ρ) :
    Elements → Decoded ρ
  | .closed => .ok record
  | .cut fault => .error fault.reading
  | .cons value rest =>
    match keys with
    | [] => .error .malformed
    | key :: keys => assign key record value >>= fun record => rest.record assign keys record

/-- A record, once its container is open. -/
def record [DecidableEq κ] (name : κ → String) (keys : List κ) (empty : ρ)
    (assign : κ → ρ → Tree → Decoded ρ) : Tree → Decoded ρ
  | .object members => members.record (keyNamed? name keys) assign [] empty
  | .array elements => elements.record assign keys empty
  | tree => .error tree.mismatch

/-- A record where no container may be opened any more. -/
def noRecord (_ : ρ) : Tree → Decoded ρ
  | .object _ | .array _ => .error .malformed
  | tree => .error tree.mismatch

/-- Members of a table: a key that is written again keeps its place and takes the last value. -/
def Entries.table (decode : Tree → Decoded α) (table : Members α) : Entries → Decoded (Members α)
  | .closed => .ok table
  | .cut fault => .error fault.reading
  | .cons key value rest =>
    if key.paired then
      decode value >>= fun value => rest.table decode (table.put key.content value)
    else .error .malformed

/-- A table, once its container is open. -/
def table (decode : Tree → Decoded α) : Tree → Decoded (Members α)
  | .object members => members.table decode []
  | tree => .error tree.mismatch

/-- A table where no container may be opened any more. -/
def noTable : Tree → Decoded (Members α)
  | .object _ => .error .malformed
  | tree => .error tree.mismatch

def format : DataFormat Decoded Tree where
  optional := optional
  text := string
  texts := strings
  typeKeyword := typeKeyword
  record := record
  noRecord := noRecord
  table := table
  noTable := noTable

/-- How many containers that are read may stand inside each other. -/
def depth : Nat := 127

/-- The document that a text holds; nothing but blanks may follow it. -/
def readDocument (text : String) : Decoded WrittenDocument := do
  let parsed := parse text
  let written ← format.document depth parsed.root
  if parsed.trailing then .error .malformed else return written

end SchemaDecls.Json
