import SchemaDecls.Written.DataFormat
import SchemaDecls.Yaml.Node
import SchemaDecls.Yaml.PlainValue

/-! Documents out of YAML nodes. Where a text is due any scalar is taken as it is written; only the
`type` keyword asks what a plain scalar is. Where a record, table or list is due, nothing written
counts as an empty one. -/
namespace SchemaDecls.Yaml

/-- Reading with the nodes that aliases stand for, while more aliases may be followed. -/
abbrev Decoded := ReaderT Anchors (StateT Nat Option)

namespace Decoded

def fail : Decoded α := fun _ _ => none

def ofOption (value : Option α) : Decoded α := fun _ left => value.map fun value => (value, left)

/-- Uses up one of the aliases that may be followed. -/
def followOne : Decoded Unit := fun _ left => if left = 0 then none else some ((), left - 1)

end Decoded

def nullTag : String := "tag:yaml.org,2002:null"

/-- Tags of scalars that are not strings. -/
def valueTags : List String :=
  ["tag:yaml.org,2002:bool", "tag:yaml.org,2002:int", "tag:yaml.org,2002:float", nullTag]

/-- Whether octets, each the character of its number, are UTF-8. -/
def areUtf8 (octets : List Char) : Bool :=
  (String.fromUTF8? (octets.map fun c => c.toNat.toUInt8).toByteArray).isSome

def beginsLocalTag (tag : String) : Bool := tag.toList.head? == some '!'

/-- Tags with a meaning of their own. -/
def isLocalTag (tag : String) : Bool := beginsLocalTag tag && areUtf8 tag.toList

/-- The node itself, or the one it stands for. -/
def follow : Node → Decoded Node
  | .alias id => do
    Decoded.followOne
    Decoded.ofOption ((← read).node? id)
  | node => return node

/-- Whether a node says that there is no value. -/
def isAbsent : Node → Decoded Bool
  | .scalar true none value => return value.isEmpty || isNull value
  | .scalar true (some tag) value =>
    if tag == nullTag then (if isNull value then return true else Decoded.fail) else return false
  | _ => return false

def optional (decode : Node → Decoded α) (node : Node) : Decoded (Option α) := do
  let node ← follow node
  if ← isAbsent node then return none else return some (← decode node)

def text (node : Node) : Decoded String := do
  match ← follow node with
  | .scalar _ _ value => return value
  | _ => Decoded.fail

/-- Whether a node is a plain scalar without text: a value that is not written. -/
def isEmptyPlain : Node → Bool
  | .scalar true _ value => value.isEmpty
  | _ => false

def texts (room : Nat) (node : Node) : Decoded (List String) := do
  match ← follow node with
  | .sequence _ items => if room = 0 then Decoded.fail else items.mapM text
  | node => if isEmptyPlain node then return [] else Decoded.fail

/-- The string that a scalar is by its tag, its style and its text. -/
def typedString (node : Node) : Decoded String := do
  match ← follow node with
  | .scalar plain tag value =>
    let untagged := !plain || isString value
    let isText :=
      match tag with
      | none => untagged
      | some tag =>
        if beginsLocalTag tag then untagged && !isLocalTag tag else !valueTags.contains tag
    if isText then return value else Decoded.fail
  | _ => Decoded.fail

def typeKeyword (room : Nat) (node : Node) : Decoded TypeKeyword := do
  match ← follow node with
  | .sequence tag items =>
    if room = 0 || tag.any isLocalTag then Decoded.fail
    else return .several (← items.mapM typedString)
  | node => return .one (← typedString node)

/-- Members of a record; none of the `known` keys may stand twice, and the values of others are
passed over. -/
def recordEntries [DecidableEq κ] (known : String → Option κ)
    (assign : κ → ρ → Node → Decoded ρ) (seen : List κ) (record : ρ) :
    List (Node × Node) → Decoded ρ
  | [] => return record
  | (key, value) :: rest => do
    match known (← text key) with
    | none => recordEntries known assign seen record rest
    | some key =>
      if key ∈ seen then Decoded.fail
      else recordEntries known assign (key :: seen) (← assign key record value) rest

/-- A record, once its container is open. -/
def record [DecidableEq κ] (name : κ → String) (keys : List κ) (empty : ρ)
    (assign : κ → ρ → Node → Decoded ρ) (node : Node) : Decoded ρ := do
  match ← follow node with
  | .mapping _ entries => recordEntries (keyNamed? name keys) assign [] empty entries
  | node => if isEmptyPlain node then return empty else Decoded.fail

def noRecord (empty : ρ) (node : Node) : Decoded ρ := do
  if isEmptyPlain (← follow node) then return empty else Decoded.fail

/-- Members of a table: a key that is written again keeps its place and takes the last value. -/
def tableEntries (decode : Node → Decoded α) (table : Members α) :
    List (Node × Node) → Decoded (Members α)
  | [] => return table
  | (key, value) :: rest => do
    let key ← text key
    tableEntries decode (table.put key (← decode value)) rest

def table (decode : Node → Decoded α) (node : Node) : Decoded (Members α) := do
  match ← follow node with
  | .mapping _ entries => tableEntries decode [] entries
  | node => if isEmptyPlain node then return [] else Decoded.fail

def noTable (node : Node) : Decoded (Members α) := do
  if isEmptyPlain (← follow node) then return [] else Decoded.fail

def format : DataFormat Decoded Node where
  optional := optional
  text := text
  texts := texts
  typeKeyword := typeKeyword
  record := record
  noRecord := noRecord
  table := table
  noTable := noTable

/-- How many collections that are read may stand inside each other. -/
def depth : Nat := 128

/-- How many aliases may be followed for each mark of a document. -/
def aliasesPerMark : Nat := 100

def readDocument (source : String) : Option WrittenDocument := do
  let tree ← parse? source
  match tree.root with
  | none => return .empty
  | some root =>
    let (written, _) ← (format.document depth root).run tree.anchors (root.marks * aliasesPerMark)
    return written

end SchemaDecls.Yaml
