import SchemaDecls.Yaml.Scan

/-! The nodes of a YAML document. Aliases stay what they are; the document keeps a table of the
nodes they stand for. -/
namespace SchemaDecls.Yaml

inductive Node where
  | scalar (plain : Bool) (tag : Option String) (value : String)
  | sequence (tag : Option String) (items : List Node)
  | mapping (tag : Option String) (entries : List (Node × Node))
  | alias (id : Nat)
deriving Repr

namespace Node

/-- The value that is not written. -/
def missing : Node := .scalar true none ""

mutual

/-- How many scalars, aliases and ends of collections a node is written with. -/
def marks : Node → Nat
  | .scalar _ _ _ | .alias _ => 1
  | .sequence _ items => itemsMarks items + 2
  | .mapping _ entries => entriesMarks entries + 2

def itemsMarks : List Node → Nat
  | [] => 0
  | item :: rest => item.marks + itemsMarks rest

def entriesMarks : List (Node × Node) → Nat
  | [] => 0
  | (key, value) :: rest => key.marks + value.marks + entriesMarks rest

end

end Node

/-- Names of nodes. A name stands for a number, and the number for the last node that has it. A
name used again takes the number that the next new name will take too. -/
structure Anchors where
  numbers : List (String × Nat)
  holders : List (Nat × Nat)
  nodes : List (Nat × Node)
  started : Nat

namespace Anchors

def empty : Anchors := ⟨[], [], [], 0⟩

def number? (anchors : Anchors) (name : String) : Option Nat := anchors.numbers.lookup name

/-- A node named `name` begins; returns the node's place among the named ones. -/
def start (anchors : Anchors) (name : String) : Nat × Anchors :=
  let number := anchors.numbers.length
  let others := anchors.numbers.filter fun entry => entry.1 != name
  (anchors.started, { anchors with
    numbers := (name, number) :: others
    holders := (number, anchors.started) :: anchors.holders
    started := anchors.started + 1 })

def finish (anchors : Anchors) (place : Nat) (node : Node) : Anchors :=
  { anchors with nodes := (place, node) :: anchors.nodes }

/-- The node that a number stands for in the end. -/
def node? (anchors : Anchors) (number : Nat) : Option Node :=
  (anchors.holders.lookup number).bind fun place => anchors.nodes.lookup place

end Anchors

/-- A document, whose root is absent when its text holds nothing at all. -/
structure Tree where
  root : Option Node
  anchors : Anchors

/-! ## Nodes out of elements -/

/-- Elements still to be read, the anchors of the document so far, and its tag handles. -/
structure Composer where
  tokens : List Token
  anchors : Anchors
  handles : List (String × String)

abbrev Compose := StateT Composer Option

namespace Compose

def peek : Compose (Option Token) := fun s => some (s.tokens.head?, s)

def advance : Compose Unit := fun s => some ((), { s with tokens := s.tokens.tail })

def fail : Compose α := fun _ => none

/-- Takes the element `token` or fails. -/
def expect (token : Token) : Compose Unit := do
  if (← peek) = some token then advance else fail

def aliasNumber (name : String) : Compose Nat := fun s =>
  (s.anchors.number? name).map fun number => (number, s)

def startAnchor (name : Option String) : Compose (Option Nat) := fun s =>
  match name with
  | none => some (none, s)
  | some name =>
    let (place, anchors) := s.anchors.start name
    some (some place, { s with anchors := anchors })

def finishAnchor (place : Option Nat) (node : Node) : Compose Unit := fun s =>
  match place with
  | none => some ((), s)
  | some place => some ((), { s with anchors := s.anchors.finish place node })

/-- A tag in full: what its handle stands for, and its suffix. -/
def resolveTag (handle suffix : String) : Compose String := fun s =>
  if handle.isEmpty then some (suffix, s)
  else (s.handles.lookup handle).map fun expansion => (expansion ++ suffix, s)

def anchor? : Compose (Option String) := do
  match ← peek with
  | some (.anchor name) => advance; return some name
  | _ => return none

def tag? : Compose (Option (String × String)) := do
  match ← peek with
  | some (.tag handle suffix) => advance; return some (handle, suffix)
  | _ => return none

/-- The anchor and the tag of a node, in either order. -/
def properties : Compose (Option String × Option String) := do
  let first ← anchor?
  let tag ← tag?
  let anchor ← if first.isSome || tag.isNone then pure first else anchor?
  match tag with
  | none => return (anchor, none)
  | some (handle, suffix) => return (anchor, some (← resolveTag handle suffix))

mutual

/-- A node; `block` where block collections may stand, `indentless` where a sequence may be
indented no further than its key. The depth of the calls is at most `fuel`. -/
def node (fuel : Nat) (block indentless : Bool) : Compose Node :=
  match fuel with
  | 0 => fail
  | fuel + 1 => do
    match ← peek with
    | some (.alias name) =>
      advance
      return .alias (← aliasNumber name)
    | _ =>
      let (anchor, tag) ← properties
      let place ← startAnchor anchor
      let node ← content fuel block indentless (anchor.isSome || tag.isSome) tag
      finishAnchor place node
      return node

/-- What follows the anchor and the tag of a node. -/
def content (fuel : Nat) (block indentless hasProperties : Bool) (tag : Option String) :
    Compose Node :=
  match fuel with
  | 0 => fail
  | fuel + 1 => do
    match ← peek with
    | some (.scalar plain value) =>
      advance
      return .scalar plain tag value
    | some .flowSequenceStart =>
      advance
      return .sequence tag (← flowItems fuel true)
    | some .flowMappingStart =>
      advance
      return .mapping tag (← flowEntries fuel true)
    | some .blockEntry =>
      if indentless then return .sequence tag (← indentlessItems fuel)
      else if hasProperties then return .scalar true tag ""
      else fail
    | some .blockSequenceStart =>
      if block then
        advance
        return .sequence tag (← blockItems fuel)
      else if hasProperties then return .scalar true tag ""
      else fail
    | some .blockMappingStart =>
      if block then
        advance
        return .mapping tag (← blockEntries fuel)
      else if hasProperties then return .scalar true tag ""
      else fail
    | _ => if hasProperties then return .scalar true tag "" else fail

def blockItems (fuel : Nat) : Compose (List Node) :=
  match fuel with
  | 0 => fail
  | fuel + 1 => do
    match ← peek with
    | some .blockEntry =>
      advance
      let item ←
        match ← peek with
        | some .blockEntry | some .blockEnd => pure Node.missing
        | _ => node fuel true false
      return item :: (← blockItems fuel)
    | some .blockEnd =>
      advance
      return []
    | _ => fail

/-- The items of a sequence that nothing but the next element ends. -/
def indentlessItems (fuel : Nat) : Compose (List Node) :=
  match fuel with
  | 0 => fail
  | fuel + 1 => do
    match ← peek with
    | some .blockEntry =>
      advance
      let item ←
        match ← peek with
        | some .blockEntry | some .key | some .value | some .blockEnd => pure Node.missing
        | _ => node fuel true false
      return item :: (← indentlessItems fuel)
    | _ => return []

/-- A key or a value of a block mapping, which may be missing. -/
def blockPart (fuel : Nat) : Compose Node :=
  match fuel with
  | 0 => fail
  | fuel + 1 => do
    match ← peek with
    | some .key | some .value | some .blockEnd => return Node.missing
    | _ => node fuel true true

def blockEntries (fuel : Nat) : Compose (List (Node × Node)) :=
  match fuel with
  | 0 => fail
  | fuel + 1 => do
    match ← peek with
    | some .key =>
      advance
      let key ← blockPart fuel
      let value ←
        match ← peek with
        | some .value =>
          advance
          blockPart fuel
        | _ => pure Node.missing
      return (key, value) :: (← blockEntries fuel)
    | some .blockEnd =>
      advance
      return []
    | _ => fail

/-- A node inside brackets, missing where `ends` stands. -/
def flowPart (fuel : Nat) (ends : Token) : Compose Node :=
  match fuel with
  | 0 => fail
  | fuel + 1 => do
    let next ← peek
    if next = some .flowEntry ∨ next = some ends then return Node.missing
    else node fuel false false

/-- The value after a key inside brackets. -/
def flowValue (fuel : Nat) (ends : Token) : Compose Node :=
  match fuel with
  | 0 => fail
  | fuel + 1 => do
    match ← peek with
    | some .value =>
      advance
      flowPart fuel ends
    | _ => return Node.missing

/-- The items of a sequence in brackets; a key makes an item a mapping of one entry. -/
def flowItems (fuel : Nat) (first : Bool) : Compose (List Node) :=
  match fuel with
  | 0 => fail
  | fuel + 1 => do
    if (← peek) = some .flowSequenceEnd then
      advance
      return []
    else
      if !first then expect .flowEntry
      match ← peek with
      | some .flowSequenceEnd =>
        advance
        return []
      | some .key =>
        advance
        let next ← peek
        let key ←
          if next = some .value ∨ next = some .flowEntry ∨ next = some .flowSequenceEnd then do
            advance
            pure Node.missing
          else node fuel false false
        let value ← flowValue fuel .flowSequenceEnd
        return .mapping none [(key, value)] :: (← flowItems fuel false)
      | _ =>
        let item ← node fuel false false
        return item :: (← flowItems fuel false)

/-- The entries of a mapping in braces; a node that no colon follows is a key without value. -/
def flowEntries (fuel : Nat) (first : Bool) : Compose (List (Node × Node)) :=
  match fuel with
  | 0 => fail
  | fuel + 1 => do
    if (← peek) = some .flowMappingEnd then
      advance
      return []
    else
      if !first then expect .flowEntry
      match ← peek with
      | some .flowMappingEnd =>
        advance
        return []
      | some .key =>
        advance
        let key ←
          if (← peek) = some .value then pure Node.missing else flowPart fuel .flowMappingEnd
        let value ← flowValue fuel .flowMappingEnd
        return (key, value) :: (← flowEntries fuel false)
      | _ =>
        let key ← node fuel false false
        return (key, Node.missing) :: (← flowEntries fuel false)

end

/-- Directives in front of a document: one version of YAML 1, and handles that differ. -/
def directives (versions : Nat) : List Token → Compose Unit
  | .version major minor :: rest => do
    if versions > 0 || major != 1 || (minor != 1 && minor != 2) then fail
    else
      advance
      directives (versions + 1) rest
  | .tagHandle handle expansion :: rest => do
    let declared ← get
    if (declared.handles.lookup handle).isSome then fail
    else
      set { declared with handles := (handle, expansion) :: declared.handles }
      advance
      directives versions rest
  | _ => return ()

/-- Handles that need no directive; a directive may change what they stand for. -/
def standardHandles : List (String × String) := [("!", "!"), ("!!", "tag:yaml.org,2002:")]

def addStandardHandles : Compose Unit :=
  modify fun s => { s with handles := s.handles ++ standardHandles }

/-- The root of a document, without the markers of its start and end. -/
def root (fuel : Nat) : Compose (Option Node) := do
  match ← peek with
  | none => return none
  | some (.version _ _) | some (.tagHandle _ _) | some .documentStart =>
    directives 0 (← get).tokens
    addStandardHandles
    expect .documentStart
    match ← peek with
    | none | some (.version _ _) | some (.tagHandle _ _) | some .documentStart
    | some .documentEnd => return some Node.missing
    | _ => return some (← node fuel true false)
  | _ =>
    addStandardHandles
    return some (← node fuel true false)

end Compose

/-- The one document that a text holds. -/
def parse? (text : String) : Option Tree := do
  let tokens ← tokens? text
  let (root, composer) ← (Compose.root (4 * tokens.length + 4)).run ⟨tokens, .empty, []⟩
  if (composer.tokens.dropWhile (· == .documentEnd)).isEmpty then
    return ⟨root, composer.anchors⟩
  else none

end SchemaDecls.Yaml
