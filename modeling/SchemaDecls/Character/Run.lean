/-! Sets of code points and mappings on them, written as ascending tables of runs. -/
namespace SchemaDecls.Character

/-- The code points `first`, `first + step`, … up to `last`. -/
structure Run where
  first : Nat
  last : Nat
  step : Nat
deriving DecidableEq, Repr

/-- A run whose members all move by the same distance, `first` going to `image`. -/
structure Shift where
  first : Nat
  last : Nat
  step : Nat
  image : Nat
deriving DecidableEq, Repr

/-- A code point that becomes several. -/
structure Expansion where
  source : Nat
  images : List Nat
deriving DecidableEq, Repr

/-- Membership in an ascending table; the search stops at the first run that begins later. -/
def covers : List Run → Nat → Bool
  | [], _ => false
  | run :: later, n =>
    if n < run.first then false
    else if n ≤ run.last then (n - run.first) % run.step == 0
    else covers later n

def shifted : List Shift → Nat → Option Nat
  | [], _ => none
  | run :: later, n =>
    if n < run.first then none
    else if n ≤ run.last then
      if (n - run.first) % run.step == 0 then some (run.image + (n - run.first)) else none
    else shifted later n

def expanded : List Expansion → Nat → Option (List Nat)
  | [], _ => none
  | row :: later, n =>
    if n < row.source then none
    else if n = row.source then some row.images
    else expanded later n

/-- The full image of a character: its expansion, else its shifted code point, else itself. -/
def image (shifts : List Shift) (expansions : List Expansion) (c : Char) : List Char :=
  match expanded expansions c.toNat with
  | some images => images.map Char.ofNat
  | none =>
    match shifted shifts c.toNat with
    | some n => [Char.ofNat n]
    | none => [c]

end SchemaDecls.Character
