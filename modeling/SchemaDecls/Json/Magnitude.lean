import SchemaDecls.DoubleRange

/-! The size of a decimal number, as far as it decides whether a double-precision number can hold
it. -/
namespace SchemaDecls.Json

/-- The digits of a number as far as 64 bits hold them, and the power of ten that scales them.
`full` once a digit did not fit. -/
structure Magnitude where
  significand : Nat
  exponent : Int
  full : Bool
deriving DecidableEq, Repr

namespace Magnitude

def ofDigit (digit : Nat) : Magnitude := ⟨digit, 0, false⟩

def holds (m : Magnitude) (digit : Nat) : Bool :=
  !m.full && m.significand * 10 + digit < Nat.pow 2 64

/-- A digit before the point; one that does not fit raises the power of ten. -/
def pushInteger (m : Magnitude) (digit : Nat) : Magnitude :=
  if m.holds digit then { m with significand := m.significand * 10 + digit }
  else { m with exponent := m.exponent + 1, full := true }

/-- At the point, digits are taken up again. -/
def atPoint (m : Magnitude) : Magnitude := { m with full := false }

/-- A digit after the point; one that does not fit is dropped. -/
def pushFraction (m : Magnitude) (digit : Nat) : Magnitude :=
  if m.holds digit then
    { m with significand := m.significand * 10 + digit, exponent := m.exponent - 1 }
  else { m with full := true }

def scale (m : Magnitude) (negative : Bool) (exponent : Nat) : Magnitude :=
  { m with exponent := if negative then m.exponent - exponent else m.exponent + exponent }

/-- The nearest number with 53 significant bits; a tie goes to the even one. -/
def nearest (n : Nat) : Nat :=
  if n < Nat.pow 2 53 then n
  else
    let unit := Nat.pow 2 (n.log2 - 52)
    let down := n / unit
    let rest := 2 * (n % unit)
    if rest < unit || (rest == unit && down % 2 == 0) then down * unit else (down + 1) * unit

/-- Whether the number is within the doubles. Digits and power of ten are rounded before they are
multiplied. -/
def inRange (m : Magnitude) : Bool :=
  m.significand == 0 || m.exponent < 0 ||
    (m.exponent ≤ 308 &&
      nearest m.significand * nearest (Nat.pow 10 m.exponent.toNat) < doubleOverflow)

end Magnitude
end SchemaDecls.Json
