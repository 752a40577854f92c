import SchemaDecls.DoubleRange

/-! What a plain scalar without a tag is: nothing, a truth value, a number, or else a string. -/
namespace SchemaDecls.Yaml

def isNull (text : String) : Bool :=
  text == "~" || text == "null" || text == "Null" || text == "NULL"

def isBoolean (text : String) : Bool :=
  ["true", "True", "TRUE", "false", "False", "FALSE"].contains text

def digitValue? (c : Char) : Option Nat :=
  if c.isDigit then some (c.toNat - '0'.toNat)
  else if 'a' ≤ c ∧ c ≤ 'z' then some (c.toNat - 'a'.toNat + 10)
  else if 'A' ≤ c ∧ c ≤ 'Z' then some (c.toNat - 'A'.toNat + 10)
  else none

def digitsValue? (radix : Nat) (value : Nat) : List Char → Option Nat
  | [] => some value
  | c :: rest =>
    match digitValue? c with
    | some digit => if digit < radix then digitsValue? radix (value * radix + digit) rest else none
    | none => none

/-- The number that digits spell; there has to be one. -/
def natural? (radix : Nat) (digits : List Char) : Option Nat :=
  if digits.isEmpty then none else digitsValue? radix 0 digits

/-- What follows `front`. -/
def after? (front text : List Char) : Option (List Char) :=
  if front.isPrefixOf text then some (text.drop front.length) else none

def isSign (c : Char) : Bool := c == '+' || c == '-'

/-- Several digits of which the first is a zero are no number. -/
def hasLeadingZero (text : List Char) : Bool :=
  let digits := if text.head?.any isSign then text.tail else text
  digits.length > 1 && digits.head? == some '0' && digits.all Char.isDigit

/-- The radixes that are announced by two characters. -/
def radixes : List (List Char × Nat) := [(['0', 'x'], 16), (['0', 'o'], 8), (['0', 'b'], 2)]

/-- Digits in an announced radix, up to `limit`. -/
def isRadixInteger (limit : Nat) (text : List Char) : Bool :=
  radixes.any fun (front, radix) =>
    ((after? front text).bind (natural? radix)).any (· ≤ limit)

/-- Whether a text spells an integer of 128 bits, with or without a sign. -/
def isInteger (text : List Char) : Bool :=
  match text with
  | '-' :: digits =>
    isRadixInteger (Nat.pow 2 127) digits ||
      (!hasLeadingZero text && (natural? 10 digits).any (· ≤ Nat.pow 2 127))
  | _ =>
    let digits := if text.head? == some '+' then text.tail else text
    isRadixInteger (Nat.pow 2 128 - 1) digits ||
      (!hasLeadingZero text && (natural? 10 digits).any (· < Nat.pow 2 128))

/-- The exponent after a decimal number: its sign and digits. -/
def exponent? : List Char → Option Int
  | [] => some 0
  | c :: rest =>
    if c == 'e' || c == 'E' then
      match rest with
      | '-' :: digits => (natural? 10 digits).map fun n => -(n : Int)
      | '+' :: digits => (natural? 10 digits).map fun n => (n : Int)
      | digits => (natural? 10 digits).map fun n => (n : Int)
    else none

/-- Whether `digits * 10 ^ exponent` is read as a finite double. -/
def isFiniteDecimal (digits : List Char) (exponent : Int) : Bool :=
  let digits := digits.dropWhile (· == '0')
  digits.isEmpty || (digits.length : Int) + exponent ≤ 308 ||
    ((digits.length : Int) + exponent ≤ 309 &&
      ((natural? 10 digits).any fun n =>
        if exponent < 0 then n < doubleOverflow * Nat.pow 10 exponent.natAbs
        else n * Nat.pow 10 exponent.natAbs < doubleOverflow))

/-- Whether a text without sign spells a finite decimal number. -/
def isDecimal (text : List Char) : Bool :=
  let whole := text.takeWhile Char.isDigit
  let rest := text.dropWhile Char.isDigit
  let (fraction, rest) :=
    match rest with
    | '.' :: rest => (rest.takeWhile Char.isDigit, rest.dropWhile Char.isDigit)
    | rest => ([], rest)
  !(whole.isEmpty && fraction.isEmpty) &&
    (exponent? rest).any fun exponent =>
      isFiniteDecimal (whole ++ fraction) (exponent - fraction.length)

/-- Whether a text spells a number with a fraction or exponent, an infinity, or no number. -/
def isFloat (text : List Char) : Bool :=
  let unsigned := if text.head?.any isSign then text.tail else text
  ([".inf", ".Inf", ".INF"].any fun name => unsigned == name.toList) ||
    ([".nan", ".NaN", ".NAN"].any fun name => text == name.toList) ||
    (!hasLeadingZero text && isDecimal unsigned)

/-- Whether a plain scalar is a string. -/
def isString (text : String) : Bool :=
  !(text.isEmpty || isNull text || isBoolean text || isInteger text.toList || isFloat text.toList)

end SchemaDecls.Yaml
