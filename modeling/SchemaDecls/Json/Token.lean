import SchemaDecls.Failure
import SchemaDecls.Json.Magnitude

/-! Lexical elements of JSON, scanned one character at a time up to the first character that cannot
stand where it does. A value that nobody uses may hold half a surrogate pair or a number too large
for a double; one that is used may not, so faults are kept for both kinds of reader. -/
namespace SchemaDecls.Json

/-- A fault of the text, as one meets it who skips the value, and one who reads it. -/
structure Break where
  skipping : JsonFault
  reading : JsonFault
deriving DecidableEq, Repr

namespace Break

def truncated : Break := ⟨.truncated, .truncated⟩

def malformed : Break := ⟨.malformed, .malformed⟩

/-- A number that the end of the text interrupts. -/
def shortNumber : Break := ⟨.malformed, .truncated⟩

end Break

/-- A string, `paired` when no surrogate escape in it stands alone. -/
structure Text where
  content : String
  paired : Bool
deriving DecidableEq, Repr

inductive Token where
  | openArray | closeArray | openObject | closeObject | comma | colon
  | null
  | boolean (value : Bool)
  | number (inRange : Bool)
  | text (text : Text)
  | brokenText (fault : Break)
  | broken (fault : Break)
deriving DecidableEq, Repr

/-- A string read so far; `lead` is the first half of a surrogate pair whose second half is due. -/
structure PartialText where
  content : String
  paired : Bool
  lead : Option Nat
deriving DecidableEq, Repr

namespace PartialText

def empty : PartialText := ⟨"", true, none⟩

/-- The second half did not come. -/
def dropLead (text : PartialText) : PartialText :=
  { text with paired := text.paired && text.lead.isNone, lead := none }

def push (text : PartialText) (c : Char) : PartialText :=
  { text with content := text.content.push c }

/-- The code unit of a four-digit escape. -/
def pushUnit (text : PartialText) (unit : Nat) : PartialText :=
  let trails := 0xDC00 ≤ unit ∧ unit ≤ 0xDFFF
  match text.lead with
  | some lead =>
    if trails then
      let paired := Char.ofNat (0x10000 + (lead - 0xD800) * 0x400 + (unit - 0xDC00))
      { text.push paired with lead := none }
    else if 0xD800 ≤ unit ∧ unit ≤ 0xDBFF then { text.dropLead with lead := some unit }
    else text.dropLead.push (Char.ofNat unit)
  | none =>
    if trails then { text with paired := false }
    else if 0xD800 ≤ unit ∧ unit ≤ 0xDBFF then { text with lead := some unit }
    else text.push (Char.ofNat unit)

def fault (text : PartialText) (fault : JsonFault) : Break :=
  ⟨fault, if text.paired then fault else .malformed⟩

end PartialText

/-- What the scanner is in the middle of. -/
inductive ScanState where
  | between
  | word (rest : List Char) (token : Token)
  | minus
  | zero
  | integer (m : Magnitude)
  | point (m : Magnitude)
  | fraction (m : Magnitude)
  | exponentSign (m : Magnitude)
  | exponentFirst (m : Magnitude) (negative : Bool)
  | exponent (m : Magnitude) (negative : Bool) (digits : Nat)
  | string (text : PartialText)
  | escape (text : PartialText)
  | hex (text : PartialText) (bytes : Nat) (unit : Option Nat)
  | stopped
deriving DecidableEq, Repr

def isBlank (c : Char) : Bool := c == ' ' || c == '\n' || c == '\t' || c == '\r'

def digit? (c : Char) : Option Nat := if c.isDigit then some (c.toNat - '0'.toNat) else none

def hexDigit? (c : Char) : Option Nat :=
  if c.isDigit then some (c.toNat - '0'.toNat)
  else if 'a' ≤ c ∧ c ≤ 'f' then some (c.toNat - 'a'.toNat + 10)
  else if 'A' ≤ c ∧ c ≤ 'F' then some (c.toNat - 'A'.toNat + 10)
  else none

/-- The character that a one-letter escape stands for. -/
def escaped? : Char → Option Char
  | '"' => some '"'
  | '\\' => some '\\'
  | '/' => some '/'
  | 'b' => some '\x08'
  | 'f' => some '\x0c'
  | 'n' => some '\n'
  | 'r' => some '\r'
  | 't' => some '\t'
  | _ => none

namespace ScanState

def stop (fault : Break) : List Token × ScanState := ([.broken fault], .stopped)

/-- The first character of a lexical element. -/
def start (c : Char) : List Token × ScanState :=
  if isBlank c then ([], .between)
  else
    match c with
    | '[' => ([.openArray], .between)
    | ']' => ([.closeArray], .between)
    | '{' => ([.openObject], .between)
    | '}' => ([.closeObject], .between)
    | ',' => ([.comma], .between)
    | ':' => ([.colon], .between)
    | '"' => ([], .string .empty)
    | 'n' => ([], .word ['u', 'l', 'l'] .null)
    | 't' => ([], .word ['r', 'u', 'e'] (.boolean true))
    | 'f' => ([], .word ['a', 'l', 's', 'e'] (.boolean false))
    | '-' => ([], .minus)
    | '0' => ([], .zero)
    | _ =>
      match digit? c with
      | some d => ([], .integer (.ofDigit d))
      | none => stop .malformed

/-- A number is complete and `c` follows it. -/
def close (m : Magnitude) (c : Char) : List Token × ScanState :=
  let (tokens, next) := start c
  (.number m.inRange :: tokens, next)

/-- What may follow the digits before the point. -/
def afterInteger (m : Magnitude) (c : Char) : List Token × ScanState :=
  if c = '.' then ([], .point m.atPoint)
  else if c = 'e' ∨ c = 'E' then ([], .exponentSign m)
  else close m c

def step (state : ScanState) (c : Char) : List Token × ScanState :=
  match state with
  | .between => start c
  | .word rest token =>
    match rest with
    | [] => stop .malformed
    | expected :: rest =>
      if c = expected then
        if rest.isEmpty then ([token], .between) else ([], .word rest token)
      else stop .malformed
  | .minus =>
    match digit? c with
    | some 0 => ([], .zero)
    | some d => ([], .integer (.ofDigit d))
    | none => stop .malformed
  | .zero => if c.isDigit then stop .malformed else afterInteger (.ofDigit 0) c
  | .integer m =>
    match digit? c with
    | some d => ([], .integer (m.pushInteger d))
    | none => afterInteger m c
  | .point m =>
    match digit? c with
    | some d => ([], .fraction (m.pushFraction d))
    | none => stop .malformed
  | .fraction m =>
    match digit? c with
    | some d => ([], .fraction (m.pushFraction d))
    | none => if c = 'e' ∨ c = 'E' then ([], .exponentSign m) else close m c
  | .exponentSign m =>
    if c = '+' then ([], .exponentFirst m false)
    else if c = '-' then ([], .exponentFirst m true)
    else
      match digit? c with
      | some d => ([], .exponent m false d)
      | none => stop .malformed
  | .exponentFirst m negative =>
    match digit? c with
    | some d => ([], .exponent m negative d)
    | none => stop .malformed
  | .exponent m negative digits =>
    match digit? c with
    | some d => ([], .exponent m negative (digits * 10 + d))
    | none => close (m.scale negative digits) c
  | .string text =>
    if c = '\\' then ([], .escape text)
    else
      let text := text.dropLead
      if c = '"' then ([.text ⟨text.content, text.paired⟩], .between)
      else if c.toNat < 0x20 then ([.brokenText .malformed], .stopped)
      else ([], .string (text.push c))
  | .escape text =>
    if c = 'u' then ([], .hex text 0 (some 0))
    else
      match escaped? c with
      | some plain => ([], .string (text.dropLead.push plain))
      | none => ([.brokenText .malformed], .stopped)
  | .hex text bytes unit =>
    let bytes := bytes + c.utf8Size
    let unit := unit.bind fun u => (hexDigit? c).map (u * 16 + ·)
    if bytes < 4 then ([], .hex text bytes unit)
    else
      match unit with
      | some unit => ([], .string (text.pushUnit unit))
      | none => ([.brokenText .malformed], .stopped)
  | .stopped => ([], .stopped)

/-- What the end of the text completes or interrupts. -/
def finish : ScanState → List Token
  | .between | .stopped => []
  | .word _ _ => [.broken .truncated]
  | .minus | .point _ | .exponentSign _ | .exponentFirst _ _ => [.broken .shortNumber]
  | .zero => [.number true]
  | .integer m | .fraction m => [.number m.inRange]
  | .exponent m negative digits => [.number (m.scale negative digits).inRange]
  | .string text | .escape text | .hex text _ _ => [.brokenText (text.fault .truncated)]

/-- The elements of a text, after those already `seen`, last first. -/
def scan (state : ScanState) (seen : List Token) : List Char → List Token
  | [] => seen.reverse ++ state.finish
  | c :: rest => (state.step c).2.scan ((state.step c).1.reverse ++ seen) rest

theorem scan_eq_append (state : ScanState) (seen : List Token) (text : List Char) :
    state.scan seen text = seen.reverse ++ state.scan [] text := by
  induction text generalizing state seen with
  | nil => simp [scan]
  | cons c rest ih =>
    rw [scan, ih, scan, ih _ ((state.step c).1.reverse ++ [])]
    simp

end ScanState

def tokens (text : String) : List Token := ScanState.between.scan [] text.toList

end SchemaDecls.Json
