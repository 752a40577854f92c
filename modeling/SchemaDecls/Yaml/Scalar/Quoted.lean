import SchemaDecls.Yaml.Scalar.Gap

/-! Quoted scalars. In single quotes only the quote itself is escaped, by writing it twice; in
double quotes a backslash escapes. No line of either may begin with a document marker. -/
namespace SchemaDecls.Yaml

/-- The scalar in single quotes that has begun with `value`. -/
def singleQuoted (value : String) (gap : Gap) (at_ : Position) :
    List Char → Option (String × Cursor)
  | [] => none
  | c :: rest =>
    if documentMark at_ (c :: rest) then none
    else if isBlank c then singleQuoted value (gap.pushBlank c) (at_.past c) rest
    else if isBreak c then singleQuoted value (gap.pushBreak c) at_.down rest
    else if c == '\'' then
      match rest with
      | '\'' :: rest =>
        singleQuoted ((value ++ gap.text).push '\'') .none ((at_.past c).past '\'') rest
      | rest => some (value ++ gap.text, ⟨at_.past c, rest⟩)
    else singleQuoted ((value ++ gap.text).push c) .none (at_.past c) rest

/-- The character that a one-letter escape stands for. -/
def escapedChar? : Char → Option Char
  | '0' => some '\x00'
  | 'a' => some '\x07'
  | 'b' => some '\x08'
  | 't' | '\t' => some '\t'
  | 'n' => some '\n'
  | 'v' => some '\x0b'
  | 'f' => some '\x0c'
  | 'r' => some '\r'
  | 'e' => some '\x1b'
  | ' ' => some ' '
  | '"' => some '"'
  | '/' => some '/'
  | '\\' => some '\\'
  | 'N' => some '\u0085'
  | '_' => some '\u00a0'
  | 'L' => some '\u2028'
  | 'P' => some '\u2029'
  | _ => none

/-- How many hexadecimal digits follow the letter of an escape. -/
def escapeDigits? : Char → Option Nat
  | 'x' => some 2
  | 'u' => some 4
  | 'U' => some 8
  | _ => none

def scalarChar? (n : Nat) : Option Char :=
  if h : n.isValidChar then some (Char.ofNatAux n h) else none

/-- What a character in double quotes belongs to. -/
inductive QuotedState where
  | text
  | escape
  | code (due : Nat) (value : Nat)
deriving DecidableEq, Repr

/-- The scalar in double quotes that has begun with `value`. -/
def doubleQuoted (state : QuotedState) (value : String) (gap : Gap) (at_ : Position) :
    List Char → Option (String × Cursor)
  | [] => none
  | c :: rest =>
    match state with
    | .text =>
      if documentMark at_ (c :: rest) then none
      else if isBlank c then doubleQuoted .text value (gap.pushBlank c) (at_.past c) rest
      else if isBreak c then doubleQuoted .text value (gap.pushBreak c) at_.down rest
      else if c == '"' then some (value ++ gap.text, ⟨at_.past c, rest⟩)
      else if c == '\\' then doubleQuoted .escape (value ++ gap.text) .none (at_.past c) rest
      else doubleQuoted .text ((value ++ gap.text).push c) .none (at_.past c) rest
    | .escape =>
      if isBreak c then doubleQuoted .text value (.lines none "") at_.down rest
      else
        match escapedChar? c, escapeDigits? c with
        | some plain, _ => doubleQuoted .text (value.push plain) .none (at_.past c) rest
        | none, some due => doubleQuoted (.code due 0) value .none (at_.past c) rest
        | none, none => none
    | .code due code =>
      match hexValue? c with
      | none => none
      | some digit =>
        let code := code * 16 + digit
        if due = 1 then
          match scalarChar? code with
          | some plain => doubleQuoted .text (value.push plain) .none (at_.past c) rest
          | none => none
        else doubleQuoted (.code (due - 1) code) value .none (at_.past c) rest

end SchemaDecls.Yaml
