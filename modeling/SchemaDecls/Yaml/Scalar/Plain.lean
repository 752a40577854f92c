import SchemaDecls.Yaml.Scalar.Gap

/-! Plain scalars: text without quotes. It ends at a colon before a blank, at a comment, at a line
indented too little, at a document marker, and inside brackets also at a bracket or comma. -/
namespace SchemaDecls.Yaml

/-- A scalar and what follows it; `gap` has been passed over in search of more of it. -/
structure PlainEnd where
  value : String
  gap : Gap
  cursor : Cursor

def isFlowEnd (c : Char) : Bool :=
  c == ',' || c == '[' || c == ']' || c == '{' || c == '}'

/-- Whether something comes first that a colon inside brackets may not touch. -/
def flowCharFirst : List Char → Bool
  | [] => false
  | c :: _ => c == '?' || isFlowEnd c

/-- Whether a plain scalar ends after a gap, `text` being what follows the gap. -/
def gapEnds (flow : Bool) (indent : Nat) (at_ : Position) (text : List Char) : Bool :=
  (!flow && at_.column < indent) || text.head? == some '#' || documentMark at_ text

/-- The plain scalar that has begun with `value`; its lines are indented by `indent` at least. -/
def plainScalar (flow : Bool) (indent : Nat) (value : String) (gap : Gap) (at_ : Position) :
    List Char → Option PlainEnd
  | [] => some ⟨value, gap, at_, []⟩
  | c :: rest =>
    if isBlank c then
      if gap.crossesLine && at_.column < indent && c == '\t' then none
      else plainScalar flow indent value (gap.pushBlank c) (at_.past c) rest
    else if isBreak c then plainScalar flow indent value (gap.pushBreak c) at_.down rest
    else if gap != .none && gapEnds flow indent at_ (c :: rest) then
      some ⟨value, gap, at_, c :: rest⟩
    else if flow && c == ':' && flowCharFirst rest then none
    else if (c == ':' && blankFirst rest) || (flow && isFlowEnd c) then
      some ⟨value, gap, at_, c :: rest⟩
    else plainScalar flow indent ((value ++ gap.text).push c) .none (at_.past c) rest

end SchemaDecls.Yaml
