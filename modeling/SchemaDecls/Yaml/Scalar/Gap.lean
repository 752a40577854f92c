import SchemaDecls.Yaml.Position

/-! Blanks and line breaks inside a scalar. Blanks within a line are kept; those around line breaks
are dropped, one line break is folded into a space, and of several all but the first are kept. -/
namespace SchemaDecls.Yaml

/-- What has been passed over since the last character of a scalar. A break without a first one
was escaped. -/
inductive Gap where
  | none
  | blanks (text : String)
  | lines (first : Option Char) (others : String)
deriving DecidableEq, Repr

namespace Gap

def pushBlank (gap : Gap) (c : Char) : Gap :=
  match gap with
  | .none => .blanks (String.singleton c)
  | .blanks text => .blanks (text.push c)
  | .lines first others => .lines first others

def pushBreak (gap : Gap) (c : Char) : Gap :=
  match gap with
  | .none | .blanks _ => .lines (some c) ""
  | .lines first others => .lines first (others.push c)

def crossesLine : Gap → Bool
  | .lines _ _ => true
  | _ => false

/-- The text that stands for the gap once the scalar goes on. -/
def text : Gap → String
  | .none => ""
  | .blanks text => text
  | .lines (some '\n') "" => " "
  | .lines (some '\n') others => others
  | .lines (some first) others => String.singleton first ++ others
  | .lines .none others => others

end Gap
end SchemaDecls.Yaml
