import SchemaDecls.Name.Pascal

/-! Field and module names: words in lower case, joined by underscores. A word ends where lower
case is followed by upper case, and before the last capital of a run of capitals that lower case
follows. -/
namespace SchemaDecls.Name

/-- The case of the word so far; characters without case leave it as it is. -/
inductive WordCase where
  | boundary | lower | upper
deriving DecidableEq, Repr

def WordCase.after (seen : WordCase) (c : Char) : WordCase :=
  if Character.isLowercase c then .lower
  else if Character.isUppercase c then .upper
  else seen

/-- The words of a run of letters and digits; `word` is the part already read of the current one. -/
def wordsFrom (seen : WordCase) (word : List Char) : List Char → List (List Char)
  | [] => []
  | [c] => [word ++ [c]]
  | c :: next :: rest =>
    if seen.after c = .lower ∧ Character.isUppercase next then
      (word ++ [c]) :: wordsFrom .boundary [] (next :: rest)
    else if seen = .upper ∧ Character.isUppercase c ∧ Character.isLowercase next then
      word :: wordsFrom .boundary [c] (next :: rest)
    else wordsFrom (seen.after c) (word ++ [c]) (next :: rest)

def words (text : List Char) : List (List Char) := (pieces text).flatMap (wordsFrom .boundary [])

/-- A capital sigma that ends a word becomes the final sigma. -/
def lowerWord : List Char → List Char
  | [] => []
  | [c] => if c = 'Σ' then ['ς'] else Character.toLower c
  | c :: next :: rest => Character.toLower c ++ lowerWord (next :: rest)

def snake (text : String) : String :=
  String.ofList (List.intercalate ['_'] ((words text.toList).map lowerWord))

end SchemaDecls.Name
