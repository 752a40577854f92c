import SchemaDecls.Text

/-! File paths: names separated by slashes. -/
namespace SchemaDecls.Path

/-- The steps of a path, `.` and `..` included; slashes in a row count as one. -/
def components (path : String) : List String :=
  ((Text.segments (· == '/') path.toList).map String.ofList).filter fun step => !step.isEmpty

/-- The steps of a path that lead elsewhere. -/
def steps (path : String) : List String := (components path).filter fun step => step != "."

/-- The last step, unless it goes up. -/
def fileName? (path : String) : Option String :=
  (steps path).getLast?.filter fun step => step != ".."

/-- What follows the last dot of a file name; a dot at the front starts no extension. -/
def extension? (path : String) : Option String := do
  let name ← fileName? path
  let parts := Text.segments (· == '.') name.toList
  if parts.length = 1 || parts.dropLast = [[]] then none
  else parts.getLast?.map String.ofList

/-- The path of `name` inside the directory `path`. -/
def join (path name : String) : String :=
  if name.toList.head? = some '/' then name
  else if path.isEmpty || path.toList.getLast? = some '/' then path ++ name
  else path ++ "/" ++ name

/-- The beginnings of a list, longest first, without the empty one. -/
def beginnings : List α → List (List α)
  | [] => []
  | step :: rest => (beginnings rest).map (step :: ·) ++ [[step]]

/-- A path and the paths above it, longest first, each as its steps. -/
def ancestors (path : String) : List (List String) :=
  components path :: beginnings (steps path).dropLast

/-- The steps that look a path up: a slash at its end asks for a directory, as a last `.` does. -/
def lookupSteps (path : String) : List String :=
  components path ++ (if path.toList.getLast? = some '/' then ["."] else [])

end SchemaDecls.Path
