import SchemaDecls.Failure
import SchemaDecls.Members
import SchemaDecls.Path

/-! File trees without links: what stands at each location below a root directory. A path with a
leading slash and one without lead to the same location, so the root is also the working directory.
A name has at most 255 octets and a path 4095. -/
namespace SchemaDecls

/-- The names that lead from the root to a file or directory. -/
abbrev Location := List String

inductive FileNode where
  | directory
  | file (content : ByteArray)

structure FileTree where
  nodes : Members FileNode Location := []

/-- The location that one step of a path leads to; nothing is above the root. -/
def Location.enter (location : Location) (step : String) : Location :=
  if step = "." then location
  else if step = ".." then location.dropLast
  else location ++ [step]

/-- The name of a location that lies directly below another. -/
def Location.nameBelow? (parent location : Location) : Option String :=
  location.getLast?.filter fun _ => location.dropLast = parent

namespace FileTree

/-- How many octets a name may have. -/
def nameLimit : Nat := 255

/-- How many octets a path may have. -/
def pathLimit : Nat := 4095

/-- Refuses paths that name nothing, whatever the tree holds. -/
def checkPath (path : String) : Except FileFault Unit :=
  if path.toList.contains '\x00' then .error .nulInPath
  else if pathLimit < path.utf8ByteSize then .error .nameTooLong
  else .ok ()

def node? (tree : FileTree) (location : Location) : Option FileNode :=
  if location = [] then some .directory else tree.nodes.find? location

def put (tree : FileTree) (location : Location) (node : FileNode) : FileTree :=
  ⟨tree.nodes.put location node⟩

theorem node?_put (tree : FileTree) (location other : Location) (node : FileNode)
    (below : location ≠ []) :
    (tree.put location node).node? other
      = if location = other then some node else tree.node? other := by
  by_cases root : other = []
  · subst root
    simp [node?, below]
  · simp only [node?, put, root, if_false]
    exact Members.find?_put tree.nodes location other node

/-- Follows steps from a location. Each step but the last has to end at a directory, and each name
has to be short enough. -/
def follow (tree : FileTree) (location : Location) : List String → Except FileFault Location
  | [] => .ok location
  | step :: rest =>
    match tree.node? location with
    | some .directory =>
      if nameLimit < step.utf8ByteSize then .error .nameTooLong
      else follow tree (location.enter step) rest
    | some (.file _) => .error .notADirectory
    | none => .error .notFound

/-- What stands where steps lead from the root; nothing may stand there yet. -/
def find (tree : FileTree) (steps : List String) : Except FileFault (Option FileNode) :=
  (tree.follow [] steps).map tree.node?

/-- What a path names. -/
def look (tree : FileTree) (path : String) : Except FileFault FileNode := do
  checkPath path
  if path.isEmpty then .error .notFound
  else
    match ← tree.find (Path.lookupSteps path) with
    | some node => return node
    | none => .error .notFound

def isDirectory (tree : FileTree) (path : String) : Bool :=
  tree.look path matches .ok .directory

def isFile (tree : FileTree) (path : String) : Bool :=
  tree.look path matches .ok (.file _)

def read (tree : FileTree) (path : String) : Except FileFault ByteArray :=
  match tree.look path with
  | .ok (.file content) => .ok content
  | .ok .directory => .error .isADirectory
  | .error fault => .error fault

/-- The files of a tree. -/
def files (tree : FileTree) : List (Location × ByteArray) :=
  tree.nodes.filterMap fun entry =>
    match entry.2 with
    | .file content => some (entry.1, content)
    | .directory => none

/-- The names of what stands directly inside a directory, in any order. -/
def namesIn (tree : FileTree) (location : Location) : List String :=
  tree.nodes.filterMap fun entry => location.nameBelow? entry.1

/-- The names of the files directly inside a directory that a path through it reaches, in any
order. -/
def fileNames (tree : FileTree) (path : String) : Except FileFault (List String) := do
  match ← tree.look path with
  | .directory =>
    let location ← tree.follow [] (Path.lookupSteps path)
    return (tree.namesIn location).filter fun name => tree.isFile (Path.join path name)
  | .file _ => .error .notADirectory

/-- Puts a file where none is or in the place of another. -/
def write (tree : FileTree) (path : String) (content : ByteArray) : Except FileFault FileTree := do
  checkPath path
  let location ← tree.follow [] (Path.components path)
  match tree.node? location with
  | some .directory => .error .isADirectory
  | _ => return tree.put location (.file content)

/-- Makes one directory, where nothing is and its parent is a directory. -/
def makeDirectory (tree : FileTree) (steps : List String) : Except FileFault FileTree := do
  let location ← tree.follow [] steps
  match tree.node? location with
  | some _ => .error .exists
  | none => return tree.put location .directory

/-- Makes a directory unless it is there already. -/
def ensureDirectory (tree : FileTree) (steps : List String) : Except FileFault FileTree :=
  match tree.makeDirectory steps with
  | .error .exists =>
    if tree.find steps matches .ok (some .directory) then .ok tree else .error .exists
  | outcome => outcome

/-- Makes the directory of the first path. Where its parent is missing, the paths above it, which
follow longest first, are made before. What has been made stays when a later step fails. -/
def ensureDirectories (tree : FileTree) : List (List String) → Except FileFault Unit × FileTree
  | [] => (.ok (), tree)
  | steps :: above =>
    match tree.ensureDirectory steps with
    | .ok grown => (.ok (), grown)
    | .error .notFound =>
      match tree.ensureDirectories above with
      | (.ok (), grown) =>
        match grown.ensureDirectory steps with
        | .ok complete => (.ok (), complete)
        | .error fault => (.error fault, grown)
      | failed => failed
    | .error fault => (.error fault, tree)

/-- Makes a directory and every missing directory above it. -/
def createDirectories (tree : FileTree) (path : String) : Except FileFault Unit × FileTree :=
  match checkPath path with
  | .ok () => tree.ensureDirectories (Path.ancestors path)
  | .error fault => (.error fault, tree)

end FileTree
end SchemaDecls
