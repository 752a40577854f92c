import Mathlib.Data.List.Infix
import SchemaDecls.Proofs.FilePaths
import SchemaDecls.Proofs.TreeReading

/-!
Locations of a file tree. A path that leads down is followed through directories only, so what it
reads, makes or writes is told by what stands at its own steps. Every operation is described by what
it leaves at each location.
-/
namespace SchemaDecls
namespace FileTree

/-- A tree as a file system holds it: everything has a name and stands in a directory. -/
def WellFormed (tree : FileTree) : Prop :=
  ∀ entry ∈ tree.nodes, ∃ parent name, entry.1 = parent ++ [name] ∧ Path.IsName name ∧
    tree.node? parent = some .directory

/-- The location that a path leads to, whatever stands there. -/
def Denotes (tree : FileTree) (path : String) (location : Location) : Prop :=
  tree.follow [] (Path.lookupSteps path) = .ok location

/-- From the root to a location there are only directories. -/
def Open (tree : FileTree) (location : Location) : Prop :=
  ∀ above, above <+: location → tree.node? above = some .directory

theorem not_concat_prefix {location : Location} {name : String} :
    ¬ location ++ [name] <+: location := by
  intro higher
  have shorter := higher.length_le
  rw [List.length_append, List.length_singleton] at shorter
  omega

theorem node?_root (tree : FileTree) : tree.node? [] = some .directory := by simp [node?]

theorem mem_of_node? {tree : FileTree} {location : Location} {node : FileNode}
    (found : tree.node? location = some node) (below : location ≠ []) :
    (location, node) ∈ tree.nodes := by
  rw [node?, if_neg below] at found
  exact Members.mem_of_find? found

section Open
variable {tree : FileTree} {location : Location} {name : String}

theorem open_root (tree : FileTree) : tree.Open [] := by
  intro above higher
  rw [List.prefix_nil] at higher
  rw [higher, node?_root]

theorem open_concat_iff :
    tree.Open (location ++ [name]) ↔
      tree.Open location ∧ tree.node? (location ++ [name]) = some .directory := by
  constructor
  · intro way
    exact ⟨fun above higher => way above (higher.trans (List.prefix_append _ _)),
      way _ (List.prefix_refl _)⟩
  · rintro ⟨way, directory⟩ above higher
    rcases List.prefix_concat_iff.mp higher with rfl | inside
    · exact directory
    · exact way above inside

theorem open_directory (way : tree.Open location) : tree.node? location = some .directory :=
  way location (List.prefix_refl location)

theorem parent_directory (wellFormed : tree.WellFormed) {node : FileNode}
    (found : tree.node? (location ++ [name]) = some node) :
    tree.node? location = some .directory := by
  obtain ⟨parent, last, same, _, directory⟩ := wellFormed _ (mem_of_node? found (by simp))
  rw [(List.append_singleton_inj.mp same).1]
  exact directory

theorem open_of_directory (wellFormed : tree.WellFormed)
    (directory : tree.node? location = some .directory) : tree.Open location := by
  induction location using List.reverseRecOn with
  | nil => exact open_root tree
  | append_singleton parent name ih =>
    exact open_concat_iff.mpr ⟨ih (parent_directory wellFormed directory), directory⟩

theorem open_above_of_node? (wellFormed : tree.WellFormed) {node : FileNode}
    (found : tree.node? location = some node) : tree.Open location.dropLast := by
  cases location using List.reverseRecOn with
  | nil => exact open_root tree
  | append_singleton parent name =>
    rw [List.dropLast_concat]
    exact open_of_directory wellFormed (parent_directory wellFormed found)

end Open

section Names
variable {tree : FileTree} {location : Location} {name : String}

theorem nameBelow?_eq_some_iff {below : Location} :
    location.nameBelow? below = some name ↔ below = location ++ [name] := by
  unfold Location.nameBelow?
  cases below using List.reverseRecOn with
  | nil => simp
  | append_singleton parent last =>
    rw [List.getLast?_concat, List.dropLast_concat, Option.filter_eq_some_iff,
      List.append_singleton_inj]
    simp [and_comm, eq_comm]

/-- The names in a directory are those of what stands right below it. -/
theorem mem_namesIn_iff :
    name ∈ tree.namesIn location ↔ ∃ node, (location ++ [name], node) ∈ tree.nodes := by
  simp only [namesIn, List.mem_filterMap, nameBelow?_eq_some_iff, Prod.exists]
  constructor
  · rintro ⟨_, node, listed, rfl⟩
    exact ⟨node, listed⟩
  · rintro ⟨node, listed⟩
    exact ⟨_, node, listed, rfl⟩

theorem namesIn_isName (wellFormed : tree.WellFormed) (listed : name ∈ tree.namesIn location) :
    Path.IsName name := by
  obtain ⟨node, member⟩ := mem_namesIn_iff.mp listed
  obtain ⟨parent, last, same, own, _⟩ := wellFormed _ member
  exact (List.append_singleton_inj.mp same).2 ▸ own

end Names

section Follow
variable {tree : FileTree} {location : Location} {name : String}

/-- No step is too long for a name. -/
def Short (steps : List String) : Prop := ∀ step ∈ steps, step.utf8ByteSize ≤ nameLimit

instance (steps : List String) : Decidable (Short steps) :=
  inferInstanceAs (Decidable (∀ step ∈ steps, step.utf8ByteSize ≤ nameLimit))

theorem down_concat_iff {steps : List String} :
    Path.Down (steps ++ [name]) ↔ Path.Down steps ∧ name ≠ "." ∧ name ≠ ".." := by
  simp only [Path.Down, List.forall_mem_append, List.forall_mem_singleton]

theorem short_concat_iff {steps : List String} :
    Short (steps ++ [name]) ↔ Short steps ∧ name.utf8ByteSize ≤ nameLimit := by
  simp only [Short, List.forall_mem_append, List.forall_mem_singleton]

theorem follow_append (tree : FileTree) (location : Location) (first second : List String) :
    tree.follow location (first ++ second)
      = tree.follow location first >>= fun reached => tree.follow reached second := by
  induction first generalizing location with
  | nil => rfl
  | cons step rest ih =>
    simp only [List.cons_append, follow]
    split
    · split
      · rfl
      · exact ih (location.enter step)
    · rfl
    · rfl

theorem follow_one_eq_ok_iff {reached : Location} :
    tree.follow location [name] = .ok reached ↔
      tree.node? location = some .directory ∧ name.utf8ByteSize ≤ nameLimit ∧
        location.enter name = reached := by
  unfold follow
  split
  · next directory =>
    split
    · next long => simp [directory, Nat.not_le.mpr long]
    · next short => simp [directory, Nat.not_lt.mp short, follow]
  · next content file => simp [file]
  · next missing => simp [missing]

theorem enter_down (down : name ≠ "." ∧ name ≠ "..") :
    location.enter name = location ++ [name] := by
  rw [Location.enter, if_neg down.1, if_neg down.2]

/-- Steps down lead along themselves, if the way to the last of them is open. -/
theorem follow_eq_ok_iff {steps : List String} (down : Path.Down steps) {reached : Location} :
    tree.follow [] steps = .ok reached ↔
      Short steps ∧ tree.Open steps.dropLast ∧ reached = steps := by
  induction steps using List.reverseRecOn generalizing reached with
  | nil => simp [follow, Short, open_root, eq_comm]
  | append_singleton before name ih =>
    obtain ⟨downBefore, downLast⟩ := down_concat_iff.mp down
    rw [follow_append, bind_eq_ok_iff, List.dropLast_concat, short_concat_iff]
    constructor
    · rintro ⟨middle, first, last⟩
      obtain ⟨short, above, rfl⟩ := (ih downBefore).mp first
      obtain ⟨directory, fits, rfl⟩ := follow_one_eq_ok_iff.mp last
      refine ⟨⟨short, fits⟩, ?_, enter_down downLast⟩
      cases middle using List.reverseRecOn with
      | nil => exact open_root tree
      | append_singleton parent child =>
        rw [List.dropLast_concat] at above
        exact open_concat_iff.mpr ⟨above, directory⟩
    · rintro ⟨⟨short, fits⟩, way, rfl⟩
      have above : tree.Open before.dropLast := fun higher inside =>
        way higher (inside.trans (List.dropLast_prefix before))
      exact ⟨before, (ih downBefore).mpr ⟨short, above, rfl⟩,
        follow_one_eq_ok_iff.mpr ⟨open_directory way, fits, enter_down downLast⟩⟩

theorem follow_open {steps : List String} (way : tree.Open steps) (down : Path.Down steps)
    (short : Short steps) : tree.follow [] steps = .ok steps :=
  (follow_eq_ok_iff down).mpr
    ⟨short, fun above higher => way above (higher.trans (List.dropLast_prefix steps)), rfl⟩

end Follow

section Directory
variable {tree : FileTree} {directory : String} {location : Location}

theorem checkPath_slashed {path : String} {count : Nat} (readable : '\x00' ∉ path.toList)
    (fits : path.utf8ByteSize + count ≤ pathLimit) :
    checkPath (Path.slashed path count) = .ok () := by
  refine checkPath_eq_ok_iff.mpr ⟨?_, by rwa [Path.size_slashed]⟩
  intro inside
  rcases Path.mem_slashed path count inside with spelled | slash
  · exact readable spelled
  · cases slash

theorem isDirectory_iff :
    tree.isDirectory directory = true ↔ checkPath directory = .ok () ∧ directory ≠ "" ∧
      ∃ location, tree.Denotes directory location ∧ tree.node? location = some .directory := by
  constructor
  · exact fun opened => look_eq_ok_iff.mp (look_of_isDirectory opened)
  · intro found
    unfold isDirectory
    rw [look_eq_ok_iff.mpr found]

theorem fileNames_eq (opened : tree.isDirectory directory = true)
    (denotes : tree.Denotes directory location) :
    tree.fileNames directory = .ok ((tree.namesIn location).filter fun name =>
      tree.isFile (Path.join directory name)) := by
  unfold Denotes at denotes
  unfold fileNames
  rw [look_of_isDirectory opened]
  simp only [bind, Except.bind, denotes]
  rfl

theorem documentsFor_directory (opened : tree.isDirectory directory = true)
    (denotes : tree.Denotes directory location) :
    tree.documentsFor directory = CommandLine.documentsAmong
      ((tree.namesIn location).filter fun name => tree.isFile (Path.join directory name))
      directory := by
  rw [documentsFor, if_pos opened, fileNames_eq opened denotes]
  rfl

end Directory

/-- What a path that leads down reads: the file at its own steps, if the way there is open. -/
theorem read_eq_ok_iff {tree : FileTree} {path : String} (plain : Path.Plain path)
    {content : ByteArray} :
    tree.read path = .ok content ↔ checkPath path = .ok () ∧
      path.toList.getLast? ≠ some '/' ∧ Short (Path.components path) ∧
      tree.Open (Path.components path).dropLast ∧
      tree.node? (Path.components path) = some (.file content) := by
  rw [read_eq_ok_iff_look, look_eq_ok_iff]
  constructor
  · rintro ⟨valid, named, location, followed, found⟩
    -- A slash at the end asks for a directory, and a directory is not read.
    have unslashed : path.toList.getLast? ≠ some '/' := by
      intro slashed
      rw [Path.lookupSteps, if_pos slashed, follow_append, bind_eq_ok_iff] at followed
      obtain ⟨reached, _, last⟩ := followed
      obtain ⟨directory, _, rfl⟩ := follow_one_eq_ok_iff.mp last
      rw [Location.enter, if_pos rfl, directory] at found
      cases found
    rw [Path.lookupSteps, if_neg unslashed, List.append_nil] at followed
    obtain ⟨short, above, rfl⟩ := (follow_eq_ok_iff plain).mp followed
    exact ⟨valid, unslashed, short, above, found⟩
  · rintro ⟨valid, unslashed, short, above, found⟩
    refine ⟨valid, ?_, Path.components path, ?_, found⟩
    · rintro rfl
      have root : Path.components "" = [] := by decide
      rw [root, node?_root] at found
      cases found
    · rw [Path.lookupSteps, if_neg unslashed, List.append_nil]
      exact (follow_eq_ok_iff plain).mpr ⟨short, above, rfl⟩

end FileTree
end SchemaDecls
