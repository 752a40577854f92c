import SchemaDecls.Proofs.TreeLocations

/-!
What making directories and writing files leave in a tree, location by location. A directory is made
with all directories above it, and a file is put into a directory that is there.
-/
namespace SchemaDecls
namespace FileTree

/-- Nothing but directories stands at a location or above it, each inside the one above. -/
structure Passable (tree : FileTree) (location : Location) : Prop where
  unblocked : ∀ above, above <+: location → ∀ content, tree.node? above ≠ some (.file content)
  nested : ∀ above name, above ++ [name] <+: location →
    tree.node? (above ++ [name]) = some .directory → tree.node? above = some .directory

section Passable
variable {tree : FileTree} {location : Location} {name : String}

theorem passable_parent (passable : tree.Passable (location ++ [name])) :
    tree.Passable location where
  unblocked above higher := passable.unblocked above (higher.trans (List.prefix_append _ _))
  nested above child higher := passable.nested above child (higher.trans (List.prefix_append _ _))

theorem passable_cases (passable : tree.Passable location) :
    tree.node? location = none ∨ tree.node? location = some .directory := by
  cases found : tree.node? location with
  | none => exact Or.inl rfl
  | some node =>
    cases node with
    | directory => exact Or.inr rfl
    | file content => exact absurd found (passable.unblocked location (List.prefix_refl _) content)

theorem open_of_passable (passable : tree.Passable location)
    (directory : tree.node? location = some .directory) : tree.Open location := by
  induction location using List.reverseRecOn with
  | nil => exact open_root tree
  | append_singleton parent name ih =>
    have above := passable.nested parent name (List.prefix_refl _) directory
    exact open_concat_iff.mpr ⟨ih (passable_parent passable) above, directory⟩

theorem passable_of_wellFormed (wellFormed : tree.WellFormed)
    (unblocked : ∀ above, above <+: location → ∀ content, tree.node? above ≠ some (.file content)) :
    tree.Passable location :=
  ⟨unblocked, fun _ _ _ directory => parent_directory wellFormed directory⟩

theorem passable_of_open (way : tree.Open location) : tree.Passable location where
  unblocked above higher content := by simp [way above higher]
  nested above name higher _ := way above ((List.prefix_append above [name]).trans higher)

/-- Where a directory above is missing, steps down find nothing. -/
theorem follow_missing (passable : tree.Passable location) (down : Path.Down (location ++ [name]))
    (short : Short (location ++ [name])) (missing : tree.node? location = none) :
    tree.follow [] (location ++ [name]) = .error .notFound := by
  induction location using List.reverseRecOn generalizing name with
  | nil => simp [node?_root] at missing
  | append_singleton parent child ih =>
    have downAbove := (down_concat_iff.mp down).1
    have shortAbove := (short_concat_iff.mp short).1
    rw [follow_append]
    rcases passable_cases (passable_parent passable) with absent | directory
    · rw [ih (passable_parent passable) downAbove shortAbove absent]
      rfl
    · have way := open_of_passable (passable_parent passable) directory
      have reached : tree.follow [] (parent ++ [child]) = .ok (parent ++ [child]) := by
        rw [follow_eq_ok_iff downAbove, List.dropLast_concat]
        exact ⟨shortAbove, way, rfl⟩
      rw [reached]
      simp only [bind, Except.bind, follow, missing]

end Passable

section MakeDirectory
variable {tree : FileTree} {location : Location} {name : String}

theorem ensureDirectory_root (tree : FileTree) : tree.ensureDirectory [] = .ok tree := by
  simp [ensureDirectory, makeDirectory, find, follow, node?_root, bind, Except.bind, Except.map]

/-- A directory is made inside another unless it is there. -/
theorem ensureDirectory_inside (way : tree.Open location)
    (free : ∀ content, tree.node? (location ++ [name]) ≠ some (.file content))
    (down : Path.Down (location ++ [name])) (short : Short (location ++ [name])) :
    ∃ grown, tree.ensureDirectory (location ++ [name]) = .ok grown ∧ ∀ other,
      grown.node? other = if location ++ [name] = other then some .directory
        else tree.node? other := by
  have reached : tree.follow [] (location ++ [name]) = .ok (location ++ [name]) := by
    rw [follow_eq_ok_iff down, List.dropLast_concat]
    exact ⟨short, way, rfl⟩
  cases found : tree.node? (location ++ [name]) with
  | none =>
    refine ⟨tree.put (location ++ [name]) .directory, ?_, fun other => ?_⟩
    · simp [ensureDirectory, makeDirectory, reached, found, bind, Except.bind, pure, Except.pure]
    · exact node?_put tree _ other .directory (by simp)
  | some node =>
    cases node with
    | file content => exact absurd found (free content)
    | directory =>
      refine ⟨tree, ?_, fun other => ?_⟩
      · simp [ensureDirectory, makeDirectory, find, reached, found, bind, Except.bind, Except.map]
      · split
        · next same => rw [← same, found]
        · rfl

theorem ensureDirectory_missing (passable : tree.Passable location)
    (missing : tree.node? location = none) (down : Path.Down (location ++ [name]))
    (short : Short (location ++ [name])) :
    tree.ensureDirectory (location ++ [name]) = .error .notFound := by
  have lost := follow_missing passable down short missing
  simp [ensureDirectory, makeDirectory, lost, bind, Except.bind]

theorem ite_prefix_concat {α : Type} (parent : Location) (name : String) (other : Location)
    (inside outside : α) :
    (if parent ++ [name] = other then inside else if other <+: parent then inside else outside)
      = if other <+: parent ++ [name] then inside else outside := by
  by_cases self : parent ++ [name] = other
  · subst self
    rw [if_pos rfl, if_pos (List.prefix_refl _)]
  · simp only [if_neg self, List.prefix_concat_iff, Ne.symm self, false_or]

/-- Making a directory by the paths above it makes them all, and nothing else. -/
theorem ensureDirectories_beginnings (passable : tree.Passable location) (down : Path.Down location)
    (short : Short location) :
    ∃ grown, tree.ensureDirectories (Path.beginnings location) = (.ok (), grown) ∧ ∀ other,
      grown.node? other = if other <+: location then some .directory else tree.node? other := by
  induction location using List.reverseRecOn with
  | nil =>
    refine ⟨tree, rfl, fun other => ?_⟩
    split
    · next higher => rw [List.prefix_nil.mp higher, node?_root]
    · rfl
  | append_singleton parent name ih =>
    -- A missing parent fails the first attempt; the parents are made, and the second succeeds.
    have above := passable_parent passable
    have free := passable.unblocked _ (List.prefix_refl (parent ++ [name]))
    rw [Path.beginnings_concat]
    unfold ensureDirectories
    rcases passable_cases above with missing | directory
    · rw [ensureDirectory_missing above missing down short]
      obtain ⟨grown, made, nodes⟩ :=
        ih above (down_concat_iff.mp down).1 (short_concat_iff.mp short).1
      have way : grown.Open parent := fun higher inside => by rw [nodes, if_pos inside]
      have same : grown.node? (parent ++ [name]) = tree.node? (parent ++ [name]) := by
        rw [nodes, if_neg not_concat_prefix]
      obtain ⟨complete, last, added⟩ := ensureDirectory_inside way (same ▸ free) down short
      refine ⟨complete, by simp only [made, last], fun other => ?_⟩
      rw [added, nodes, ite_prefix_concat]
    · have way := open_of_passable above directory
      obtain ⟨complete, last, added⟩ := ensureDirectory_inside way free down short
      refine ⟨complete, by simp only [last], fun other => ?_⟩
      have there : tree.node? other
          = if other <+: parent then some .directory else tree.node? other := by
        split
        · next higher => exact way other higher
        · rfl
      rw [added, there, ite_prefix_concat, ← there]

/-- A path that leads down makes the directory it names, with all directories above it. -/
theorem createDirectories_plain {path : String} (plain : Path.Plain path)
    (valid : checkPath path = .ok ()) (short : Short (Path.components path))
    (passable : tree.Passable (Path.components path)) :
    ∃ grown, tree.createDirectories path = (.ok (), grown) ∧ ∀ other,
      grown.node? other = if other <+: Path.components path then some .directory
        else tree.node? other := by
  unfold createDirectories
  rw [valid]
  by_cases root : Path.components path = []
  · have above : Path.ancestors path = [[]] := by
      unfold Path.ancestors
      rw [Path.steps_plain plain, root]
      rfl
    refine ⟨tree, ?_, fun other => ?_⟩
    · simp [above, ensureDirectories, ensureDirectory_root]
    · rw [root]
      split
      · next higher => rw [List.prefix_nil.mp higher, node?_root]
      · rfl
  · rw [Path.ancestors_plain plain root]
    exact ensureDirectories_beginnings passable plain short

end MakeDirectory

section Write
variable {tree : FileTree} {directory name : String}

/-- Whether a file may have this name and be reached by the path of it. -/
def Fits (directory name : String) : Prop :=
  name.utf8ByteSize ≤ nameLimit ∧ (Path.join directory name).utf8ByteSize ≤ pathLimit

instance (directory name : String) : Decidable (Fits directory name) :=
  inferInstanceAs (Decidable (_ ∧ _))

theorem follow_join (plain : Path.Plain directory) (own : Path.IsName name)
    (short : Short (Path.components directory)) (way : tree.Open (Path.components directory)) :
    tree.follow [] (Path.components (Path.join directory name))
      = if nameLimit < name.utf8ByteSize then .error .nameTooLong
        else .ok (Path.components directory ++ [name]) := by
  have down : name ≠ "." ∧ name ≠ ".." := ⟨own.notHere, own.notUp⟩
  rw [Path.components_join directory own, follow_append, follow_open way plain short]
  simp only [bind, Except.bind, follow, open_directory way, enter_down down]

theorem write_fits (content : ByteArray) (plain : Path.Plain directory) (own : Path.IsName name)
    (readable : '\x00' ∉ (Path.join directory name).toList)
    (short : Short (Path.components directory)) (way : tree.Open (Path.components directory))
    (free : tree.node? (Path.components directory ++ [name]) ≠ some .directory)
    (fits : Fits directory name) :
    tree.write (Path.join directory name) content
      = .ok (tree.put (Path.components directory ++ [name]) (.file content)) := by
  have valid : checkPath (Path.join directory name) = .ok () :=
    checkPath_eq_ok_iff.mpr ⟨readable, fits.2⟩
  have followed := follow_join plain own short way
  rw [if_neg (Nat.not_lt.mpr fits.1)] at followed
  unfold write
  simp only [valid, followed, bind, Except.bind, pure, Except.pure]

theorem write_refused (content : ByteArray) (plain : Path.Plain directory) (own : Path.IsName name)
    (readable : '\x00' ∉ (Path.join directory name).toList)
    (short : Short (Path.components directory)) (way : tree.Open (Path.components directory))
    (tooLong : ¬ Fits directory name) :
    tree.write (Path.join directory name) content = .error .nameTooLong := by
  unfold write
  by_cases reachable : (Path.join directory name).utf8ByteSize ≤ pathLimit
  · have valid : checkPath (Path.join directory name) = .ok () :=
      checkPath_eq_ok_iff.mpr ⟨readable, reachable⟩
    have long : nameLimit < name.utf8ByteSize := by
      rw [← Nat.not_le]
      exact fun fitting => tooLong ⟨fitting, reachable⟩
    have followed := follow_join plain own short way
    rw [if_pos long] at followed
    simp only [valid, followed, bind, Except.bind]
  · have invalid : checkPath (Path.join directory name) = .error .nameTooLong := by
      simp [checkPath, readable, Nat.not_le.mp reachable]
    simp only [invalid, bind, Except.bind]

end Write
end FileTree
end SchemaDecls
