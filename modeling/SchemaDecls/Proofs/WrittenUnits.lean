import SchemaDecls.Proofs.TreeWrites

/-!
Units written into a directory. What they leave is told by the units alone: at the place of a file
stands the last unit of that name, and everything else is as it was. The first file that the tree
refuses ends the writing.
-/
namespace SchemaDecls

/-- The file that units leave at a location: that of the last one kept there. -/
def unitFile? (out : Location) (language : Language) (units : List SourceUnit)
    (location : Location) : Option FileNode :=
  (units.filterMap fun unit =>
    if out ++ [unit.fileName language] = location then some (.file unit.source.toUTF8)
    else none).getLast?

/-- Whether the file of a unit is taken by a directory. -/
def UnitFits (outDir : String) (language : Language) (unit : SourceUnit) : Prop :=
  FileTree.Fits outDir (unit.fileName language)

instance (outDir : String) (language : Language) (unit : SourceUnit) :
    Decidable (UnitFits outDir language unit) :=
  inferInstanceAs (Decidable (FileTree.Fits outDir (unit.fileName language)))

section UnitFile
variable {out : Location} {language : Language} {units : List SourceUnit} {location : Location}

theorem unitFile?_append (earlier later : List SourceUnit) :
    unitFile? out language (earlier ++ later) location
      = (unitFile? out language later location).or (unitFile? out language earlier location) := by
  rw [unitFile?, List.filterMap_append, List.getLast?_append]
  rfl

theorem unitFile?_cons (unit : SourceUnit) (rest : List SourceUnit) :
    unitFile? out language (unit :: rest) location
      = (unitFile? out language rest location).or
          (if out ++ [unit.fileName language] = location then some (.file unit.source.toUTF8)
            else none) := by
  rw [← List.singleton_append, unitFile?_append]
  congr 1
  unfold unitFile?
  split <;> simp_all

theorem unit_of_unitFile? {node : FileNode}
    (found : unitFile? out language units location = some node) :
    ∃ unit ∈ units, out ++ [unit.fileName language] = location ∧
      node = .file unit.source.toUTF8 := by
  obtain ⟨unit, member, kept⟩ := List.mem_filterMap.mp (List.mem_of_getLast? found)
  split at kept
  · next here => exact ⟨unit, member, here, (Option.some.inj kept).symm⟩
  · cases kept

theorem unitFile?_eq_none (elsewhere : ∀ unit ∈ units, out ++ [unit.fileName language] ≠ location) :
    unitFile? out language units location = none := by
  cases found : unitFile? out language units location with
  | none => rfl
  | some node =>
    obtain ⟨unit, member, here, _⟩ := unit_of_unitFile? found
    exact absurd here (elsewhere unit member)

theorem unitFile?_of_mem {unit : SourceUnit} (member : unit ∈ units) :
    ∃ content, unitFile? out language units (out ++ [unit.fileName language])
      = some (.file content) := by
  cases found : unitFile? out language units (out ++ [unit.fileName language]) with
  | none =>
    have nothing := List.filterMap_eq_nil_iff.mp (List.getLast?_eq_none_iff.mp found) unit member
    simp at nothing
  | some node =>
    obtain ⟨_, _, _, rfl⟩ := unit_of_unitFile? found
    exact ⟨_, rfl⟩

theorem unitFile?_above (higher : location <+: out) :
    unitFile? out language units location = none := by
  apply unitFile?_eq_none
  rintro unit _ rfl
  exact FileTree.not_concat_prefix higher

end UnitFile

/-- A directory that files can be put into: a path that a file system takes, without dots. -/
structure OutputPath (outDir : String) : Prop where
  plain : Path.Plain outDir
  valid : FileTree.checkPath outDir = .ok ()
  short : FileTree.Short (Path.components outDir)

section Writing
variable {outDir : String} {language : Language} {units : List SourceUnit} {tree : FileTree}

theorem readable_join (output : OutputPath outDir) {unit : SourceUnit}
    (own : Spelled [] unit.name) :
    '\x00' ∉ (Path.join outDir (unit.fileName language)).toList := by
  have inDirectory : '\x00' ∉ outDir.toList := (FileTree.checkPath_eq_ok_iff.mp output.valid).1
  have inName : '\x00' ∉ (unit.fileName language).toList := by
    have apart : '\x00' ∉ unit.name.toList := not_mem_of_spelled own (by decide) (by simp)
    rw [fileName_toList]
    cases language <;> simp [Language.fileExtension, apart]
  intro inside
  rcases Path.mem_join inside with directory | slash | name
  · exact inDirectory directory
  · cases slash
  · exact inName name

section One
variable {unit : SourceUnit}

theorem writeUnit_fits (output : OutputPath outDir) (own : Spelled [] unit.name)
    (way : tree.Open (Path.components outDir))
    (free : tree.node? (Path.components outDir ++ [unit.fileName language]) ≠ some .directory)
    (fits : UnitFits outDir language unit) :
    (writeUnit outDir language unit : TreeRun String).run tree
      = (.ok (Path.join outDir (unit.fileName language)),
        tree.put (Path.components outDir ++ [unit.fileName language])
          (.file unit.source.toUTF8)) := by
  have put := FileTree.write_fits unit.source.toUTF8 output.plain
    (fileName_isName language own) (readable_join output own) output.short way free fits
  have ran : (Files.attempt (Files.write (Path.join outDir (unit.fileName language))
      unit.source.toUTF8 : StateM FileTree _)).run tree
      = (.ok (), tree.put (Path.components outDir ++ [unit.fileName language])
          (.file unit.source.toUTF8)) := by
    rw [attempt_run]
    simp only [Files.write, put]
    rfl
  exact (run_bind_ok ran _).trans rfl

theorem writeUnit_refused (output : OutputPath outDir) (own : Spelled [] unit.name)
    (way : tree.Open (Path.components outDir)) (tooLong : ¬ UnitFits outDir language unit) :
    (writeUnit outDir language unit : TreeRun String).run tree
      = (.error (.file .nameTooLong), tree) := by
  have refused := FileTree.write_refused unit.source.toUTF8 output.plain
    (fileName_isName language own) (readable_join output own) output.short way tooLong
  unfold writeUnit
  apply run_bind_error
  rw [attempt_run]
  simp only [Files.write, refused]
  rfl

end One

/-- Units are written in order up to the first that is refused. -/
theorem mapM_writeUnit_run (output : OutputPath outDir)
    (named : ∀ unit ∈ units, Spelled [] unit.name)
    (way : tree.Open (Path.components outDir))
    (free : ∀ unit ∈ units,
      tree.node? (Path.components outDir ++ [unit.fileName language]) ≠ some .directory) :
    ∃ after, (units.mapM (writeUnit outDir language) : TreeRun (List String)).run tree
      = (if ∀ unit ∈ units, UnitFits outDir language unit then
          .ok (units.map fun unit => Path.join outDir (unit.fileName language))
        else .error (.file .nameTooLong), after) ∧
      ∀ location, after.node? location
        = (unitFile? (Path.components outDir) language
            (units.takeWhile fun unit => UnitFits outDir language unit) location).or
          (tree.node? location) := by
  induction units generalizing tree with
  | nil => exact ⟨tree, by simp; rfl, fun _ => rfl⟩
  | cons unit rest ih =>
    obtain ⟨own, namedLater⟩ := List.forall_mem_cons.mp named
    obtain ⟨freeHere, freeLater⟩ := List.forall_mem_cons.mp free
    rw [List.mapM_cons]
    by_cases fits : UnitFits outDir language unit
    · have nodes := fun other => FileTree.node?_put tree
        (Path.components outDir ++ [unit.fileName language]) other (.file unit.source.toUTF8)
        (by simp)
      have first := writeUnit_fits output own way freeHere fits
      generalize tree.put _ _ = grown at nodes first
      have wayOn : grown.Open (Path.components outDir) := by
        intro above higher
        have apart : Path.components outDir ++ [unit.fileName language] ≠ above := by
          rintro rfl
          exact FileTree.not_concat_prefix higher
        rw [nodes, if_neg apart]
        exact way above higher
      have freeOn : ∀ other ∈ rest,
          grown.node? (Path.components outDir ++ [other.fileName language]) ≠ some .directory := by
        intro other member
        rw [nodes]
        split
        · simp
        · exact freeLater other member
      obtain ⟨after, ran, left⟩ := ih namedLater wayOn freeOn
      refine ⟨after, ?_, fun location => ?_⟩
      · rw [run_bind_ok first]
        by_cases all : ∀ unit ∈ rest, UnitFits outDir language unit
        · rw [if_pos all] at ran
          rw [run_bind_ok ran, if_pos (List.forall_mem_cons.mpr ⟨fits, all⟩)]
          rfl
        · rw [if_neg all] at ran
          rw [run_bind_error ran, if_neg (fun both => all (List.forall_mem_cons.mp both).2)]
      · rw [left, nodes, List.takeWhile_cons_of_pos (by simpa using fits), unitFile?_cons,
          Option.or_assoc]
        congr 1
        split <;> rfl
    · refine ⟨tree, ?_, fun location => ?_⟩
      · rw [run_bind_error (writeUnit_refused output own way fits), if_neg]
        exact fun all => fits (all unit (by simp))
      · rw [List.takeWhile_cons_of_neg (by simpa using fits)]
        rfl

/-- Writing units makes their directory first, even where there are none. -/
theorem writeUnits_run (output : OutputPath outDir) (named : ∀ unit ∈ units, Spelled [] unit.name)
    (passable : tree.Passable (Path.components outDir))
    (free : ∀ unit ∈ units,
      tree.node? (Path.components outDir ++ [unit.fileName language]) ≠ some .directory) :
    ∃ after, (writeUnits units outDir language : TreeRun (List String)).run tree
      = (if ∀ unit ∈ units, UnitFits outDir language unit then
          .ok (units.map fun unit => Path.join outDir (unit.fileName language))
        else .error (.file .nameTooLong), after) ∧
      ∀ location, after.node? location
        = (unitFile? (Path.components outDir) language
            (units.takeWhile fun unit => UnitFits outDir language unit) location).or
          (if location <+: Path.components outDir then some .directory
            else tree.node? location) := by
  obtain ⟨grown, made, nodes⟩ :=
    FileTree.createDirectories_plain output.plain output.valid output.short passable
  have first : (Files.attempt (Files.createDirectories outDir : StateM FileTree _)).run tree
      = (.ok (), grown) := by
    rw [attempt_run]
    simp only [Files.createDirectories, made]
    rfl
  have way : grown.Open (Path.components outDir) := fun above higher => by rw [nodes, if_pos higher]
  have freeOn : ∀ unit ∈ units,
      grown.node? (Path.components outDir ++ [unit.fileName language]) ≠ some .directory := by
    intro unit member
    rw [nodes, if_neg FileTree.not_concat_prefix]
    exact free unit member
  obtain ⟨after, ran, left⟩ := mapM_writeUnit_run output named way freeOn
  refine ⟨after, ?_, fun location => by rw [left, nodes]⟩
  unfold writeUnits
  rw [run_bind_ok first, ran]

end Writing
end SchemaDecls
