import SchemaDecls.Proofs.ConfinedWrites
import SchemaDecls.Proofs.WriteStages

/-!
Generating twice. The files of units never take the place of a document, so the document is read
again as it was. The directory is there by then, each file is put where one stands already, and of
two units with one file name the later wins again. So the second run leaves the tree of the first.
-/
namespace SchemaDecls

namespace Members
variable {Key Value : Type} [DecidableEq Key]

def putAll (table : Members Value Key) (entries : List (Key × Value)) : Members Value Key :=
  entries.foldl (fun table entry => table.put entry.1 entry.2) table

theorem putAll_cons (table : Members Value Key) (key : Key) (value : Value)
    (rest : List (Key × Value)) :
    table.putAll ((key, value) :: rest) = (table.put key value).putAll rest := rfl

theorem keys_subset_putAll (entries : List (Key × Value)) (table : Members Value Key) :
    table.keys ⊆ (table.putAll entries).keys := by
  induction entries generalizing table with
  | nil => exact List.Subset.refl _
  | cons entry rest ih =>
    have grown : table.keys ⊆ (table.put entry.1 entry.2).keys := by
      rw [keys_put]
      split
      · exact List.Subset.refl _
      · exact List.subset_append_left _ _
    exact List.Subset.trans grown (ih _)

theorem mem_keys_put (table : Members Value Key) (key : Key) (value : Value) :
    key ∈ (table.put key value).keys := by
  rw [keys_put]
  split
  · assumption
  · simp

theorem find?_putAll_absent {entries : List (Key × Value)} {key : Key}
    (absent : key ∉ entries.map Prod.fst) (table : Members Value Key) :
    (table.putAll entries).find? key = table.find? key := by
  induction entries generalizing table with
  | nil => rfl
  | cons entry rest ih =>
    obtain ⟨other, value⟩ := entry
    rw [List.map_cons, List.mem_cons, not_or] at absent
    rw [putAll_cons, ih absent.2, find?_put, if_neg (Ne.symm absent.1)]

/-- A value put early is overwritten by a later entry of its key, else it may as well come last. -/
theorem putAll_put {table : Members Value Key} {key : Key} (placed : key ∈ table.keys)
    (value : Value) (entries : List (Key × Value)) :
    (table.put key value).putAll entries
      = if key ∈ entries.map Prod.fst then table.putAll entries
        else (table.putAll entries).put key value := by
  induction entries generalizing table with
  | nil => rfl
  | cons entry rest ih =>
    obtain ⟨other, another⟩ := entry
    by_cases same : key = other
    · subst same
      rw [putAll_cons, put_put, putAll_cons, if_pos (by simp)]
    · have kept : key ∈ (table.put other another).keys :=
        keys_subset_putAll [(other, another)] table placed
      rw [putAll_cons, put_comm same placed, ih kept, putAll_cons]
      simp only [List.map_cons, List.mem_cons, same, false_or]

/-- Entries put a second time change nothing. -/
theorem putAll_putAll (table : Members Value Key) (entries : List (Key × Value)) :
    (table.putAll entries).putAll entries = table.putAll entries := by
  induction entries generalizing table with
  | nil => rfl
  | cons entry rest ih =>
    obtain ⟨key, value⟩ := entry
    have placed : key ∈ ((table.put key value).putAll rest).keys :=
      keys_subset_putAll rest _ (mem_keys_put table key value)
    rw [putAll_cons, putAll_cons, putAll_put placed, ih]
    split
    · rfl
    · next absent =>
      apply put_of_find?
      rw [find?_putAll_absent absent, find?_put, if_pos rfl]

end Members

namespace FileTree

section Directories
variable {tree grown : FileTree} {steps : List String}

theorem find_eq_ok_iff {node : FileNode} : tree.find steps = .ok (some node) ↔
    ∃ location, tree.follow [] steps = .ok location ∧ tree.node? location = some node :=
  map_eq_ok_iff

theorem ensureDirectory_found (made : tree.ensureDirectory steps = .ok grown) :
    grown.find steps = .ok (some .directory) := by
  unfold ensureDirectory at made
  cases attempt : tree.makeDirectory steps with
  | ok fresh =>
    rw [attempt] at made
    cases made
    unfold makeDirectory at attempt
    obtain ⟨location, followed, placed⟩ := bind_eq_ok_iff.mp attempt
    split at placed
    · cases placed
    · next free =>
      cases placed
      have below : location ≠ [] := by
        rintro rfl
        simp [node?_root] at free
      have confined : Confined "" [] tree (tree.put location .directory) :=
        confined_put_directory free
      have followedThere := follow_of_keepsDirectories confined.directories followed
      refine find_eq_ok_iff.mpr ⟨location, followedThere, ?_⟩
      rw [node?_put _ _ _ _ below, if_pos rfl]
  | error fault =>
    rw [attempt] at made
    cases fault with
    | «exists» =>
      simp only at made
      split at made
      · next there =>
        cases made
        exact there
      · cases made
    | _ => cases made

theorem ensureDirectory_again (there : tree.find steps = .ok (some .directory)) :
    tree.ensureDirectory steps = .ok tree := by
  obtain ⟨location, followed, directory⟩ := find_eq_ok_iff.mp there
  have taken : tree.makeDirectory steps = .error .exists := by
    unfold makeDirectory
    simp only [followed, directory, bind, Except.bind]
  unfold ensureDirectory
  rw [taken, there]
  rfl

theorem ensureDirectories_found {above : List (List String)}
    (made : tree.ensureDirectories (steps :: above) = (.ok (), grown)) :
    grown.find steps = .ok (some .directory) := by
  unfold ensureDirectories at made
  split at made
  · next complete here =>
    cases made
    exact ensureDirectory_found here
  · split at made
    · split at made
      · next complete last =>
        cases made
        exact ensureDirectory_found last
      · cases made
    · next failed => exact (failed grown made).elim
  · cases made

theorem createDirectories_found {path : String}
    (made : tree.createDirectories path = (.ok (), grown)) :
    checkPath path = .ok () ∧ grown.find (Path.components path) = .ok (some .directory) := by
  unfold createDirectories at made
  split at made
  · next valid => exact ⟨valid, ensureDirectories_found made⟩
  · cases made

theorem createDirectories_again {path : String} (valid : checkPath path = .ok ())
    (there : tree.find (Path.components path) = .ok (some .directory)) :
    tree.createDirectories path = (.ok (), tree) := by
  unfold createDirectories Path.ancestors ensureDirectories
  rw [valid, ensureDirectory_again there]

end Directories

section Files
variable {tree : FileTree} {outDir name : String} {directory : Location}

/-- Whether the file of a name may be put into the directory that a path leads to. -/
structure Accepts (tree : FileTree) (outDir : String) (directory : Location) (name : String) :
    Prop where
  valid : checkPath (Path.join outDir name) = .ok ()
  short : name.utf8ByteSize ≤ nameLimit
  free : tree.node? (directory ++ [name]) ≠ some .directory

theorem write_eq_ok_iff (own : Path.IsName name)
    (reached : tree.follow [] (Path.components outDir) = .ok directory)
    (opened : tree.node? directory = some .directory) (content : ByteArray) (written : FileTree) :
    tree.write (Path.join outDir name) content = .ok written ↔
      tree.Accepts outDir directory name ∧
        written = tree.put (directory ++ [name]) (.file content) := by
  have down : name ≠ "." ∧ name ≠ ".." := ⟨own.notHere, own.notUp⟩
  have followed : ∀ location,
      tree.follow [] (Path.components (Path.join outDir name)) = .ok location ↔
        name.utf8ByteSize ≤ nameLimit ∧ directory ++ [name] = location := by
    intro location
    rw [Path.components_join outDir own, follow_append, reached]
    simp only [bind, Except.bind, follow_one_eq_ok_iff, opened, true_and, enter_down down]
  unfold write
  simp only [bind_eq_ok_iff, followed]
  constructor
  · rintro ⟨_, valid, _, ⟨short, rfl⟩, placed⟩
    split at placed
    · cases placed
    · next free =>
      cases placed
      exact ⟨⟨valid, short, free⟩, rfl⟩
  · rintro ⟨accepts, rfl⟩
    refine ⟨(), accepts.valid, _, ⟨accepts.short, rfl⟩, ?_⟩
    have free := accepts.free
    split
    · next taken => exact absurd taken free
    · rfl

/-- The files of units in a directory, put there in order. -/
def putUnits (tree : FileTree) (directory : Location) (language : Language)
    (units : List SourceUnit) : FileTree :=
  ⟨tree.nodes.putAll (units.map fun unit =>
    (directory ++ [unit.fileName language], .file unit.source.toUTF8))⟩

variable {language : Language} {units : List SourceUnit}

theorem node?_putUnits (tree : FileTree) (units : List SourceUnit) (location : Location) :
    (tree.putUnits directory language units).node? location
      = (unitFile? directory language units location).or (tree.node? location) := by
  induction units generalizing tree with
  | nil => rfl
  | cons unit rest ih =>
    have first : tree.putUnits directory language (unit :: rest)
        = (tree.put (directory ++ [unit.fileName language])
            (.file unit.source.toUTF8)).putUnits directory language rest := rfl
    rw [first, ih, node?_put _ _ _ _ (by simp), unitFile?_cons, Option.or_assoc]
    congr 1
    split <;> rfl

theorem putUnits_putUnits (tree : FileTree) (units : List SourceUnit) :
    (tree.putUnits directory language units).putUnits directory language units
      = tree.putUnits directory language units := by
  unfold putUnits
  rw [Members.putAll_putAll]

/-- No file of a unit is put where a directory stands. -/
theorem keepsDirectories_putUnits
    (accepts : ∀ unit ∈ units, tree.Accepts outDir directory (unit.fileName language)) :
    KeepsDirectories tree (tree.putUnits directory language units) := by
  intro location found
  have elsewhere : unitFile? directory language units location = none := by
    apply unitFile?_eq_none
    rintro unit member rfl
    exact (accepts unit member).free found
  rw [node?_putUnits, elsewhere, found]
  rfl

/-- Files of units leave it open which other files the directory takes. -/
theorem accepts_putUnits_iff
    (accepts : ∀ unit ∈ units, tree.Accepts outDir directory (unit.fileName language)) :
    (tree.putUnits directory language units).Accepts outDir directory name ↔
      tree.Accepts outDir directory name := by
  constructor
  · intro later
    refine ⟨later.valid, later.short, ?_⟩
    intro taken
    exact later.free (keepsDirectories_putUnits accepts _ taken)
  · intro now
    refine ⟨now.valid, now.short, ?_⟩
    rw [node?_putUnits]
    cases written : unitFile? directory language units (directory ++ [name]) with
    | none => exact now.free
    | some node =>
      obtain ⟨unit, _, _, rfl⟩ := unit_of_unitFile? written
      simp

end Files

end FileTree

section Source
variable {tree : FileTree} {path : String} {content : ByteArray}

/-- A file is reached by a name, not by a step that stays in a directory. -/
theorem FileTree.last_step_of_file {steps : List String} {location : Location}
    (followed : tree.follow [] steps = .ok location)
    (file : tree.node? location = some (.file content)) :
    ∃ before last, steps = before ++ [last] ∧ last ≠ "." := by
  cases steps using List.reverseRecOn with
  | nil =>
    cases followed
    simp [FileTree.node?_root] at file
  | append_singleton before last =>
    refine ⟨before, last, rfl, ?_⟩
    rintro rfl
    rw [FileTree.follow_append, bind_eq_ok_iff] at followed
    obtain ⟨directory, _, stays⟩ := followed
    obtain ⟨opened, _, rfl⟩ := FileTree.follow_one_eq_ok_iff.mp stays
    rw [Location.enter, if_pos rfl, opened] at file
    cases file

/-- A document that is read stands under the file name of its path. -/
theorem FileTree.denotes_of_read {format : DocumentFormat}
    (announced : DocumentFormat.ofPath path = .ok format) (read : tree.read path = .ok content) :
    ∃ parent name, Path.fileName? path = some name ∧ tree.Denotes path (parent ++ [name]) ∧
      tree.node? (parent ++ [name]) = some (.file content) := by
  obtain ⟨_, _, location, followed, file⟩ :=
    FileTree.look_eq_ok_iff.mp (FileTree.read_eq_ok_iff_look.mp read)
  obtain ⟨before, last, steps, notHere⟩ := FileTree.last_step_of_file followed file
  have unslashed : Path.lookupSteps path = Path.components path := by
    unfold Path.lookupSteps at steps ⊢
    split
    · next slashed =>
      rw [if_pos slashed] at steps
      exact absurd (List.append_singleton_inj.mp steps).2.symm notHere
    · rw [List.append_nil]
  have named : Path.fileName? path = if last = ".." then none else some last := by
    rw [unslashed] at steps
    rw [Path.fileName?, Path.steps, steps, List.filter_append]
    by_cases up : last = ".." <;> simp [notHere, up, Option.filter]
  have notUp : last ≠ ".." := by
    rintro rfl
    simp [DocumentFormat.ofPath, DocumentFormat.ofPath?, Path.extension?, named] at announced
  rw [steps, FileTree.follow_append, bind_eq_ok_iff] at followed
  obtain ⟨parent, above, lastStep⟩ := followed
  obtain ⟨opened, short, rfl⟩ := FileTree.follow_one_eq_ok_iff.mp lastStep
  rw [FileTree.enter_down ⟨notHere, notUp⟩] at file
  refine ⟨parent, last, by simp [named, notUp], ?_, file⟩
  rw [FileTree.Denotes, steps, FileTree.follow_append, above]
  exact FileTree.follow_one_eq_ok_iff.mpr ⟨opened, short, FileTree.enter_down ⟨notHere, notUp⟩⟩

end Source

section Writing
variable {outDir : String} {language : Language} {units : List SourceUnit}
  {tree after : FileTree} {paths : List String} {directory : Location}

theorem attempt_eq_ok_iff {α : Type} {operation : StateM FileTree (Except FileFault α)}
    {value : α} :
    (Files.attempt operation).run tree = (.ok value, after) ↔
      operation tree = (.ok value, after) := by
  rw [attempt_run, Prod.ext_iff, Prod.ext_iff, mapError_eq_ok_iff]

theorem filesWrite_eq_ok_iff {path : String} {content : ByteArray} {done : Unit} :
    (Files.write path content : StateM FileTree _) tree = (.ok done, after) ↔
      tree.write path content = .ok after := by
  simp only [Files.write]
  cases tree.write path content with
  | error fault => exact ⟨nofun, nofun⟩
  | ok written =>
    constructor
    · intro wrote
      cases wrote
      rfl
    · intro wrote
      cases wrote
      rfl

theorem writeUnit_eq_ok_iff {unit : SourceUnit} {path : String} (own : Spelled [] unit.name)
    (reached : tree.follow [] (Path.components outDir) = .ok directory)
    (opened : tree.node? directory = some .directory) :
    (writeUnit outDir language unit : TreeRun String).run tree = (.ok path, after) ↔
      tree.Accepts outDir directory (unit.fileName language) ∧
        path = Path.join outDir (unit.fileName language) ∧
        after = tree.putUnits directory language [unit] := by
  have wrote := FileTree.write_eq_ok_iff (fileName_isName language own) reached opened
    unit.source.toUTF8
  unfold writeUnit
  simp only [run_bind_eq_ok_iff, attempt_eq_ok_iff, filesWrite_eq_ok_iff, wrote]
  constructor
  · rintro ⟨_, _, ⟨accepts, rfl⟩, last⟩
    cases last
    exact ⟨accepts, rfl, rfl⟩
  · rintro ⟨accepts, rfl, rfl⟩
    exact ⟨(), _, ⟨accepts, rfl⟩, rfl⟩

/-- Units are written exactly when the directory takes all their files. -/
theorem mapM_writeUnit_eq_ok_iff (named : ∀ unit ∈ units, Spelled [] unit.name)
    (reached : tree.follow [] (Path.components outDir) = .ok directory)
    (opened : tree.node? directory = some .directory) :
    (units.mapM (writeUnit outDir language) : TreeRun (List String)).run tree = (.ok paths, after) ↔
      (∀ unit ∈ units, tree.Accepts outDir directory (unit.fileName language)) ∧
        paths = units.map (fun unit => Path.join outDir (unit.fileName language)) ∧
        after = tree.putUnits directory language units := by
  induction units generalizing tree paths with
  | nil =>
    constructor
    · intro ran
      cases ran
      exact ⟨by simp, rfl, rfl⟩
    · rintro ⟨_, rfl, rfl⟩
      rfl
  | cons unit rest ih =>
    obtain ⟨own, namedLater⟩ := List.forall_mem_cons.mp named
    simp only [List.mapM_cons, run_bind_eq_ok_iff, writeUnit_eq_ok_iff own reached opened]
    -- The directory is the same after the first unit, and so is what it takes.
    have later : tree.Accepts outDir directory (unit.fileName language) → ∀ others,
        (rest.mapM (writeUnit outDir language) : TreeRun (List String)).run
            (tree.putUnits directory language [unit]) = (.ok others, after) ↔
          (∀ unit ∈ rest, tree.Accepts outDir directory (unit.fileName language)) ∧
            others = rest.map (fun unit => Path.join outDir (unit.fileName language)) ∧
            after = tree.putUnits directory language (unit :: rest) := by
      intro accepts others
      have alone : ∀ other ∈ [unit], tree.Accepts outDir directory (other.fileName language) :=
        List.forall_mem_singleton.mpr accepts
      have kept := FileTree.keepsDirectories_putUnits alone
      rw [ih namedLater (FileTree.follow_of_keepsDirectories kept reached) (kept _ opened)]
      simp only [FileTree.accepts_putUnits_iff alone]
      rfl
    constructor
    · rintro ⟨_, _, ⟨accepts, rfl, rfl⟩, others, final, ran, last⟩
      cases last
      obtain ⟨acceptsLater, rfl, rfl⟩ := (later accepts others).mp ran
      exact ⟨List.forall_mem_cons.mpr ⟨accepts, acceptsLater⟩, rfl, rfl⟩
    · rintro ⟨accepts, rfl, rfl⟩
      obtain ⟨acceptsFirst, acceptsLater⟩ := List.forall_mem_cons.mp accepts
      exact ⟨_, _, ⟨acceptsFirst, rfl, rfl⟩, _, _, (later acceptsFirst _).mpr
        ⟨acceptsLater, rfl, rfl⟩, rfl⟩

theorem writeUnits_eq_ok_iff (named : ∀ unit ∈ units, Spelled [] unit.name) :
    (writeUnits units outDir language : TreeRun (List String)).run tree = (.ok paths, after) ↔
      ∃ grown directory, tree.createDirectories outDir = (.ok (), grown) ∧
        grown.follow [] (Path.components outDir) = .ok directory ∧
        grown.node? directory = some .directory ∧
        (∀ unit ∈ units, grown.Accepts outDir directory (unit.fileName language)) ∧
        paths = units.map (fun unit => Path.join outDir (unit.fileName language)) ∧
        after = grown.putUnits directory language units := by
  unfold writeUnits
  simp only [run_bind_eq_ok_iff, attempt_eq_ok_iff]
  constructor
  · rintro ⟨_, grown, made, ran⟩
    obtain ⟨directory, reached, opened⟩ :=
      FileTree.find_eq_ok_iff.mp (FileTree.createDirectories_found made).2
    exact ⟨grown, directory, made, reached, opened,
      (mapM_writeUnit_eq_ok_iff named reached opened).mp ran⟩
  · rintro ⟨grown, directory, made, reached, opened, written⟩
    exact ⟨(), grown, made, (mapM_writeUnit_eq_ok_iff named reached opened).mpr written⟩

/-- Units written a second time are written to the same paths, and nothing changes. -/
theorem writeUnits_again (named : ∀ unit ∈ units, Spelled [] unit.name)
    (wrote : (writeUnits units outDir language : TreeRun (List String)).run tree
      = (.ok paths, after)) :
    (writeUnits units outDir language : TreeRun (List String)).run after = (.ok paths, after) := by
  obtain ⟨grown, directory, made, reached, opened, accepts, rfl, rfl⟩ :=
    (writeUnits_eq_ok_iff named).mp wrote
  have kept := FileTree.keepsDirectories_putUnits accepts
  have reachedAgain := FileTree.follow_of_keepsDirectories kept reached
  have openedAgain := kept _ opened
  have madeAgain := FileTree.createDirectories_again (FileTree.createDirectories_found made).1
    (FileTree.find_eq_ok_iff.mpr ⟨directory, reachedAgain, openedAgain⟩)
  refine (writeUnits_eq_ok_iff named).mpr
    ⟨_, directory, madeAgain, reachedAgain, openedAgain, ?_, rfl, ?_⟩
  · intro unit member
    exact (FileTree.accepts_putUnits_iff accepts).mpr (accepts unit member)
  · rw [FileTree.putUnits_putUnits]

/-- A written path leads to the file of a unit. -/
theorem written_denotes (named : ∀ unit ∈ units, Spelled [] unit.name)
    (wrote : (writeUnits units outDir language : TreeRun (List String)).run tree
      = (.ok paths, after)) :
    ∀ written ∈ paths, ∃ (unit : SourceUnit) (directory : Location) (text : ByteArray),
      after.Denotes written (directory ++ [unit.fileName language]) ∧
      after.node? (directory ++ [unit.fileName language]) = some (.file text) := by
  obtain ⟨grown, directory, _, reached, opened, accepts, rfl, rfl⟩ :=
    (writeUnits_eq_ok_iff named).mp wrote
  intro written member
  obtain ⟨unit, listed, rfl⟩ := List.mem_map.mp member
  have own := fileName_isName language (named unit listed)
  have kept := FileTree.keepsDirectories_putUnits accepts
  obtain ⟨text, placed⟩ : ∃ text,
      unitFile? directory language units (directory ++ [unit.fileName language])
        = some (.file text) := unitFile?_of_mem listed
  refine ⟨unit, directory, text, ?_, by rw [FileTree.node?_putUnits, placed]; rfl⟩
  rw [FileTree.Denotes, Path.lookupSteps_join outDir own, FileTree.follow_append,
    FileTree.follow_of_keepsDirectories kept reached]
  exact FileTree.follow_one_eq_ok_iff.mpr
    ⟨kept _ opened, (accepts unit listed).short, FileTree.enter_down ⟨own.notHere, own.notUp⟩⟩

end Writing

section Generating
variable {path outDir : String} {settings : Settings} {start after : FileTree}
  {paths : List String}

theorem generateFromFile_eq_ok_iff :
    (generateFromFile path outDir settings : TreeRun (List String)).run start = (.ok paths, after) ↔
      ∃ units, start.compileFile path settings = .ok units ∧
        (writeUnits units outDir settings.language : TreeRun (List String)).run start
          = (.ok paths, after) := by
  have stages : (generateFromFile path outDir settings : TreeRun (List String))
      = ((readDocumentFile path >>= fun document =>
          liftM (compileText document.1 document.2 settings)) >>= fun units =>
            writeUnits units outDir settings.language) := by
    rw [generateFromFile_eq, bind_assoc]
  rw [stages, run_bind_eq_ok_iff]
  constructor
  · rintro ⟨units, middle, ran, wrote⟩
    rw [CommandLine.compileDocument_run] at ran
    obtain ⟨compiled, rfl⟩ := Prod.mk.inj ran
    exact ⟨units, compiled, wrote⟩
  · rintro ⟨units, compiled, wrote⟩
    refine ⟨units, start, ?_, wrote⟩
    rw [CommandLine.compileDocument_run, compiled]

/-- A document never ends up under the name of a unit. -/
theorem ofPath_ok_ne_fileName {format : DocumentFormat}
    (announced : DocumentFormat.ofPath path = .ok format) {name : String}
    (last : Path.fileName? path = some name) (language : Language) (unit : SourceUnit) :
    name ≠ unit.fileName language := by
  rintro rfl
  simp [DocumentFormat.ofPath, ofPath?_of_fileName language last] at announced

/-- Units that are written leave a document where it is and as it reads. -/
theorem writeUnits_keeps_document {format : DocumentFormat} {language : Language}
    {units : List SourceUnit} {content : ByteArray}
    (announced : DocumentFormat.ofPath path = .ok format) (read : start.read path = .ok content)
    (named : ∀ unit ∈ units, Spelled [] unit.name)
    (wrote : (writeUnits units outDir language : TreeRun (List String)).run start
      = (.ok paths, after)) :
    ∃ parent name, Path.fileName? path = some name ∧ start.Denotes path (parent ++ [name]) ∧
      after.Denotes path (parent ++ [name]) ∧ after.read path = .ok content := by
  obtain ⟨parent, name, last, denotes, file⟩ := FileTree.denotes_of_read announced read
  obtain ⟨_, _, ran, confined, _⟩ := writeUnits_confined outDir language start named
  obtain ⟨rfl, rfl⟩ := Prod.mk.inj (wrote.symm.trans ran)
  have outside : ¬ after.Inside outDir (units.map fun unit => unit.fileName language)
      (parent ++ [name]) := by
    rintro ⟨directory, other, _, member, same⟩
    obtain ⟨unit, _, rfl⟩ := List.mem_map.mp member
    exact ofPath_ok_ne_fileName announced last language unit (List.append_singleton_inj.mp same).2
  have fileAfter := (confined.files _ outside content).mpr file
  have denotesAfter := FileTree.follow_of_keepsDirectories confined.directories denotes
  refine ⟨parent, name, last, denotes, denotesAfter, ?_⟩
  obtain ⟨valid, filled, _⟩ := FileTree.look_eq_ok_iff.mp (FileTree.read_eq_ok_iff_look.mp read)
  rw [FileTree.read_eq_ok_iff_look, FileTree.look_eq_ok_iff]
  exact ⟨valid, filled, _, denotesAfter, fileAfter⟩

/-- Where generating succeeds, each written path leads to a file beside the document, the document
reads as before, and generating once more succeeds with the same paths and changes nothing. -/
theorem generateFromFile_again
    (generated : (generateFromFile path outDir settings : TreeRun (List String)).run start
      = (.ok paths, after)) :
    (∃ source content, start.Denotes path source ∧ start.read path = .ok content ∧
      after.Denotes path source ∧ after.read path = .ok content ∧
      ∀ written ∈ paths, ∃ target text, after.Denotes written target ∧
        after.node? target = some (.file text) ∧ target ≠ source) ∧
    (generateFromFile path outDir settings : TreeRun (List String)).run after
      = (.ok paths, after) := by
  obtain ⟨units, compiled, wrote⟩ := generateFromFile_eq_ok_iff.mp generated
  have named := FileTree.spelled_of_compileFile compiled
  obtain ⟨format, content, text, announced, read, decoded, rendered⟩ :=
    FileTree.compileFile_eq_ok_iff.mp compiled
  obtain ⟨parent, name, last, denotes, denotesAfter, readAfter⟩ :=
    writeUnits_keeps_document announced read named wrote
  constructor
  · refine ⟨_, content, denotes, read, denotesAfter, readAfter, ?_⟩
    intro written member
    obtain ⟨unit, directory, text, leads, there⟩ := written_denotes named wrote written member
    refine ⟨_, text, leads, there, ?_⟩
    intro same
    have sameName := (List.append_singleton_inj.mp same).2
    exact ofPath_ok_ne_fileName announced last settings.language unit sameName.symm
  · have compiledAfter : after.compileFile path settings = .ok units :=
      FileTree.compileFile_eq_ok_iff.mpr
        ⟨format, content, text, announced, readAfter, decoded, rendered⟩
    exact generateFromFile_eq_ok_iff.mpr ⟨units, compiledAfter, writeUnits_again named wrote⟩

end Generating

/-- A document beside the file that it generates, and two schemas of one type name. -/
def kennels : FileTree := ⟨[
  (["api"], .directory),
  (["api", "pets.JSON"], .file ("\x7b\"definitions\": \x7b" ++
    "\"my_pet\": \x7b\"type\": \"object\"\x7d, \"my-pet\": \x7b\"type\": \"object\", " ++
    "\"properties\": \x7b\"age\": \x7b\"type\": \"integer\"\x7d\x7d\x7d\x7d\x7d").toUTF8),
  (["api", "MyPet.g.cs"], .file "old".toUTF8)]⟩

theorem generateFromFile_again_kennels :
    let generate : TreeRun (List String) := generateFromFile "api/pets.JSON" "api/new/../" {}
    let paths := ["api/new/../MyPet.g.cs", "api/new/../MyPet.g.cs"]
    let source := Text.unlines ["using System;", "", "namespace GeneratedClasses", "\x7b",
      "    public class MyPet", "    \x7b", "        public int Age \x7b get; set; \x7d",
      "    \x7d", "\x7d"]
    ∃ after, generate.run kennels = (.ok paths, after) ∧ generate.run after = (.ok paths, after) ∧
      after.read "api/pets.JSON" = kennels.read "api/pets.JSON" ∧
      after.read "api/MyPet.g.cs" = .ok source.toUTF8 := by
  intro generate paths source
  have run : (generate.run kennels).1 = .ok paths ∧
      (generate.run kennels).2.read "api/MyPet.g.cs" = .ok source.toUTF8 := by decide +kernel
  cases ran : generate.run kennels with
  | mk result after =>
    rw [ran] at run
    obtain ⟨rfl, written⟩ : result = .ok paths ∧ after.read "api/MyPet.g.cs" = _ := run
    obtain ⟨⟨_, _, _, read, _, readAfter, _⟩, again⟩ := generateFromFile_again ran
    exact ⟨after, rfl, again, readAfter.trans read.symm, written⟩

end SchemaDecls
