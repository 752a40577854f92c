import SchemaDecls.Proofs.Identifiers
import SchemaDecls.Proofs.TreeWrites

/-!
Writes stay in their directory, whatever a document says. The name of a unit holds nothing that
could lead elsewhere, so its file is one step behind the directory. Of the files outside, none
comes, goes or changes, also where the path of the directory has dots and where writing breaks off.
-/
namespace SchemaDecls

namespace Character

/-- Code points with the property White_Space. -/
def whiteSpace : List Nat :=
  [0x9, 0xA, 0xB, 0xC, 0xD, 0x20, 0x85, 0xA0, 0x1680, 0x2000, 0x2001, 0x2002, 0x2003, 0x2004,
    0x2005, 0x2006, 0x2007, 0x2008, 0x2009, 0x200A, 0x2028, 0x2029, 0x202F, 0x205F, 0x3000]

def isWhiteSpace (c : Char) : Bool := whiteSpace.contains c.toNat

/-- Whether a character is of the general category of control characters. -/
def isControl (c : Char) : Bool := c.toNat < 0x20 || (0x7F ≤ c.toNat && c.toNat < 0xA0)

/-- What could end a step of a path, cut a name short or hide in it. -/
def stray : List Nat :=
  whiteSpace ++ List.range 0x20 ++ (List.range 0x21).map (0x7F + ·)
    ++ ['/', '\\', '.'].map Char.toNat

theorem stray_not_alphanumeric :
    (stray.all fun n => !(covers alphabeticRuns n || covers numericRuns n)) = true := by
  decide +kernel

theorem upperExpansions_not_stray :
    (upperExpansions.all fun row => row.images.all fun n => !stray.contains (Char.ofNat n).toNat)
      = true := by
  decide +kernel

theorem not_stray_of_alphanumeric {c : Char} (alphanumeric : isAlphanumeric c = true) :
    c.toNat ∉ stray := by
  intro member
  have apart := List.all_eq_true.mp stray_not_alphanumeric c.toNat member
  rw [isAlphanumeric, isAlphabetic, isNumeric] at alphanumeric
  simp [alphanumeric] at apart

/-- The upper case of a letter or digit brings no stray character with it. -/
theorem toUpper_not_stray {c : Char} (alphanumeric : isAlphanumeric c = true) :
    ∀ d ∈ toUpper c, d.toNat ∉ stray := by
  intro d member
  unfold toUpper image at member
  split at member
  · next images expands =>
    obtain ⟨n, inside, rfl⟩ := List.mem_map.mp member
    have row := List.all_eq_true.mp upperExpansions_not_stray _ (expanded_eq_some expands)
    simpa using List.all_eq_true.mp row n inside
  · split at member
    · next target moved =>
      rw [List.mem_singleton] at member
      subst member
      exact not_stray_of_alphanumeric (toUpper_of_capital (capital_of_shifted moved)).1
    · rw [List.mem_singleton] at member
      exact member ▸ not_stray_of_alphanumeric alphanumeric

/-- Nothing in the text separates steps or parts of a path, is blank or controls anything. -/
def Harmless (text : String) : Prop :=
  ∀ c ∈ text.toList, c ∉ ['/', '\\', '.', '\x00'] ∧ isWhiteSpace c = false ∧ isControl c = false

theorem harmless_of_not_stray {text : String} (own : ∀ c ∈ text.toList, c.toNat ∉ stray) :
    Harmless text := by
  intro c member
  have apart := own c member
  simp only [stray, List.mem_append, not_or] at apart
  obtain ⟨⟨⟨blank, low⟩, middle⟩, marks⟩ := apart
  refine ⟨?_, ?_, ?_⟩
  · intro mark
    rw [List.mem_cons, List.mem_cons, List.mem_cons, List.mem_singleton] at mark
    rcases mark with rfl | rfl | rfl | rfl
    · exact marks (by decide)
    · exact marks (by decide)
    · exact marks (by decide)
    · exact low (by decide)
  · simpa [isWhiteSpace] using blank
  · have notLow : ¬ c.toNat < 0x20 := fun small => low (List.mem_range.mpr small)
    have notMiddle : 0x7F ≤ c.toNat → 0xA0 ≤ c.toNat := by
      intro lower
      by_contra upper
      refine middle (List.mem_map.mpr ⟨c.toNat - 0x7F, List.mem_range.mpr ?_, ?_⟩) <;> omega
    simpa [isControl, notLow] using notMiddle

end Character

theorem Name.pascal_harmless (text : String) : Character.Harmless (pascal text) := by
  apply Character.harmless_of_not_stray
  intro c member
  rw [pascal_eq_joined] at member
  obtain ⟨piece, inside, within⟩ := List.mem_flatMap.mp member
  have own : ∀ c ∈ piece, Character.isAlphanumeric c = true := fun c here =>
    alphanumeric_of_mem_pieces inside here
  cases piece with
  | nil => cases within
  | cons first rest =>
    rcases List.mem_append.mp within with capital | kept
    · exact Character.toUpper_not_stray (own first (by simp)) c capital
    · exact Character.not_stray_of_alphanumeric (own c (List.mem_cons_of_mem _ kept))

/-- The units of a document that compiles have names, and normalized ones. -/
theorem unit_names_of_compile {document : Document} {settings : Settings} {units : List SourceUnit}
    (compiled : document.compile settings = .ok units) :
    ∀ unit ∈ units, unit.name ≠ "" ∧ ∃ text, unit.name = Name.pascal text := by
  intro unit member
  obtain ⟨table, declarations, _, run, rfl⟩ :=
    (compile_eq_ok_iff document settings units).mp compiled
  have sound := (answers_ok_iff (tableDeclarations_answers table)).mp ⟨_, run⟩
  have declared := answers_holds (run ▸ tableDeclarations_answers table)
  obtain ⟨declaration, listed, rfl⟩ := List.mem_map.mp member
  obtain ⟨visit, walked, declares⟩ := visit_of_mem declared listed
  have named : (SourceUnit.ofDeclaration (document.moduleName settings) declaration
      settings.language).name = Name.pascal visit.name := declares.name
  rw [named]
  exact ⟨(walked_names_usable sound walked).1, visit.name, rfl⟩

namespace FileTree

def KeepsDirectories (before after : FileTree) : Prop :=
  ∀ location, before.node? location = some .directory → after.node? location = some .directory

theorem follow_of_keepsDirectories {before after : FileTree} (kept : KeepsDirectories before after)
    {location reached : Location} {steps : List String}
    (followed : before.follow location steps = .ok reached) :
    after.follow location steps = .ok reached := by
  induction steps generalizing location with
  | nil => exact followed
  | cons step rest ih =>
    rw [← List.singleton_append, follow_append, bind_eq_ok_iff] at followed ⊢
    obtain ⟨middle, first, later⟩ := followed
    obtain ⟨directory, short, entered⟩ := follow_one_eq_ok_iff.mp first
    exact ⟨middle, follow_one_eq_ok_iff.mpr ⟨kept _ directory, short, entered⟩, ih later⟩

/-- The location is that of a file with one of the names, directly inside the directory that a path
leads to. -/
def Inside (tree : FileTree) (outDir : String) (names : List String) (location : Location) : Prop :=
  ∃ directory name, tree.follow [] (Path.components outDir) = .ok directory ∧ name ∈ names ∧
    location = directory ++ [name]

/-- A change of a tree that leaves directories as they are, and all files but those inside. -/
structure Confined (outDir : String) (names : List String) (before after : FileTree) : Prop where
  directories : KeepsDirectories before after
  files : ∀ location, ¬ after.Inside outDir names location → ∀ content,
    after.node? location = some (.file content) ↔ before.node? location = some (.file content)

section Confined
variable {outDir : String} {names : List String} {before middle after : FileTree}

theorem confined_refl (tree : FileTree) : Confined outDir names tree tree :=
  ⟨fun _ directory => directory, fun _ _ _ => Iff.rfl⟩

theorem confined_trans (one : Confined outDir names before middle)
    (other : Confined outDir names middle after) : Confined outDir names before after where
  directories location directory := other.directories location (one.directories location directory)
  files location outside content := by
    -- No directory is lost, so what is inside already in the middle is still inside at the end.
    have outsideFirst : ¬ middle.Inside outDir names location := by
      rintro ⟨directory, name, followed, member, rfl⟩
      exact outside ⟨directory, name, follow_of_keepsDirectories other.directories followed, member,
        rfl⟩
    rw [other.files location outside content, one.files location outsideFirst content]

theorem confined_put_directory {location : Location} (free : before.node? location = none) :
    Confined outDir names before (before.put location .directory) := by
  have below : location ≠ [] := by
    rintro rfl
    simp [node?_root] at free
  have nodes := fun other => node?_put before location other .directory below
  constructor
  · intro other directory
    rw [nodes]
    split
    · rfl
    · exact directory
  · intro other _ content
    rw [nodes]
    split
    · next same => simp [← same, free]
    · rfl

end Confined

section MakeDirectories
variable {outDir : String} {names : List String} {tree grown : FileTree}

theorem ensureDirectory_confined {steps : List String}
    (made : tree.ensureDirectory steps = .ok grown) : Confined outDir names tree grown := by
  unfold ensureDirectory at made
  cases attempt : tree.makeDirectory steps with
  | ok fresh =>
    rw [attempt] at made
    cases made
    unfold makeDirectory at attempt
    obtain ⟨location, _, placed⟩ := bind_eq_ok_iff.mp attempt
    split at placed
    · cases placed
    · next free =>
      cases placed
      exact confined_put_directory free
  | error fault =>
    rw [attempt] at made
    cases fault with
    | «exists» =>
      simp only at made
      split at made
      · cases made
        exact confined_refl tree
      · cases made
    | _ => cases made

/-- What has been made when a later step fails changes no file either. -/
theorem ensureDirectories_confined (paths : List (List String)) :
    Confined outDir names tree (tree.ensureDirectories paths).2 := by
  induction paths generalizing tree with
  | nil => exact confined_refl tree
  | cons steps above ih =>
    unfold ensureDirectories
    split
    · next complete made => exact ensureDirectory_confined made
    -- Where the step cannot be made, those above come first and the step is tried again.
    · split
      · next middle made =>
        have first : Confined outDir names tree (tree.ensureDirectories above).2 := ih
        rw [made] at first
        split
        · next complete last => exact confined_trans first (ensureDirectory_confined last)
        · exact first
      · exact ih
    · exact confined_refl tree

theorem createDirectories_confined (path : String) :
    Confined outDir names tree (tree.createDirectories path).2 := by
  unfold createDirectories
  split
  · exact ensureDirectories_confined _
  · exact confined_refl tree

end MakeDirectories

/-- A file that is put into a directory stands directly inside it. -/
theorem write_confined {tree written : FileTree} {outDir name : String} {names : List String}
    {content : ByteArray} (own : Path.IsName name) (member : name ∈ names)
    (wrote : tree.write (Path.join outDir name) content = .ok written) :
    Confined outDir names tree written := by
  obtain ⟨_, _, rest⟩ := bind_eq_ok_iff.mp wrote
  obtain ⟨location, followed, placed⟩ := bind_eq_ok_iff.mp rest
  rw [Path.components_join outDir own, follow_append, bind_eq_ok_iff] at followed
  obtain ⟨directory, reached, last⟩ := followed
  obtain ⟨opened, _, rfl⟩ := follow_one_eq_ok_iff.mp last
  -- The name is neither of the dots, so the last step goes down.
  rw [enter_down ⟨own.notHere, own.notUp⟩] at placed
  split at placed
  · cases placed
  · next free =>
    cases placed
    have nodes := fun other => node?_put tree (directory ++ [name]) other (.file content) (by simp)
    have kept : KeepsDirectories tree (tree.put (directory ++ [name]) (.file content)) := by
      intro other found
      have apart : directory ++ [name] ≠ other := by
        rintro rfl
        exact free found
      rw [nodes, if_neg apart, found]
    refine ⟨kept, fun other outside written => ?_⟩
    have apart : directory ++ [name] ≠ other := by
      rintro rfl
      exact outside ⟨directory, name, follow_of_keepsDirectories kept reached, member, rfl⟩
    rw [nodes, if_neg apart]

end FileTree

section Units
variable (outDir : String) (language : Language) {units : List SourceUnit} (tree : FileTree)

theorem writeUnit_confined {unit : SourceUnit} {names : List String} (own : Spelled [] unit.name)
    (member : unit.fileName language ∈ names) :
    ∃ result after, (writeUnit outDir language unit : TreeRun String).run tree = (result, after) ∧
      FileTree.Confined outDir names tree after ∧
      ∀ path, result = .ok path → path = Path.join outDir (unit.fileName language) := by
  cases wrote : tree.write (Path.join outDir (unit.fileName language)) unit.source.toUTF8 with
  | error fault =>
    refine ⟨.error (.file fault), tree, ?_, FileTree.confined_refl tree, nofun⟩
    unfold writeUnit
    apply run_bind_error
    rw [attempt_run]
    simp only [Files.write, wrote]
    rfl
  | ok written =>
    have ran : (Files.attempt (Files.write (Path.join outDir (unit.fileName language))
        unit.source.toUTF8 : StateM FileTree _)).run tree = (.ok (), written) := by
      rw [attempt_run]
      simp only [Files.write, wrote]
      rfl
    refine ⟨.ok (Path.join outDir (unit.fileName language)), written, ?_,
      FileTree.write_confined (fileName_isName language own) member wrote, ?_⟩
    · exact (run_bind_ok ran _).trans rfl
    · intro path same
      exact (Except.ok.inj same).symm

theorem mapM_writeUnit_confined {names : List String}
    (named : ∀ unit ∈ units, Spelled [] unit.name)
    (listed : ∀ unit ∈ units, unit.fileName language ∈ names) :
    ∃ result after, (units.mapM (writeUnit outDir language) : TreeRun (List String)).run tree
        = (result, after) ∧
      FileTree.Confined outDir names tree after ∧
      ∀ paths, result = .ok paths →
        paths = units.map fun unit => Path.join outDir (unit.fileName language) := by
  induction units generalizing tree with
  | nil => exact ⟨.ok [], tree, rfl, FileTree.confined_refl tree, by simp⟩
  | cons unit rest ih =>
    obtain ⟨own, namedLater⟩ := List.forall_mem_cons.mp named
    obtain ⟨member, listedLater⟩ := List.forall_mem_cons.mp listed
    obtain ⟨first, middle, ran, confined, told⟩ :=
      writeUnit_confined outDir language tree own member
    rw [List.mapM_cons]
    cases first with
    | error failure => exact ⟨.error failure, middle, run_bind_error ran _, confined, nofun⟩
    | ok path =>
      obtain ⟨later, after, ranLater, confinedLater, toldLater⟩ := ih middle namedLater listedLater
      refine ⟨later.map (path :: ·), after, ?_, FileTree.confined_trans confined confinedLater, ?_⟩
      · rw [run_bind_ok ran]
        cases later with
        | error failure => exact run_bind_error ranLater _
        | ok paths => exact run_bind_ok ranLater _
      · intro paths same
        obtain ⟨others, rfl, rfl⟩ := map_eq_ok_iff.mp same
        rw [told path rfl, toldLater others rfl, List.map_cons]

/-- Writing units changes no file outside their directory, however it ends. -/
theorem writeUnits_confined (named : ∀ unit ∈ units, Spelled [] unit.name) :
    ∃ result after, (writeUnits units outDir language : TreeRun (List String)).run tree
        = (result, after) ∧
      FileTree.Confined outDir (units.map fun unit => unit.fileName language) tree after ∧
      ∀ paths, result = .ok paths →
        paths = units.map fun unit => Path.join outDir (unit.fileName language) := by
  let names := units.map fun unit => unit.fileName language
  have made : FileTree.Confined outDir names tree (tree.createDirectories outDir).2 :=
    FileTree.createDirectories_confined outDir
  have asked : (Files.attempt (Files.createDirectories outDir : StateM FileTree _)).run tree
      = ((tree.createDirectories outDir).1.mapError Failure.file,
        (tree.createDirectories outDir).2) := attempt_run _
  generalize tree.createDirectories outDir = created at made asked
  obtain ⟨answer, grown⟩ := created
  cases answer with
  | error fault => exact ⟨.error (.file fault), grown, run_bind_error asked _, made, nofun⟩
  | ok done =>
    obtain ⟨result, after, ran, confined, told⟩ := mapM_writeUnit_confined outDir language
      grown named fun unit member => List.mem_map_of_mem member
    refine ⟨result, after, ?_, FileTree.confined_trans made confined, told⟩
    exact (run_bind_ok asked _).trans ran

end Units

/-- Whatever a document says, its units have names, and no name holds a slash, a backslash, a dot, a
zero, white space or a control character. So each written path is that of the directory with one
more step, and of the files elsewhere none is made or changed. -/
theorem writes_stay_inside {text : String} {format : DocumentFormat} {settings : Settings}
    {units : List SourceUnit} (compiled : compileText text format settings = .ok units)
    (outDir : String) (tree : FileTree) :
    let fileOf := fun unit : SourceUnit =>
      unit.name ++ ".g." ++ settings.language.fileExtension
    (∀ unit ∈ units, unit.name ≠ "" ∧ Character.Harmless unit.name) ∧
    ∃ result after,
      (writeUnits units outDir settings.language : TreeRun (List String)).run tree
        = (result, after) ∧
      (∀ paths, result = .ok paths → List.Forall₂ (fun unit path =>
        path = Path.join outDir (fileOf unit) ∧
          Path.components path = Path.components outDir ++ [fileOf unit]) units paths) ∧
      ∀ location, ¬ after.Inside outDir (units.map fileOf) location → ∀ content,
        after.node? location = some (.file content) ↔
          tree.node? location = some (.file content) := by
  intro fileOf
  obtain ⟨document, _, rendered⟩ := bind_eq_ok_iff.mp compiled
  have names := unit_names_of_compile (mapError_eq_ok_iff.mp rendered)
  have named : ∀ unit ∈ units, Spelled [] unit.name := by
    intro unit member
    obtain ⟨_, name, same⟩ := names unit member
    exact same ▸ Name.pascal_spelled name
  obtain ⟨result, after, ran, confined, told⟩ :=
    writeUnits_confined outDir settings.language tree named
  refine ⟨?_, result, after, ran, ?_, confined.files⟩
  · intro unit member
    obtain ⟨filled, name, same⟩ := names unit member
    exact ⟨filled, same ▸ Name.pascal_harmless name⟩
  · intro paths wrote
    rw [told paths wrote, List.forall₂_map_right_iff, List.forall₂_same]
    intro unit member
    exact ⟨rfl, Path.components_join outDir (fileName_isName settings.language (named unit member))⟩

/-- Keys and a title that spell paths. -/
def intruderText : String :=
  "\x7b\"definitions\": \x7b\"../../etc/passwd\": \x7b\"type\": \"object\", \"properties\": " ++
  "\x7b\"/\\u0000x\": \x7b\"type\": \"array\", \"items\": \x7b\"type\": \"object\", " ++
  "\"title\": \"..\\\\vault.key\"\x7d\x7d\x7d\x7d\x7d\x7d"

def vault : FileTree := ⟨[(["vault.key"], .file "secret".toUTF8), (["gen"], .directory)]⟩

theorem writes_stay_inside_vault :
    ∃ units, compileText intruderText .json {} = .ok units ∧
      units.map SourceUnit.name = ["VaultKey", "EtcPasswd"] ∧
      ∃ after, (writeUnits units "gen/../gen/" .csharp : TreeRun (List String)).run vault
          = (.ok ["gen/../gen/VaultKey.g.cs", "gen/../gen/EtcPasswd.g.cs"], after) ∧
        after.node? ["vault.key"] = some (.file "secret".toUTF8) := by
  have compiles : (compileText intruderText .json {}).map (fun units => (units.map SourceUnit.name,
        ((writeUnits units "gen/../gen/" .csharp : TreeRun (List String)).run vault).1))
      = .ok (["VaultKey", "EtcPasswd"],
          .ok ["gen/../gen/VaultKey.g.cs", "gen/../gen/EtcPasswd.g.cs"]) := by
    decide +kernel
  obtain ⟨units, compiled, both⟩ := map_eq_ok_iff.mp compiles
  obtain ⟨named, wrote⟩ := Prod.mk.inj both
  obtain ⟨_, result, after, ran, _, kept⟩ := writes_stay_inside compiled "gen/../gen/" vault
  rw [ran] at wrote
  refine ⟨units, compiled, named, after, wrote ▸ ran, (kept ["vault.key"] ?_ _).mpr rfl⟩
  rintro ⟨directory, name, _, member, same⟩
  obtain ⟨_, rfl⟩ := List.append_singleton_inj.mp (show [] ++ ["vault.key"] = _ from same)
  have files : ∀ name ∈ units.map SourceUnit.name, name ++ ".g." ++ "cs" ≠ "vault.key" := by
    rw [named]
    decide
  obtain ⟨unit, listed, spelled⟩ := List.mem_map.mp member
  exact files unit.name (List.mem_map_of_mem listed) spelled

end SchemaDecls
