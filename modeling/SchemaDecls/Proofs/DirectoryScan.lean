import Mathlib.Data.List.Nodup
import SchemaDecls.Proofs.PrintedRun
import SchemaDecls.Proofs.TreeLocations

/-!
From the inputs of a run to its documents. Each input is looked at by itself: a directory gives way to
the documents directly inside it, in the order of their paths, and anything else stays. No document
of a directory is a directory, so what is found stands for itself, and a run on it is the run on the
inputs.
-/
namespace SchemaDecls

namespace Path

/-- The order of paths: the first step that differs decides. -/
def Before (first second : String) : Prop := components first < components second

theorem before_join {first second : String} (path : String) (one : IsName first)
    (other : IsName second) (less : first < second) :
    Before (join path first) (join path second) := by
  unfold Before
  rw [components_join path one, components_join path other]
  exact List.append_left_lt (List.cons_lt_cons_iff.mpr (.inl less))

theorem not_before_self (path : String) : ¬ Before path path := List.lt_irrefl _

theorem fileName?_join (path : String) {name : String} (own : IsName name) :
    fileName? (join path name) = some name := by
  unfold fileName? steps
  rw [components_join path own, List.filter_append]
  simp [own.notHere, own.notUp]

end Path

namespace DocumentFormat

/-- The format of a document is announced by its name, wherever it stands. -/
theorem ofPath?_join (path : String) {name : String} (own : Path.IsName name) :
    ofPath? (Path.join path name) = ofPath? name := by
  have alone : Path.fileName? name = some name := by
    unfold Path.fileName? Path.steps
    rw [Path.components_name own]
    simp [own.notHere, own.notUp]
  unfold ofPath? Path.extension?
  rw [Path.fileName?_join path own, alone]

end DocumentFormat

namespace CommandLine

theorem names_ascend {names : List String} (distinct : names.Nodup) :
    (names.mergeSort fun a b => decide (a ≤ b)).Pairwise (· < ·) := by
  have sorted : (names.mergeSort fun a b => decide (a ≤ b)).Pairwise fun a b =>
      decide (a ≤ b) = true := by
    apply List.pairwise_mergeSort
    · intro a b c first second
      rw [decide_eq_true_eq] at first second ⊢
      exact String.le_trans first second
    · intro a b
      rw [Bool.or_eq_true, decide_eq_true_eq, decide_eq_true_eq]
      exact String.le_total a b
  have apart : (names.mergeSort fun a b => decide (a ≤ b)).Nodup :=
    (List.mergeSort_perm _ _).nodup_iff.mpr distinct
  refine (sorted.and apart).imp ?_
  rintro a b ⟨below, different⟩
  exact Std.lt_of_le_of_ne (of_decide_eq_true below) different

theorem documentsAmong_ascend {names : List String} (distinct : names.Nodup)
    (own : ∀ name ∈ names, Path.IsName name) (directory : String) :
    (documentsAmong names directory).Pairwise Path.Before := by
  unfold documentsAmong
  apply List.Pairwise.filter
  rw [List.pairwise_map]
  refine (names_ascend distinct).imp_of_mem ?_
  intro first second one other less
  exact Path.before_join directory (own first (List.mem_mergeSort.mp one))
    (own second (List.mem_mergeSort.mp other)) less

end CommandLine

namespace FileTree

/-- A tree within the limits of a file system: everything stands in a directory and nothing twice,
and no name is too long or holds a NUL. -/
structure Storable (tree : FileTree) : Prop where
  wellFormed : tree.WellFormed
  distinct : tree.nodes.keys.Nodup
  short : ∀ entry ∈ tree.nodes, Short entry.1
  readable : ∀ entry ∈ tree.nodes, ∀ name ∈ entry.1, '\x00' ∉ name.toList

section Directory
variable {tree : FileTree} {directory name : String} {location : Location}

/-- Where a slash at its end leads is where the path leads without it. -/
theorem follow_components (denotes : tree.Denotes directory location) :
    tree.follow [] (Path.components directory) = .ok location := by
  unfold Denotes Path.lookupSteps at denotes
  split at denotes
  · rw [follow_append, bind_eq_ok_iff] at denotes
    obtain ⟨reached, followed, last⟩ := denotes
    obtain ⟨_, _, rfl⟩ := follow_one_eq_ok_iff.mp last
    rw [Location.enter, if_pos rfl, followed]
  · rwa [List.append_nil] at denotes

/-- A name behind the path of a directory is looked up in the directory, if the path that it makes is
not too long. -/
theorem look_join_iff (valid : checkPath directory = .ok ())
    (denotes : tree.Denotes directory location) (opened : tree.node? location = some .directory)
    (own : Path.IsName name) (short : name.utf8ByteSize ≤ nameLimit)
    (readable : '\x00' ∉ name.toList) {node : FileNode} :
    tree.look (Path.join directory name) = .ok node ↔
      tree.node? (location ++ [name]) = some node ∧
        (Path.join directory name).utf8ByteSize ≤ pathLimit := by
  have filled : Path.join directory name ≠ "" := by
    intro empty
    have steps := Path.components_join directory own
    rw [empty] at steps
    simp [Path.components, Text.segments] at steps
  have steps : tree.follow [] (Path.lookupSteps (Path.join directory name))
      = .ok (location ++ [name]) := by
    rw [Path.lookupSteps_join directory own, follow_append, follow_components denotes]
    exact follow_one_eq_ok_iff.mpr ⟨opened, short, enter_down ⟨own.notHere, own.notUp⟩⟩
  have spelled : '\x00' ∉ (Path.join directory name).toList := by
    intro inside
    rcases Path.mem_join inside with inDirectory | slash | inName
    · exact (checkPath_eq_ok_iff.mp valid).1 inDirectory
    · cases slash
    · exact readable inName
  rw [look_eq_ok_iff, checkPath_eq_ok_iff, steps]
  constructor
  · rintro ⟨⟨_, fits⟩, _, _, same, found⟩
    cases same
    exact ⟨found, fits⟩
  · rintro ⟨found, fits⟩
    exact ⟨⟨spelled, fits⟩, filled, _, rfl, found⟩

theorem namesIn_nodup (distinct : tree.nodes.keys.Nodup) : (tree.namesIn location).Nodup := by
  have named : tree.namesIn location = tree.nodes.keys.filterMap location.nameBelow? := by
    rw [namesIn, Members.keys, List.filterMap_map]
    rfl
  rw [named]
  refine distinct.filterMap ?_
  intro one other name first second
  rw [nameBelow?_eq_some_iff.mp first, nameBelow?_eq_some_iff.mp second]

/-- `documents` are the documents that stand directly in the directory at `location`, as paths
through `directory`: in the order of paths, and each once. A file is one of them if its extension
announces a format and its path is not too long to be looked up. -/
structure Scan (tree : FileTree) (directory : String) (location : Location)
    (documents : List String) : Prop where
  ascending : documents.Pairwise Path.Before
  distinct : documents.Nodup
  mem_iff : ∀ path, path ∈ documents ↔ ∃ name content, path = Path.join directory name ∧
    tree.node? (location ++ [name]) = some (.file content) ∧
    (∃ format, DocumentFormat.ofPath path = .ok format) ∧ path.utf8ByteSize ≤ pathLimit

/-- The names of the files in a directory that a path through it reaches. -/
theorem reached_name_iff (storable : tree.Storable) (valid : checkPath directory = .ok ())
    (denotes : tree.Denotes directory location) (opened : tree.node? location = some .directory) :
    (name ∈ tree.namesIn location ∧ tree.isFile (Path.join directory name) = true) ↔ ∃ content,
      tree.node? (location ++ [name]) = some (.file content) ∧
        (Path.join directory name).utf8ByteSize ≤ pathLimit := by
  have reached : ∀ node, (location ++ [name], node) ∈ tree.nodes →
      (tree.isFile (Path.join directory name) = true ↔ ∃ content,
        tree.node? (location ++ [name]) = some (.file content) ∧
          (Path.join directory name).utf8ByteSize ≤ pathLimit) := by
    intro node listed
    have last : name ∈ location ++ [name] := by simp
    have own := namesIn_isName storable.wellFormed (mem_namesIn_iff.mpr ⟨node, listed⟩)
    simp only [isFile_iff, look_join_iff valid denotes opened own
      (storable.short _ listed name last) (storable.readable _ listed name last)]
  constructor
  · rintro ⟨listed, file⟩
    obtain ⟨node, member⟩ := mem_namesIn_iff.mp listed
    exact (reached node member).mp file
  · rintro ⟨content, found, fits⟩
    have member := mem_of_node? found (by simp)
    exact ⟨mem_namesIn_iff.mpr ⟨_, member⟩, (reached _ member).mpr ⟨content, found, fits⟩⟩

theorem documentsFor_scan (storable : tree.Storable) (opened : tree.isDirectory directory = true) :
    ∃ location, tree.Denotes directory location ∧ tree.node? location = some .directory ∧
      Scan tree directory location (tree.documentsFor directory) := by
  obtain ⟨valid, _, location, denotes, inside⟩ := isDirectory_iff.mp opened
  have ascending : (tree.documentsFor directory).Pairwise Path.Before := by
    rw [documentsFor_directory opened denotes]
    refine CommandLine.documentsAmong_ascend ((namesIn_nodup storable.distinct).filter _) ?_ _
    exact fun name member => namesIn_isName storable.wellFormed (List.mem_of_mem_filter member)
  refine ⟨location, denotes, inside, ascending, ?_, ?_⟩
  · refine ascending.imp ?_
    rintro path _ less rfl
    exact Path.not_before_self path less
  · intro path
    rw [documentsFor_directory opened denotes, CommandLine.mem_documentsAmong_iff]
    simp only [List.mem_filter, reached_name_iff storable valid denotes inside]
    constructor
    · rintro ⟨name, ⟨content, found, fits⟩, rfl, announced⟩
      exact ⟨name, content, rfl, found, announced, fits⟩
    · rintro ⟨name, content, rfl, found, announced, fits⟩
      exact ⟨name, ⟨content, found, fits⟩, rfl, announced⟩

/-- What an input stands for stands for itself. -/
theorem documentsFor_again {input path : String} (listed : path ∈ tree.documentsFor input) :
    tree.documentsFor path = [path] := by
  apply documentsFor_other
  by_cases opened : tree.isDirectory input = true
  · obtain ⟨_, _, location, denotes, _⟩ := isDirectory_iff.mp opened
    rw [documentsFor_directory opened denotes] at listed
    obtain ⟨name, member, rfl, _⟩ := CommandLine.mem_documentsAmong_iff.mp listed
    exact isDirectory_of_isFile (List.mem_filter.mp member).2
  · have closed : tree.isDirectory input = false := by simpa using opened
    rw [documentsFor_other closed, List.mem_singleton] at listed
    rwa [listed]

end Directory

theorem documents_again (tree : FileTree) (inputs : List String) :
    (inputs.flatMap tree.documentsFor).flatMap tree.documentsFor
      = inputs.flatMap tree.documentsFor := by
  have each : ∀ path ∈ inputs.flatMap tree.documentsFor, tree.documentsFor path = [path] := by
    intro path member
    obtain ⟨input, _, listed⟩ := List.mem_flatMap.mp member
    exact documentsFor_again listed
  rw [List.flatMap_congr each, List.flatMap_singleton']

end FileTree

namespace CommandLine

/-- A run takes up the documents that its inputs stand for, and nothing else of the inputs. -/
theorem run_documents {tree : FileTree} {options : Options}
    (some_document : options.inputs.flatMap tree.documentsFor ≠ [])
    (input : StateM FileTree ByteArray) :
    (run input { options with inputs := options.inputs.flatMap tree.documentsFor }).run tree
      = (run input options).run tree := by
  have given : options.inputs ≠ [] := by
    intro none
    rw [none] at some_document
    exact some_document rfl
  have files : ∀ chosen : Options, chosen.inputs ≠ [] →
      (run input chosen).run tree = (reportFiles chosen : StateM FileTree Report).run tree := by
    intro chosen filled
    rw [run_eq, if_neg (by simpa using filled)]
  rw [files _ some_document, files options given, reportFiles_run, reportFiles_run,
    FileTree.documents_again]
  rfl

/-- The documents of a list of inputs are those of one input after the other: for a directory, the
documents in it that can be looked up, and for anything else the input itself. To look for documents
among documents finds the same ones, so a run may be given either. -/
theorem discover_scans_directories {tree : FileTree} (storable : tree.Storable) :
    ∃ documents : List String → List String,
      (∀ inputs, (discover inputs : TreeRun (List String)).run tree
        = (.ok (documents inputs), tree)) ∧
      (∀ first second, documents (first ++ second) = documents first ++ documents second) ∧
      (∀ directory, tree.isDirectory directory = true → ∃ location,
        tree.Denotes directory location ∧ tree.node? location = some .directory ∧
          tree.Scan directory location (documents [directory])) ∧
      (∀ input, tree.isDirectory input = false → documents [input] = [input]) ∧
      (∀ inputs, documents (documents inputs) = documents inputs) ∧
      (∀ (options : Options) (input : StateM FileTree ByteArray),
        documents options.inputs ≠ [] →
        (run input { options with inputs := documents options.inputs }).run tree
          = (run input options).run tree) := by
  have one : ∀ input, [input].flatMap tree.documentsFor = tree.documentsFor input :=
    fun input => List.flatMap_singleton _ input
  refine ⟨fun inputs => inputs.flatMap tree.documentsFor, discover_run tree, ?_, ?_, ?_,
    tree.documents_again, fun options input some_document => run_documents some_document input⟩
  · exact fun first second => List.flatMap_append
  · intro directory opened
    simp only [one]
    exact FileTree.documentsFor_scan storable opened
  · intro input closed
    simp only [one]
    exact FileTree.documentsFor_other closed

theorem library_storable : library.Storable where
  wellFormed := by
    intro entry member
    simp only [library, List.mem_cons, List.not_mem_nil, or_false] at member
    rcases member with rfl | rfl | rfl | rfl | rfl | rfl
    · exact ⟨[], "docs", rfl, by decide, rfl⟩
    · exact ⟨["docs"], "b.json", rfl, by decide, rfl⟩
    · exact ⟨["docs"], "a.JSON", rfl, by decide, rfl⟩
    · exact ⟨["docs"], "notes.txt", rfl, by decide, rfl⟩
    · exact ⟨[], "bare.json", rfl, by decide, rfl⟩
    · exact ⟨[], "shelf.json", rfl, by decide, rfl⟩
  distinct := by decide
  short := by decide
  readable := by decide

theorem discover_scans_directories_library :
    let inputs := ["bare.json", "docs", "gone.yaml", "shelf.json"]
    let documents := ["bare.json", "docs/a.JSON", "docs/b.json", "gone.yaml", "shelf.json"]
    library.Storable ∧ documents ≠ [] ∧
      (discover inputs : TreeRun (List String)).run library = (.ok documents, library) ∧
      (discover documents : TreeRun (List String)).run library = (.ok documents, library) ∧
      ∀ input : StateM FileTree ByteArray,
        (run input { inputs := documents, outDir := some "out" }).run library
          = (run input { inputs := inputs, outDir := some "out" }).run library := by
  intro inputs documents
  obtain ⟨found, discovered, _, _, _, again, alike⟩ := discover_scans_directories library_storable
  have listed : found inputs = documents := by
    have ran := discovered inputs
    rw [discover_run, library_documents] at ran
    exact (Except.ok.inj (congrArg Prod.fst ran)).symm
  have stays : found documents = documents := listed ▸ again inputs
  refine ⟨library_storable, by simp [documents], ?_, ?_, ?_⟩
  · rw [discovered, listed]
  · rw [discovered, stays]
  · intro input
    have same := alike { inputs := inputs, outDir := some "out" } input (by simp [listed, documents])
    simpa only [listed] using same

section Far

/-- The path of a directory at the root that 4092 octets spell. -/
def farShelf : String := Path.slashed "docs" 4088

theorem farShelf_size : farShelf.utf8ByteSize = 4092 := Path.size_slashed "docs" 4088

theorem farShelf_components : Path.components farShelf = ["docs"] := by
  rw [farShelf, Path.components_slashed]
  decide

theorem farShelf_valid : FileTree.checkPath farShelf = .ok () :=
  FileTree.checkPath_slashed (by decide) (by decide)

theorem farShelf_denotes : library.Denotes farShelf ["docs"] := by
  unfold FileTree.Denotes Path.lookupSteps
  rw [farShelf_components]
  split <;> rfl

theorem farShelf_opened : library.isDirectory farShelf = true := by
  refine FileTree.isDirectory_iff.mpr ⟨farShelf_valid, ?_, ["docs"], farShelf_denotes, rfl⟩
  intro empty
  have size := farShelf_size
  rw [empty] at size
  cases size

theorem library_names {name : String} {node : FileNode}
    (listed : (["docs"] ++ [name], node) ∈ library.nodes) : 6 ≤ name.utf8ByteSize := by
  simp only [library, List.mem_cons, List.not_mem_nil, or_false, Prod.mk.injEq] at listed
  simp at listed
  rcases listed with ⟨rfl, _⟩ | ⟨rfl, _⟩ | ⟨rfl, _⟩ <;> decide

theorem farShelf_documents : library.documentsFor farShelf = [] := by
  obtain ⟨location, same, _, scan⟩ := FileTree.documentsFor_scan library_storable farShelf_opened
  have here : ["docs"] = location := Except.ok.inj (farShelf_denotes.symm.trans same)
  rw [List.eq_nil_iff_forall_not_mem]
  intro path listed
  obtain ⟨name, content, rfl, file, _, fits⟩ := (scan.mem_iff path).mp listed
  rw [← here] at file
  have member := FileTree.mem_of_node? file (by simp)
  have own := FileTree.namesIn_isName library_storable.wellFormed
    (FileTree.mem_namesIn_iff.mpr ⟨_, member⟩)
  have long := Path.size_le_join farShelf own
  have last := library_names member
  rw [farShelf_size] at long
  have limit : FileTree.pathLimit = 4095 := rfl
  omega

/-- A document in a directory is left out where the path through the directory is too long. -/
theorem far_documents_left_out :
    library.Storable ∧ library.isDirectory farShelf = true ∧ library.Denotes farShelf ["docs"] ∧
      library.node? (["docs"] ++ ["b.json"])
        = some (.file "\x7b\"definitions\": \x7b\x7d\x7d".toUTF8) ∧
      DocumentFormat.ofPath? (Path.join farShelf "b.json") = some .json ∧
      (discover [farShelf] : TreeRun (List String)).run library = (.ok [], library) := by
  refine ⟨library_storable, farShelf_opened, farShelf_denotes, rfl, ?_, ?_⟩
  · rw [DocumentFormat.ofPath?_join farShelf (by decide)]
    decide
  · rw [discover_run, List.flatMap_singleton, farShelf_documents]

end Far

end CommandLine
end SchemaDecls
