import Triage.Proofs.Disk.Tree
import Triage.Proofs.Ordering
import Triage.Proofs.SourceTree
import Triage.Proofs.SourceTree.Naming

/-!
# The listing of source files is exact

Below a directory of a disk that is a tree, the source files can be listed, and the listing has
every file that the names below the directory lead to as a source file (`LeadsToSource`): one
with the last suffix of a source file, which is no declaration file, and none of whose names is
left out.  It has no other, has each of them once, and has them in strictly increasing order of
their names (`lists_files`).  What a textual subsystem selects from the listing are the files of
it whose path from the directory is selected by one of the globs, in the same order
(`source_files_are_listed_exactly`).
-/

namespace Triage

set_option autoImplicit false

namespace SourceTree

/-- Names below a root lead to a source file. -/
structure LeadsToSource (disk : Disk) (root : Place) (extensions exclude names : List String) :
    Prop where
  isFile : ∃ bytes, disk.nodeAt (root ++ names) = some (.file bytes)
  fits : ∃ name ∈ names.getLast?, ∃ extension ∈ extensions, Path.IsLastSuffix name extension
  /-- The file does not only declare. -/
  acts : ∀ name ∈ names.getLast?, ¬ declarationEnd.toList <:+ name.toList
  kept : ∀ entry ∈ exclude, ∀ name ∈ names, ¬ Path.Spells entry name

/-- A list has the source files below a root, each once, in the order of their names. -/
structure Lists (disk : Disk) (root : Place) (extensions exclude : List String)
    (files : List Place) : Prop where
  members : ∀ place, place ∈ files ↔
    ∃ names, place = root ++ names ∧ LeadsToSource disk root extensions exclude names
  once : files.Nodup
  increasing : files.Pairwise fun first second => first < second

/-- From a list of files, some are selected by a subsystem: those whose paths from the root one
of its globs selects, in the order of the list. -/
structure Selects {Number : Type} (subsystem : Subsystem Number) (root : Place)
    (files chosen : List Place) : Prop where
  inOrder : chosen.Sublist files
  members : ∀ names, root ++ names ∈ chosen ↔
    root ++ names ∈ files ∧ ∃ glob, .text glob ∈ subsystem.globs ∧
      Subsystem.globSelects (Text.slashed (Path.joined names)).toList glob.toList = true

/-- A listed place is told by the names that lead to it. -/
theorem Lists.leadsToSource_iff {disk : Disk} {root : Place} {extensions exclude : List String}
    {files : List Place} (lists : Lists disk root extensions exclude files) {names : List String} :
    root ++ names ∈ files ↔ LeadsToSource disk root extensions exclude names := by
  rw [lists.members]
  constructor
  · rintro ⟨others, same, leads⟩
    exact List.append_cancel_left same ▸ leads
  · intro leads
    exact ⟨names, rfl, leads⟩

section

variable {tree : SourceTree} {names : List String}

/-! ## Files of a tree -/

/-- Names are kept when no entry spells one of them. -/
theorem isExcluded_eq_false_iff (free : ∀ name ∈ names, '/' ∉ name.toList) :
    tree.isExcluded names = false ↔
      ∀ entry ∈ tree.exclude, ∀ name ∈ names, ¬ Path.Spells entry name := by
  have spelled {entry name : String} (member : name ∈ names) :
      String.ofList (Text.dropEndWhile (· = '/') entry.toList) = name ↔ Path.Spells entry name :=
    Path.stripped_eq_iff fun last => free name member (List.mem_of_getLast? last)
  rw [isExcluded, List.any_eq_false]
  refine forall₂_congr fun entry _ => ?_
  rw [List.contains_iff_mem]
  constructor
  · intro absent name member spells
    exact absent ((spelled member).2 spells ▸ member)
  · intro none member
    exact none _ member ((spelled member).1 rfl)

/-- The rules by which a file below the root belongs to a tree. -/
theorem isSource_append_iff (tree : SourceTree) (free : ∀ name ∈ names, '/' ∉ name.toList) :
    tree.isSource (tree.root ++ names) = true ↔
      (∃ name ∈ names.getLast?, ∃ extension ∈ tree.extensions,
        Path.IsLastSuffix name extension) ∧
      (∀ name ∈ names.getLast?, ¬ declarationEnd.toList <:+ name.toList) ∧
      ∀ entry ∈ tree.exclude, ∀ name ∈ names, ¬ Path.Spells entry name := by
  obtain rfl | ⟨directory, name, rfl⟩ := names.eq_nil_or_concat'
  · simp [isSource]
  · have inside : tree.root.isPrefixOf (tree.root ++ (directory ++ [name])) = true :=
      List.isPrefixOf_iff_prefix.2 (List.prefix_append _ _)
    have apart : tree.root ++ (directory ++ [name]) ≠ tree.root := by simp
    have below : tree.namesBelow (tree.root ++ (directory ++ [name])) = directory ++ [name] :=
      List.drop_left
    have last : (tree.root ++ (directory ++ [name])).getLast?.getD "" = name := by simp
    have ending : (directory ++ [name]).getLast? = some name := List.getLast?_concat
    have fits : tree.extensions.contains (Path.suffix name) = true ↔
        ∃ extension ∈ tree.extensions, Path.IsLastSuffix name extension := by
      simp [← Path.suffix_eq_iff]
    have acts : (!name.endsWith declarationEnd) = true ↔
        ¬ declarationEnd.toList <:+ name.toList := by
      rw [String.endsWith_eq_endsWith_toSlice, Bool.not_eq_true', ← Bool.not_eq_true,
        String.Slice.endsWith_string_iff]
      simp
    rw [isSource, hasExtension, below, last]
    simp only [Bool.and_eq_true, inside, apart, ne_eq, not_false_eq_true, decide_true, true_and,
      fits, acts, Bool.not_eq_true', isExcluded_eq_false_iff free, ending, Option.mem_some_iff,
      exists_eq_left', forall_eq', and_assoc]

theorem prefix_of_isSource {place : Place} (source : tree.isSource place = true) :
    tree.root <+: place := by
  simp only [isSource, Bool.and_eq_true] at source
  exact List.isPrefixOf_iff_prefix.1 source.1.1.1.1

/-! ## The listing -/

variable {disk : Disk}

/-- What is found below a directory when no listing has been made. -/
theorem files?_of_directory (tree : SourceTree) (standing : disk.IsTree)
    (fresh : tree.listing = none) (spared : tree.excludeFault = none)
    (stands : disk.nodeAt tree.root = some .directory) :
    tree.files? disk = .ok ((disk.filePlaces.filter tree.isSource).mergeSort Path.placeLe) := by
  obtain ⟨files, found⟩ : Decided (tree.files? disk) :=
    decided_files? spared (Disk.decided_isFile?_of_locate (standing.locate_ofPlace stands))
  rw [found, eq_files_of_files? found, SourceTree.files, fresh, Option.getD_none, scan, stands]

/-- The listing of a directory has the source files on the disk. -/
theorem mem_iff_of_files? (standing : disk.IsTree) (fresh : tree.listing = none)
    (spared : tree.excludeFault = none) (stands : disk.nodeAt tree.root = some .directory)
    {files : List Place} (found : tree.files? disk = .ok files) {place : Place} :
    place ∈ files ↔
      (∃ bytes, disk.nodeAt place = some (.file bytes)) ∧ tree.isSource place = true := by
  obtain rfl :=
    Except.ok.inj (found.symm.trans (files?_of_directory tree standing fresh spared stands))
  rw [List.mem_mergeSort, List.mem_filter, standing.mem_filePlaces_iff]

/-- **The listing of a directory is exact**: it has the source files, each once, in the order of
their names. -/
theorem lists_files (tree : SourceTree) (standing : disk.IsTree) (fresh : tree.listing = none)
    (spared : tree.excludeFault = none) (stands : disk.nodeAt tree.root = some .directory) :
    ∃ files, tree.files? disk = .ok files ∧
      Lists disk tree.root tree.extensions tree.exclude files := by
  have once : (disk.filePlaces.filter tree.isSource).Nodup :=
    standing.nodup_filePlaces.filter _
  have found := files?_of_directory tree standing fresh spared stands
  refine ⟨_, found, fun place => ?_, (List.mergeSort_perm _ _).nodup_iff.2 once,
    pairwise_lt_mergeSort (fun _ _ => Path.placeLe_iff) once⟩
  rw [mem_iff_of_files? standing fresh spared stands found]
  have source_iff {names : List String} {bytes : ByteArray}
      (isFile : disk.nodeAt (tree.root ++ names) = some (.file bytes)) :=
    isSource_append_iff tree fun name (member : name ∈ names) =>
      ((standing.isParsed_ofPlace isFile).names name (List.mem_append_right _ member)).2
  constructor
  · rintro ⟨⟨bytes, isFile⟩, source⟩
    obtain ⟨names, rfl⟩ := prefix_of_isSource source
    obtain ⟨fits, acts, kept⟩ := (source_iff isFile).1 source
    exact ⟨names, rfl, ⟨bytes, isFile⟩, fits, acts, kept⟩
  · rintro ⟨names, rfl, ⟨bytes, isFile⟩, fits, acts, kept⟩
    exact ⟨⟨bytes, isFile⟩, (source_iff isFile).2 ⟨fits, acts, kept⟩⟩

/-- **A textual subsystem selects from the listing** the files whose path one of its globs
selects, in the order of the listing. -/
theorem selects_filesFor {Number : Type} {subsystem : Subsystem Number} {files : List Place}
    {extensions exclude : List String} (textual : subsystem.Textual)
    (lists : Lists disk tree.root extensions exclude files)
    (found : tree.files? disk = .ok files) :
    Selects subsystem tree.root files (tree.filesFor disk subsystem) := by
  obtain rfl := eq_files_of_files? found
  refine ⟨List.filter_sublist, fun names => ?_⟩
  rw [filesFor, List.mem_filter]
  refine and_congr_right fun member => ?_
  have below : names ≠ [] := by
    rintro rfl
    obtain ⟨name, last, _⟩ := (lists.leadsToSource_iff.1 member).fits
    cases last
  rw [textual.matchesPath_iff, relative_append tree below]

end

/-! ## Trees over texts -/

/-- The tree at a place whose suffixes and names to leave out are texts. -/
def ofTexts (root : Place) (extensions exclude : List String) : SourceTree :=
  openAt root (textValues extensions) (.list (textValues exclude))

variable {root : Place} {extensions exclude : List String}

theorem extensions_ofTexts (given : extensions ≠ []) :
    (ofTexts root extensions exclude).extensions = extensions := by
  have some : (textValues extensions).isEmpty = false := by
    simpa [textValues] using given
  change suffixesOf (textValues extensions) = extensions
  rw [suffixesOf, some, if_neg Bool.false_ne_true, textValues, List.filterMap_map]
  exact List.filterMap_some

theorem exclude_ofTexts : (ofTexts root extensions exclude).exclude = exclude :=
  congrArg Prod.fst (excludedNames_textValues exclude)

theorem excludeFault_ofTexts : (ofTexts root extensions exclude).excludeFault = none :=
  excludeFault_openAt root _ exclude

end SourceTree

/-- **The source files below a directory are listed exactly**: each once, in the order of their
names, and no other file; and a textual subsystem selects from them, in this order, the files
whose path one of its globs selects. -/
theorem source_files_are_listed_exactly {Number : Type} {disk : Disk} (standing : disk.IsTree)
    {root : Place} (stands : disk.nodeAt root = some .directory) {extensions : List String}
    (given : extensions ≠ []) (exclude : List String) :
    ∃ files, (SourceTree.ofTexts root extensions exclude).files? disk = .ok files ∧
      SourceTree.Lists disk root extensions exclude files ∧
      ∀ subsystem : Subsystem Number, subsystem.Textual →
        (SourceTree.ofTexts root extensions exclude).checkFilesFor disk subsystem = .ok () ∧
        SourceTree.Selects subsystem root files
          ((SourceTree.ofTexts root extensions exclude).filesFor disk subsystem) := by
  obtain ⟨files, found, lists⟩ := SourceTree.lists_files
    (SourceTree.ofTexts root extensions exclude) standing rfl SourceTree.excludeFault_ofTexts stands
  rw [SourceTree.extensions_ofTexts given, SourceTree.exclude_ofTexts] at lists
  exact ⟨files, found, lists, fun subsystem textual =>
    ⟨textual.checkFilesFor ⟨files, found⟩, SourceTree.selects_filesFor textual lists found⟩⟩

/-- A project with a source file, a hidden declaration file and what was built from them. -/
def sourceDisk : Disk :=
  ⟨⟨[(["shop"], .directory), (["shop", "src"], .directory),
    (["shop", "src", "payments"], .directory),
    (["shop", "src", "payments", "pay.ts"], .file .empty),
    (["shop", "src", ".pay.d.ts"], .file .empty), (["shop", "dist"], .directory),
    (["shop", "dist", "pay.ts"], .file .empty)]⟩⟩

theorem sourceDisk_is_listed_without_its_build :
    sourceDisk.IsTree ∧ sourceDisk.nodeAt ["shop"] = some .directory ∧
      paymentSubsystem.Textual ∧
      ∃ files, (SourceTree.ofTexts ["shop"] [".ts"] ["dist/"]).files? sourceDisk = .ok files ∧
        files = [["shop", "src", "payments", "pay.ts"]] ∧
        (SourceTree.ofTexts ["shop"] [".ts"] ["dist/"]).filesFor sourceDisk paymentSubsystem =
          files := by
  have standing : sourceDisk.IsTree := by decide +kernel
  have stands : sourceDisk.nodeAt ["shop"] = some .directory := rfl
  obtain ⟨files, found, lists, selects⟩ :=
    @source_files_are_listed_exactly Nat sourceDisk standing ["shop"] stands [".ts"] (by decide)
      ["dist/"]
  have places : sourceDisk.filePlaces = [["shop", "src", "payments", "pay.ts"],
    ["shop", "src", ".pay.d.ts"], ["shop", "dist", "pay.ts"]] := rfl
  have only (place : Place) : place ∈ files ↔ place ∈ [["shop", "src", "payments", "pay.ts"]] := by
    rw [lists.members, List.mem_singleton]
    constructor
    · rintro ⟨names, rfl, leads⟩
      have among := standing.mem_filePlaces_iff.2 leads.isFile
      simp only [places, List.cons_append, List.nil_append, List.mem_cons, List.cons.injEq,
        true_and, List.not_mem_nil, or_false] at among
      rcases among with rfl | rfl | rfl
      · rfl
      · exact absurd (leads.acts ".pay.d.ts" rfl) (by decide)
      · exact absurd (leads.kept "dist/" (by decide) "dist" (by decide)) (by decide)
    · rintro rfl
      exact ⟨["src", "payments", "pay.ts"], rfl, ⟨_, rfl⟩, by decide, by decide, by decide⟩
  have single : files = [["shop", "src", "payments", "pay.ts"]] :=
    List.perm_singleton.1 ((List.perm_ext_iff_of_nodup lists.once (List.nodup_singleton _)).2 only)
  have chosen := (selects paymentSubsystem textual_paymentSubsystem).2
  have member := (chosen.members ["src", "payments", "pay.ts"]).2
    ⟨(only _).2 (List.mem_singleton.2 rfl), "**/payments/*", List.mem_singleton.2 rfl, by decide⟩
  refine ⟨standing, stands, textual_paymentSubsystem, files, found, single, ?_⟩
  rw [single] at chosen ⊢
  rcases List.sublist_singleton.1 chosen.inOrder with none | all
  · rw [none] at member
    cases member
  · exact all

end Triage
