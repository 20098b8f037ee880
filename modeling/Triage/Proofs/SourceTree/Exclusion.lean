import Triage.Proofs.SourceTree.Listing

/-!
# What leaves out a directory

Entries of the list of what is left out are compared with single names.  So an entry that spells
the path of a directory keeps the files of this directory from the listing if the path is a
single name, and otherwise makes no difference (`only_single_names_are_left_out`).  A directory
further down that is given by its path stays in the listing with its files
(`nested_directory_is_not_left_out`).
-/

namespace Triage

set_option autoImplicit false

namespace SourceTree

variable {tree : SourceTree} {disk : Disk}

/-- **An entry that spells no name makes no difference** to the listing of a directory. -/
theorem files?_filter_exclude (standing : disk.IsTree) (fresh : tree.listing = none)
    (spared : tree.excludeFault = none) (stands : disk.nodeAt tree.root = some .directory)
    {entry : String}
    (idle : ∀ name, Path.isName name = true ∧ '/' ∉ name.toList → ¬ Path.Spells entry name) :
    ({ tree with exclude := tree.exclude.filter (· ≠ entry) } : SourceTree).files? disk =
      tree.files? disk := by
  rw [files?_of_directory tree standing fresh spared stands]
  refine (files?_of_directory { tree with exclude := tree.exclude.filter (· ≠ entry) } standing
    fresh spared stands).trans ?_
  refine congrArg (fun places => Except.ok (List.mergeSort places Path.placeLe)) ?_
  refine List.filter_congr fun place member => ?_
  obtain ⟨bytes, isFile⟩ := standing.mem_filePlaces_iff.1 member
  have named : ∀ name ∈ tree.namesBelow place, Path.isName name = true ∧ '/' ∉ name.toList :=
    fun name inside => (standing.isParsed_ofPlace isFile).names name (List.mem_of_mem_drop inside)
  have free : ∀ name ∈ tree.namesBelow place, '/' ∉ name.toList :=
    fun name inside => (named name inside).2
  have same : ({ tree with exclude := tree.exclude.filter (· ≠ entry) } : SourceTree).isExcluded
      (tree.namesBelow place) = tree.isExcluded (tree.namesBelow place) := by
    rw [← Bool.not_inj_iff, Bool.eq_iff_iff, Bool.not_eq_true', Bool.not_eq_true',
      isExcluded_eq_false_iff free, isExcluded_eq_false_iff free]
    constructor
    · intro kept other among name inside
      by_cases itself : other = entry
      · exact itself ▸ idle name (named name inside)
      · exact kept other (List.mem_filter.2 ⟨among, decide_eq_true itself⟩) name inside
    · intro kept other among
      exact kept other (List.mem_filter.1 among).1
  exact congrArg (fun leftOut => _ && !leftOut) same

theorem ofTexts_filter_exclude (root : Place) (extensions exclude : List String)
    (entry : String) :
    ofTexts root extensions (exclude.filter (· ≠ entry)) =
      { ofTexts root extensions exclude with
        exclude := (ofTexts root extensions exclude).exclude.filter (· ≠ entry) } := by
  simp only [ofTexts, openAt, excludedNames_textValues]

end SourceTree

/-- **Only a single name leaves out a directory**: an entry that spells the path of a directory
keeps all its files from the listing when the path is a single name, and makes no difference
when it is not. -/
theorem only_single_names_are_left_out {disk : Disk} (standing : disk.IsTree) {root : Place}
    (stands : disk.nodeAt root = some .directory) (extensions : List String)
    {exclude : List String} {entry : String} (among : entry ∈ exclude) {directory : List String}
    (named : (Path.mk 0 directory).IsParsed)
    (spelled : Path.Spells entry (Path.joined directory)) :
    ∃ files, (SourceTree.ofTexts root extensions exclude).files? disk = .ok files ∧
      (directory.length = 1 → ∀ place ∈ files, ¬ root ++ directory <+: place) ∧
      (directory.length ≠ 1 →
        (SourceTree.ofTexts root extensions (exclude.filter (· ≠ entry))).files? disk =
          .ok files) := by
  obtain ⟨files, found, lists⟩ := SourceTree.lists_files
    (SourceTree.ofTexts root extensions exclude) standing rfl SourceTree.excludeFault_ofTexts stands
  refine ⟨files, found, ?_, ?_⟩
  · rintro single place listed ⟨names, rfl⟩
    obtain ⟨name, rfl⟩ := List.length_eq_one_iff.1 single
    have itself : Path.joined [name] = name := String.intercalate_singleton
    have leads := lists.leadsToSource_iff.1 (List.append_assoc root [name] names ▸ listed)
    exact leads.kept entry (SourceTree.exclude_ofTexts ▸ among) name List.mem_cons_self
      (itself ▸ spelled)
  · intro several
    rw [SourceTree.ofTexts_filter_exclude, SourceTree.files?_filter_exclude standing rfl
      SourceTree.excludeFault_ofTexts stands, found]
    rintro name single spells
    exact several (congrArg List.length (Path.spelled_eq named.names single spelled spells))

theorem sourceDisk_is_left_out_by_single_names :
    sourceDisk.IsTree ∧ sourceDisk.nodeAt ["shop"] = some .directory ∧
      (Path.mk 0 ["dist"]).IsParsed ∧ Path.Spells "dist/" (Path.joined ["dist"]) ∧
      (Path.mk 0 ["src", "payments"]).IsParsed ∧
      Path.Spells "src/payments/" (Path.joined ["src", "payments"]) ∧
      (∃ files, (SourceTree.ofTexts ["shop"] [".ts"] ["dist/"]).files? sourceDisk = .ok files ∧
        ∀ place ∈ files, ¬ ["shop", "dist"] <+: place) ∧
      ∃ files, (SourceTree.ofTexts ["shop"] [".ts"] ["src/payments/"]).files? sourceDisk =
          .ok files ∧
        (SourceTree.ofTexts ["shop"] [".ts"] []).files? sourceDisk = .ok files := by
  have standing : sourceDisk.IsTree := by decide +kernel
  have stands : sourceDisk.nodeAt ["shop"] = some .directory := rfl
  have single : (Path.mk 0 ["dist"]).IsParsed := by decide
  have several : (Path.mk 0 ["src", "payments"]).IsParsed := by decide
  have built : Path.Spells "dist/" (Path.joined ["dist"]) := by decide
  have nested : Path.Spells "src/payments/" (Path.joined ["src", "payments"]) := by decide
  have first : "dist/" ∈ ["dist/"] := List.mem_cons_self
  have second : "src/payments/" ∈ ["src/payments/"] := List.mem_cons_self
  obtain ⟨files, found, none, _⟩ :=
    only_single_names_are_left_out standing stands [".ts"] first single built
  obtain ⟨others, listed, _, same⟩ :=
    only_single_names_are_left_out standing stands [".ts"] second several nested
  exact ⟨standing, stands, single, built, several, nested, ⟨files, found, none rfl⟩,
    others, listed, same (by decide)⟩

/-- A directory that is left out by its path, and a file of it in the listing. -/
theorem nested_directory_is_not_left_out :
    sourceDisk.IsTree ∧ sourceDisk.nodeAt ["shop", "src", "payments"] = some .directory ∧
      Path.Spells "src/payments/" (Path.joined ["src", "payments"]) ∧
      ∃ files, (SourceTree.ofTexts ["shop"] [".ts"] ["src/payments/"]).files? sourceDisk =
          .ok files ∧
        ∃ place ∈ files, ["shop", "src", "payments"] <+: place := by
  have standing : sourceDisk.IsTree := by decide +kernel
  have stands : sourceDisk.nodeAt ["shop"] = some .directory := rfl
  obtain ⟨files, found, lists⟩ := SourceTree.lists_files
    (SourceTree.ofTexts ["shop"] [".ts"] ["src/payments/"]) standing rfl
    SourceTree.excludeFault_ofTexts stands
  have leads : SourceTree.LeadsToSource sourceDisk ["shop"] [".ts"] ["src/payments/"]
      ["src", "payments", "pay.ts"] :=
    ⟨⟨_, rfl⟩, by decide, by decide, by decide⟩
  exact ⟨standing, rfl, by decide, files, found, ["shop", "src", "payments", "pay.ts"],
    lists.leadsToSource_iff.2 leads, by decide⟩

end Triage
