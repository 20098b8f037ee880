import Triage.Proofs.SourceTree.Listing
import Triage.Proofs.Subsystem.Depth
import Triage.Proofs.Text.Occurrence

/-!
# Subsystems that are given by their names

A subsystem that is given by its name alone is looked up by this name in messages and in paths,
and its glob puts stars around the name at any depth.  If the name has no character that is special
in a glob, both are the same search: the glob selects the paths that the name occurs in when they
are written with slashes (`globSelects_defaultGlob_iff`).  The depth makes no difference, since a
star goes over slashes as well.

So such a subsystem is concerned by a diagnostic when the name occurs in the message, in the file
as it is written or in the file written with slashes, and the listed files that it selects are
those with the name in their path written with slashes (`named_subsystem_looks_for_its_name`).
Backslashes in a path count as slashes there, so the name itself is not looked for if it has one
(`name_with_backslash_selects_no_file`).
-/

namespace Triage

set_option autoImplicit false

variable {Number : Type}

namespace Subsystem

/-- The subsystem that is given by its name alone; the rest are settings. -/
def ofName (settings : Subsystem Number) (name : String) : Subsystem Number :=
  withDefaults { settings with name := .text name, keywords := [], globs := [] }

/-- **The glob of a plain name** selects the paths that the name occurs in. -/
theorem globSelects_defaultGlob_iff {name : String} (plain : Glob.IsPlain name.toList)
    {path : List Char} :
    globSelects path (defaultGlob name).toList = true ↔ name.toList <:+: path := by
  have marked : (defaultGlob name).toList =
      anyDepth.toList ++ ('*' :: (name.toList ++ ['*'])) := by
    rw [defaultGlob, String.toList_append, String.toList_append]
    rfl
  rw [marked, globSelects_anyDepth_iff]
  simp only [Glob.fits_around_iff plain]
  constructor
  · rintro ⟨part, rfl | ⟨before, rfl⟩, inside⟩
    · exact inside
    · exact inside.trans ((List.suffix_cons _ _).trans (List.suffix_append _ _)).isInfix
  · intro inside
    exact ⟨path, .inl rfl, inside⟩

/-- A named subsystem always knows whether something that was said holds its name. -/
theorem matchesText?_ofName (settings : Subsystem Number) (name said : String) :
    (ofName settings name).matchesText? (.text said) = .ok (Text.occurs name said) := by
  refine (anyM_textValues (Value.holds?_text said) [name]).trans ?_
  rw [List.any_cons, List.any_nil, Bool.or_false]

/-- A named subsystem always knows whether its glob selects a path. -/
theorem matchesPath?_ofName (settings : Subsystem Number) (name path : String) :
    (ofName settings name).matchesPath? (.text path) =
      .ok (globSelects (Text.slashed path).toList (defaultGlob name).toList) := by
  refine (matchesPath?_withGlobs settings [defaultGlob name] path).trans ?_
  rw [List.any_cons, List.any_nil, Bool.or_false]

theorem concerns?_ofName (settings : Subsystem Number) (name message file : String) :
    (ofName settings name).concerns? (.text message) (.text file) =
      .ok (Text.occurs name message || Text.occurs name file ||
        globSelects (Text.slashed file).toList (defaultGlob name).toList) := by
  simp only [concerns?, concernsFile?, matchesText?_ofName, matchesPath?_ofName]
  cases Text.occurs name message
  · cases Text.occurs name file <;> rfl
  · rfl

end Subsystem

/-- **A subsystem that is given by a plain name looks for this name**: in messages, in files as
they are written, and in paths written with slashes, where it finds the listed files that it
selects.  Whether slashes are written one way or the other makes no difference to a path without
backslashes, nor to a name without slashes of either kind. -/
theorem named_subsystem_looks_for_its_name (settings : Subsystem Number) {name : String}
    (plain : Glob.IsPlain name.toList) :
    (∀ message file : String, ∃ answer,
      (Subsystem.ofName settings name).concerns? (.text message) (.text file) = .ok answer ∧
        (answer = true ↔ name.toList <:+: message.toList ∨ name.toList <:+: file.toList ∨
          name.toList <:+: (Text.slashed file).toList)) ∧
    (∀ (tree : SourceTree) (disk : Disk),
      tree.checkFilesFor disk (Subsystem.ofName settings name) =
        (tree.files? disk).map (fun _ => ()) ∧
      tree.filesFor disk (Subsystem.ofName settings name) = (tree.files disk).filter fun place =>
        name.toList <:+: (Text.slashed (tree.relative place)).toList) ∧
    ∀ path : String, '\\' ∉ path.toList ∨ '\\' ∉ name.toList ∧ '/' ∉ name.toList →
      (name.toList <:+: (Text.slashed path).toList ↔ name.toList <:+: path.toList) := by
  refine ⟨fun message file => ?_, fun tree disk => ⟨?_, ?_⟩, ?_⟩
  · refine ⟨_, Subsystem.concerns?_ofName settings name message file, ?_⟩
    rw [Bool.or_eq_true, Bool.or_eq_true, Text.occurs_iff, Text.occurs_iff,
      Subsystem.globSelects_defaultGlob_iff plain, or_assoc]
  · unfold SourceTree.checkFilesFor
    cases tree.files? disk with
    | error failure => rfl
    | ok files =>
        refine forM_eq_ok_iff.2 fun place _ => ?_
        rw [Subsystem.matchesPath?_ofName]
        rfl
  · refine List.filter_congr fun place _ => ?_
    rw [Subsystem.matchesPath, Subsystem.matchesPath?_ofName, Verdict.passed_ok, Bool.eq_iff_iff,
      decide_eq_true_iff]
    exact Subsystem.globSelects_defaultGlob_iff plain
  · rintro path (absent | free)
    · rw [Text.slashed_of_not_mem absent]
    · rw [Text.slashed, String.toList_ofList, Text.infix_substitute_iff free]

/-- A project with a file of payments, and with a file that has a backslash in its name. -/
def namedDisk : Disk :=
  ⟨⟨[(["src"], .directory), (["src", "payments.ts"], .file .empty),
    (["a\\b.tsx"], .file .empty)]⟩⟩

theorem isTree_namedDisk : namedDisk.IsTree := by decide +kernel

theorem payments_are_found_by_their_name :
    Glob.IsPlain "payments".toList ∧
      (Subsystem.ofName paymentSubsystem "payments").concerns? (.text "Late payments.")
        (.text "src/shop.ts") = .ok true ∧
      (SourceTree.ofTexts [] [".ts"] []).filesFor namedDisk
        (Subsystem.ofName paymentSubsystem "payments") = [["src", "payments.ts"]] := by
  have plain : Glob.IsPlain "payments".toList := by decide
  obtain ⟨concerned, selected, _⟩ := named_subsystem_looks_for_its_name paymentSubsystem plain
  obtain ⟨answer, found, answers⟩ := concerned "Late payments." "src/shop.ts"
  have passes : answer = true := answers.2 (.inl (by decide))
  have only : namedDisk.filePlaces.filter (SourceTree.ofTexts [] [".ts"] []).isSource =
      [["src", "payments.ts"]] := by decide +kernel
  have listed := SourceTree.files?_of_directory (SourceTree.ofTexts [] [".ts"] [])
    isTree_namedDisk rfl SourceTree.excludeFault_ofTexts rfl
  rw [only, List.mergeSort_singleton] at listed
  refine ⟨plain, passes ▸ found, ?_⟩
  rw [(selected _ namedDisk).2, ← SourceTree.eq_files_of_files? listed]
  decide

/-- A name with a backslash does not even select the file with this name in its path. -/
theorem name_with_backslash_selects_no_file :
    Glob.IsPlain "a\\b".toList ∧
      (SourceTree.ofTexts [] [".tsx"] []).files? namedDisk = .ok [["a\\b.tsx"]] ∧
      "a\\b".toList <:+: ((SourceTree.ofTexts [] [".tsx"] []).relative ["a\\b.tsx"]).toList ∧
      (SourceTree.ofTexts [] [".tsx"] []).filesFor namedDisk
        (Subsystem.ofName paymentSubsystem "a\\b") = [] := by
  have plain : Glob.IsPlain "a\\b".toList := by decide
  have only : namedDisk.filePlaces.filter (SourceTree.ofTexts [] [".tsx"] []).isSource =
      [["a\\b.tsx"]] := by decide +kernel
  have listed := SourceTree.files?_of_directory (SourceTree.ofTexts [] [".tsx"] [])
    isTree_namedDisk rfl SourceTree.excludeFault_ofTexts rfl
  rw [only, List.mergeSort_singleton] at listed
  refine ⟨plain, listed, by decide, ?_⟩
  rw [SourceTree.filesFor, ← SourceTree.eq_files_of_files? listed]
  decide

end Triage
