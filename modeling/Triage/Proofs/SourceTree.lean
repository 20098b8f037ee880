import Mathlib.Data.List.Nodup
import Triage.Proofs.Path
import Triage.Proofs.Textual
import Triage.SourceTree

/-!
# When source files can be listed

A listing that has been made is kept.  A new one needs a root that can be asked about and
names to leave out that are texts, which is all that may stand in its way
(`decided_files?`).

Reports show a file by its path from the root, which tells it from all others
(`relative_injective`): names hold no slashes, and a path that leads out of the tree is shown
whole.
-/

namespace Triage

set_option autoImplicit false

namespace SourceTree

/-- Names that are texts are all left out. -/
theorem namesOf_textValues (names : List String) : namesOf (textValues names) = (names, none) := by
  induction names with
  | nil => rfl
  | cons name rest ih =>
      change ((name :: (namesOf (textValues rest)).1, (namesOf (textValues rest)).2) :
        List String × Option Failure) = _
      rw [ih]

/-- Names that are texts are all left out, and leaving them out never fails. -/
theorem excludedNames_textValues (names : List String) :
    excludedNames (.list (textValues names)) = (names, none) := by
  cases names with
  | nil => rfl
  | cons name rest => exact namesOf_textValues (name :: rest)

theorem excludeFault_openAt (root : Place) (extensions : List Value) (exclude : List String) :
    (openAt root extensions (.list (textValues exclude))).excludeFault = none :=
  congrArg Prod.snd (excludedNames_textValues exclude)

/-- The source files can be listed when the root can be asked about and leaving out names
never fails. -/
theorem decided_files? {tree : SourceTree} {disk : Disk} (spared : tree.excludeFault = none)
    (asked : Decided (disk.isFile? (Path.ofPlace tree.root))) : Decided (tree.files? disk) := by
  obtain ⟨answer, found⟩ := asked
  have faultless : tree.listingFault? disk = none := by
    unfold listingFault?
    rw [found]
    split <;> simp_all
  unfold files?
  rw [faultless]
  split
  · simp_all
  · exact decided_ok _

/-- Files that are found are those of the tree. -/
theorem eq_files_of_files? {tree : SourceTree} {disk : Disk} {files : List Place}
    (found : tree.files? disk = .ok files) : files = tree.files disk := by
  unfold files? at found
  split at found
  · cases found
  · exact (Except.ok.inj found).symm

/-- Reports show a file inside the tree by its names below the root. -/
theorem relative_append (tree : SourceTree) {names : List String} (below : names ≠ []) :
    tree.relative (tree.root ++ names) = Path.joined names := by
  simp [relative, Path.relativeText, Path.namesBelow?, Path.ofPlace, Path.text, below]

/-- The path that reports show for a file is read back as the names below the root, or as the
whole place when it is outside. -/
theorem exists_parse_relative (tree : SourceTree) {place : Place}
    (named : (Path.ofPlace place).IsParsed) :
    (∃ names, Path.parse (tree.relative place) = ⟨0, names⟩ ∧ place = tree.root ++ names) ∨
      Path.parse (tree.relative place) = ⟨1, place⟩ := by
  unfold relative Path.relativeText Path.namesBelow?
  by_cases inside : tree.root.isPrefixOf place = true
  · obtain ⟨names, rfl⟩ := List.isPrefixOf_iff_prefix.1 inside
    have below : (Path.mk 0 names).IsParsed :=
      ⟨Nat.zero_le 2, fun name member => named.names name (List.mem_append_right _ member)⟩
    refine .inl ⟨names, ?_, rfl⟩
    simpa [Path.ofPlace] using Path.parse_text below
  · refine .inr ?_
    simpa [Path.ofPlace, inside] using Path.parse_text named

/-- **The path that reports show tells a file from all others.** -/
theorem relative_injective {tree : SourceTree} {first second : Place}
    (firstNamed : (Path.ofPlace first).IsParsed) (secondNamed : (Path.ofPlace second).IsParsed)
    (same : tree.relative first = tree.relative second) : first = second := by
  have left := exists_parse_relative tree firstNamed
  have right := exists_parse_relative tree secondNamed
  rw [same] at left
  rcases left with ⟨names, inside, rfl⟩ | outside
  · rcases right with ⟨others, again, rfl⟩ | again
    · obtain ⟨rfl⟩ := Path.mk.inj (inside.symm.trans again) |>.2
      rfl
    · cases inside.symm.trans again
  · rcases right with ⟨others, again, rfl⟩ | again
    · cases outside.symm.trans again
    · exact (Path.mk.inj (outside.symm.trans again)).2

/-- Different files are shown by different paths. -/
theorem nodup_map_relative {tree : SourceTree} {places : List Place} (once : places.Nodup)
    (named : ∀ place ∈ places, (Path.ofPlace place).IsParsed) :
    (places.map tree.relative).Nodup :=
  (List.nodup_map_iff_inj_on once).2 fun first left second right same =>
    relative_injective (named first left) (named second right) same

end SourceTree

/-- It can be told which of the listed files a textual subsystem selects. -/
theorem Subsystem.Textual.checkFilesFor {Number : Type} {tree : SourceTree} {disk : Disk}
    {subsystem : Subsystem Number} (textual : subsystem.Textual)
    (listed : Decided (tree.files? disk)) : tree.checkFilesFor disk subsystem = .ok () := by
  obtain ⟨places, found⟩ := listed
  exact bind_eq_ok.2 ⟨places, found, forM_eq_ok_iff.2 fun place _ =>
    (textual.decided_matchesPath? (tree.relative place)).check⟩

end Triage
