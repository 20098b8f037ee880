import Triage.Proofs.Collection.Accounting
import Triage.Proofs.Path.Spelling

/-!
# The spelling of a file

A compiler may write the file of a record in many ways.  A diagnostic shows one of them, and all
else is computed from the record that is left: a record that is complete is converted by the file
that it is shown in (`RawDiagnostic.convert_inFile`), and whether it is complete does not depend on
the file at all, as long as it has one.  So two files that are shown as one are interchangeable,
for one record and for a whole collection (`interchangeable_of_projectFile`).

A plain relative path and every absolute path that leads to the same place in the project are shown
as the relative path, and an absolute path that leads elsewhere stays an absolute path to where it
leads (`spelling_of_a_file_does_not_matter`).  Whether a place lies in the project is told by whole
names, so one whose name only begins with that of the project lies elsewhere
(`not_prefix_of_longer_name`).

A file is a text of characters here, and so is each name on a disk: names whose bytes are no text
are left out.  A surrogate that stands alone is no character; the JSON reader puts the replacement
character in its place before a record has a file.
-/

namespace Triage

set_option autoImplicit false

open Triage.Path

variable {Number : Type}

namespace RawDiagnostic

/-- A record with another file. -/
def inFile (raw : RawDiagnostic) (file : String) : RawDiagnostic := { raw with file := .text file }

/-- Which file a record has does not matter to its being complete. -/
theorem isComplete_inFile {file : String} (filled : file ≠ "") (raw : RawDiagnostic) :
    (raw.inFile file).isComplete =
      (!raw.line.isNull && !raw.column.isNull && !raw.code.isNull) := by
  have named : (Value.text file).isTruthy = true := by simpa [Value.isTruthy] using filled
  simp only [isComplete, inFile, named, Bool.true_and]

/-- A record is complete in two files or in neither. -/
theorem isComplete_inFile_eq {first second : String} (named : first ≠ "") (also : second ≠ "")
    (raw : RawDiagnostic) : (raw.inFile first).isComplete = (raw.inFile second).isComplete := by
  rw [isComplete_inFile named, isComplete_inFile also]

/-- **A complete record is converted by the file that it is shown in.** -/
theorem convert_inFile {root : Place} {first second : String} {raw : RawDiagnostic}
    (shown : projectFile root first = projectFile root second)
    (here : (raw.inFile first).isComplete = true) (there : (raw.inFile second).isComplete = true)
    (profile : Profile) (subsystems : List (Subsystem Number)) :
    (raw.inFile first).convert root profile subsystems =
      (raw.inFile second).convert root profile subsystems := by
  have named (file : String) : (raw.inFile file).file.toText = .ok file := rfl
  rw [convert_of_isComplete here, convert_of_isComplete there, named, named]
  simp only [bind, Except.bind, shown]
  rfl

end RawDiagnostic

/-! ## Files that are shown as one -/

/-- It makes no difference in which of two files a record is. -/
structure Interchangeable (Number : Type) (root : Place) (first second : String) : Prop where
  /-- A record is converted in both to the same diagnostic, or in neither. -/
  converted : ∀ (raw : RawDiagnostic) (profile : Profile) (subsystems : List (Subsystem Number))
    (diagnostic : Diagnostic),
    (raw.inFile first).convert root profile subsystems = .ok diagnostic ↔
      (raw.inFile second).convert root profile subsystems = .ok diagnostic
  /-- Both lie in a dependency, or neither. -/
  filtered : isDependency (projectFile root first) = isDependency (projectFile root second)
  /-- The whole collection is the same, its notes included. -/
  collected : ∀ (disk : Disk) (tree : SourceTree) (profile : Profile) (options : Options Number)
    (before after : List RawDiagnostic) (raw : RawDiagnostic), tree.root = root →
    collect disk tree profile options (.records (before ++ raw.inFile first :: after)) =
      collect disk tree profile options (.records (before ++ raw.inFile second :: after))

/-- Records are reported in a file, and are reported when their kinds are right. -/
structure ReportedIn (Number : Type) (root : Place) (written shown : String) : Prop where
  file : ∀ (raw : RawDiagnostic) (profile : Profile) (subsystems : List (Subsystem Number))
    (diagnostic : Diagnostic),
    (raw.inFile written).convert root profile subsystems = .ok diagnostic →
      diagnostic.file = .text shown
  reported : ∀ (record : PlainRecord) (profile : Profile) (subsystems : List (Subsystem Number)),
    record.line.isSome → record.column.isSome → record.code.isSome → profile.Textual →
      (∀ subsystem ∈ subsystems, subsystem.Textual) →
      Decided ((record.toRaw.inFile written).convert root profile subsystems)

section

variable {root : Place} {first second : String}

/-- Records that differ in such files are sorted alike. -/
theorem sortRecords_inFile (shown : projectFile root first = projectFile root second)
    (named : first ≠ "") (also : second ≠ "") (profile : Profile) (options : Options Number)
    (before after : List RawDiagnostic) (raw : RawDiagnostic) :
    sortRecords root profile options (before ++ raw.inFile first :: after) =
      sortRecords root profile options (before ++ raw.inFile second :: after) := by
  induction before with
  | nil =>
      have alike := RawDiagnostic.isComplete_inFile_eq named also raw
      rw [List.nil_append, List.nil_append, sortRecords, sortRecords]
      cases complete : (raw.inFile second).isComplete with
      | true => rw [RawDiagnostic.convert_inFile shown (alike.trans complete) complete]
      | false =>
          obtain ⟨_, here⟩ := RawDiagnostic.convert_of_not_isComplete (alike.trans complete) root
            profile options.subsystems
          obtain ⟨_, there⟩ := RawDiagnostic.convert_of_not_isComplete complete root profile
            options.subsystems
          rw [here, there]
  | cons record rest ih => rw [List.cons_append, List.cons_append, sortRecords, sortRecords, ih]

/-- **Files that are shown as one are interchangeable.** -/
theorem interchangeable_of_projectFile (shown : projectFile root first = projectFile root second)
    (named : first ≠ "") (also : second ≠ "") : Interchangeable Number root first second where
  converted := by
    intro raw profile subsystems diagnostic
    have alike := RawDiagnostic.isComplete_inFile_eq named also raw
    constructor
    · intro converted
      have complete := RawDiagnostic.isComplete_of_convert converted
      rwa [← RawDiagnostic.convert_inFile shown complete (alike ▸ complete)]
    · intro converted
      have complete := RawDiagnostic.isComplete_of_convert converted
      rwa [RawDiagnostic.convert_inFile shown (alike ▸ complete) complete]
  filtered := by rw [shown]
  collected := by
    rintro disk tree profile options before after raw rfl
    have records : collectRecords disk tree profile options (before ++ raw.inFile first :: after) =
        collectRecords disk tree profile options (before ++ raw.inFile second :: after) := by
      simp only [collectRecords, reportOf, sortRecords_inFile shown named also, List.length_append,
        List.length_cons]
    change reportRecords disk tree profile options _ = reportRecords disk tree profile options _
    rw [reportRecords, reportRecords, records]

/-- Records are reported in the file that is shown for theirs. -/
theorem reportedIn_projectFile (Number : Type) (root : Place) (named : first ≠ "") :
    ReportedIn Number root first (projectFile root first) where
  file := by
    intro raw profile subsystems diagnostic converted
    obtain ⟨_, file, severity, category, written, _, _, rfl⟩ :=
      RawDiagnostic.convert_eq_ok_iff.1 converted
    rw [← Except.ok.inj written]
  reported := by
    intro record profile subsystems placed ranged coded profileTextual textual
    obtain ⟨line, placed⟩ := Option.isSome_iff_exists.1 placed
    obtain ⟨column, ranged⟩ := Option.isSome_iff_exists.1 ranged
    obtain ⟨code, coded⟩ := Option.isSome_iff_exists.1 coded
    have here : { record with file := some first }.file = some first := rfl
    have converted := PlainRecord.convert_toRaw here named placed ranged coded root profile
      subsystems
    refine (Decided.bind ?_ fun category => decided_ok _ : Decided _).imp fun _ => converted.trans
    exact decided_classify profileTextual textual code _ _

end

/-! ## Spellings -/

theorem Path.LeadsTo.ne_empty {text : String} {place : Place} (leads : LeadsTo text place) :
    text ≠ "" := by
  rintro rfl
  exact absurd leads.absolute nofun

/-- A place lies below another one by its whole names only. -/
theorem not_prefix_of_longer_name {parent below : Place} {name more : String} (longer : more ≠ "") :
    ¬ parent ++ [name] <+: parent ++ (name ++ more) :: below := by
  rw [List.prefix_append_right_inj, List.cons_prefix_cons]
  rintro ⟨same, _⟩
  have chars := congrArg String.toList same
  rw [String.toList_append, List.self_eq_append_right, String.toList_eq_nil_iff] at chars
  exact longer chars

/-- **The spelling of a file does not matter.** An absolute path that leads into the project and the
plain relative path from there are interchangeable, and records in either are reported in the
relative one; records in an absolute path that leads elsewhere are reported in an absolute path to
where it leads, also where the name of the project is a part of the name of that place. -/
theorem spelling_of_a_file_does_not_matter (Number : Type) (root : Place) (written : String) :
    (∀ relative, IsPlain relative → LeadsTo written (root ++ Text.cut '/' relative) →
      Interchangeable Number root written relative ∧ ReportedIn Number root written relative ∧
        ReportedIn Number root relative relative) ∧
    (∀ place, LeadsTo written place → ¬ root <+: place →
      ∃ shown, LeadsTo shown place ∧ ReportedIn Number root written shown) ∧
    ∀ parent below name more, root = parent ++ [name] → more ≠ "" →
      LeadsTo written (parent ++ (name ++ more) :: below) →
      ∃ shown, LeadsTo shown (parent ++ (name ++ more) :: below) ∧
        ReportedIn Number root written shown := by
  have elsewhere : ∀ place, LeadsTo written place → ¬ root <+: place →
      ∃ shown, LeadsTo shown place ∧ ReportedIn Number root written shown := by
    intro place leads outside
    have reported := reportedIn_projectFile Number root leads.ne_empty
    rw [projectFile_of_leadsTo_beside leads outside] at reported
    exact ⟨_, leads.text_parse, reported⟩
  refine ⟨fun relative plain leads => ?_, elsewhere, ?_⟩
  · have inside := projectFile_of_leadsTo_below leads
    have kept := projectFile_of_isPlain root plain
    have absolute := reportedIn_projectFile Number root leads.ne_empty
    have fromThere := reportedIn_projectFile Number root plain.ne_empty
    rw [inside] at absolute
    rw [kept] at fromThere
    have alike : Interchangeable Number root written relative :=
      interchangeable_of_projectFile (inside.trans kept.symm) leads.ne_empty plain.ne_empty
    exact ⟨alike, absolute, fromThere⟩
  · rintro parent below name more rfl longer leads
    exact elsewhere _ leads (not_prefix_of_longer_name longer)

/-- A file of a project in a spelling with detours, and a file of a place beside the project. -/
theorem spellings_around_a_project :
    IsPlain "src/a.ts" ∧
      LeadsTo "/home/./app//lib/../src/a.ts" (["home", "app"] ++ Text.cut '/' "src/a.ts") ∧
      Interchangeable Nat ["home", "app"] "/home/./app//lib/../src/a.ts" "src/a.ts" ∧
      ReportedIn Nat ["home", "app"] "/home/./app//lib/../src/a.ts" "src/a.ts" ∧
      LeadsTo "/home/app2/a.ts" (["home"] ++ ("app" ++ "2") :: ["a.ts"]) ∧
      ∃ shown, LeadsTo shown ["home", "app2", "a.ts"] ∧
        ReportedIn Nat ["home", "app"] "/home/app2/a.ts" shown := by
  have plain : IsPlain "src/a.ts" := by decide +kernel
  have inside : LeadsTo "/home/./app//lib/../src/a.ts"
      (["home", "app"] ++ Text.cut '/' "src/a.ts") := by decide +kernel
  have beside : LeadsTo "/home/app2/a.ts" (["home"] ++ ("app" ++ "2") :: ["a.ts"]) := by
    decide +kernel
  obtain ⟨alike, reported, _⟩ :=
    (spelling_of_a_file_does_not_matter Nat ["home", "app"] "/home/./app//lib/../src/a.ts").1
      "src/a.ts" plain inside
  have kept := (spelling_of_a_file_does_not_matter Nat ["home", "app"]
    "/home/app2/a.ts").2.2 ["home"] ["a.ts"] "app" "2" rfl (by decide) beside
  exact ⟨plain, inside, alike, reported, beside, kept⟩

end Triage
