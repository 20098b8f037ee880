import Triage.Proofs.Marker
import Triage.Proofs.Quality.Components
import Triage.Proofs.Text.Trimming

/-!
# Declared types are seen twice

Whether a file declares a type is asked in two ways.  The health of a feature asks for a word that
introduces a type, blanks and a name behind it; the health of a component only asks for such a word
that stands alone.  The first is the stricter question: the word that is found starts where no word
character comes before it, and the blank behind it is none either (`isWordChar_of_isBlank`), so the
word stands alone (`SourceText.hasTypeWord_of_declaresType`).

So a component that declares a type is not reported to have none, and where no two subsystems have
one name, each that is a healthy feature with a file that can be read has a component of this kind
(`declared_types_are_not_reported_missing`).
-/

namespace Triage

set_option autoImplicit false

open Triage.Marker (startsInWord endsWholeAt occursWhole)
open Triage.Text

namespace SourceText

/-! ## Words in front of names -/

/-- Blanks and a name go on no word. -/
theorem startsInWord_of_namesSomething {text : List Char} (names : namesSomething text = true) :
    startsInWord text = false := by
  cases text with
  | nil => rfl
  | cons c rest => exact isWordChar_of_isBlank (Bool.and_eq_true_iff.1 names).1

/-- A word that declares a type ends as a whole word. -/
theorem exists_endsWholeAt_of_declaresHere {text : List Char}
    (declares : declaresHere text = true) : ∃ word ∈ typeWords, endsWholeAt word text = true := by
  obtain ⟨word, among, found⟩ := List.any_eq_true.1 declares
  obtain ⟨starts, names⟩ := Bool.and_eq_true_iff.1 found
  refine ⟨word, among, ?_⟩
  rw [endsWholeAt, starts, startsInWord_of_namesSomething names]
  rfl

/-- Where a type is declared, a word that introduces one stands alone. -/
theorem exists_occursWhole_of_declaresTypeFrom {afterWord : Bool} {text : List Char}
    (declares : declaresTypeFrom afterWord text = true) :
    ∃ word ∈ typeWords, occursWhole word afterWord text = true := by
  induction text generalizing afterWord with
  | nil => cases declares
  | cons c rest ih =>
      rw [declaresTypeFrom, Bool.or_eq_true, Bool.and_eq_true] at declares
      rcases declares with ⟨start, here⟩ | behind
      · obtain ⟨word, among, ends⟩ := exists_endsWholeAt_of_declaresHere here
        refine ⟨word, among, ?_⟩
        rw [occursWhole, start, ends]
        rfl
      · obtain ⟨word, among, occurs⟩ := ih behind
        refine ⟨word, among, ?_⟩
        rw [occursWhole, occurs, Bool.or_true]

/-- **A text that declares a type has a word that introduces one.** -/
theorem hasTypeWord_of_declaresType {text : List Char} (declares : declaresType text = true) :
    hasTypeWord text = true :=
  List.any_eq_true.2 (exists_occursWhole_of_declaresTypeFrom declares)

end SourceText

/-! ## The issue -/

variable {Number : Type} {disk : Disk} {tree : SourceTree} {profile : Profile}
  {subsystems : List (Subsystem Number)}

/-- A component is reported to have no types when it has no word that introduces one. -/
theorem untyped_mem_issues_iff {subsystem : Subsystem Number} {name path text : String} :
    "No type definitions found" ∈ (assessComponent profile subsystem name path text).issues ↔
      SourceText.hasTypeWord text.toList = false := by
  -- The count is written in front of a text that is longer than the issue already.
  have counted (count : Nat) :
      "No type definitions found" ≠ toString count ++ " permissive type annotations found" := by
    intro same
    have lengths := congrArg String.length same
    rw [String.length_append] at lengths
    have shorter : "No type definitions found".length <
        " permissive type annotations found".length := by decide
    omega
  have unfinished : "No type definitions found" ≠ "Contains TODO/FIXME comments" := by decide
  change _ ∈ (inspectText profile text).1 ↔ _
  rw [inspectText]
  simp only [List.mem_append]
  rw [or_iff_left, or_iff_left]
  · cases SourceText.hasTypeWord text.toList <;> simp
  · split
    · exact List.not_mem_nil
    · exact mt List.mem_singleton.1 (counted _)
  · split
    · exact mt List.mem_singleton.1 unfinished
    · exact List.not_mem_nil

/-- A file of a subsystem that can be read is one of the components of a scan. -/
theorem exists_mem_components (profile : Profile) {subsystem : Subsystem Number} {place : Place}
    {text : String} (listed : subsystem ∈ subsystems)
    (selected : place ∈ tree.filesFor disk subsystem) (read : disk.readSource place = .ok text) :
    ∃ component ∈ (scanComponents disk tree profile subsystems).components,
      IsComponentOf disk tree profile subsystems place component := by
  have scans := scansOnce_scanComponents disk tree profile subsystems
  obtain ⟨file, selects⟩ := List.mem_filter.1 selected
  rcases List.mem_append.1 ((scans.mem_iff place).2 ⟨file, subsystem, listed, selects⟩) with
    assessed | unread
  · obtain ⟨entry, member, rfl⟩ := List.mem_map.1 assessed
    refine ⟨entry.2, ?_, scans.assessment entry member⟩
    rw [scans.components]
    exact List.mem_map_of_mem member
  · exact absurd read (scans.undecoded place unread text)

/-- **Types that are declared are not reported missing.** A component whose text declares a type is
not reported to have none.  So where no two subsystems have one name, a subsystem that is told to be
a healthy feature has, if one of its files can be read, a file that is assessed without this issue,
both for the subsystem and as a component of a scan of all of them. -/
theorem declared_types_are_not_reported_missing (profile : Profile) :
    (∀ (subsystem : Subsystem Number) (name path text : String),
      SourceText.declaresType text.toList = true →
        "No type definitions found" ∉ (assessComponent profile subsystem name path text).issues) ∧
    ∀ (disk : Disk) (tree : SourceTree) (subsystems : List (Subsystem Number)),
      (subsystems.Pairwise fun first second => (first.name == second.name) = false) →
      ∀ subsystem ∈ subsystems,
        (∃ place ∈ tree.filesFor disk subsystem, ∃ text, disk.readSource place = .ok text) →
        (featureHealth disk tree subsystems).find? subsystem.name = some true →
          ∃ place ∈ tree.filesFor disk subsystem,
            (∃ component, assessPlace disk tree profile place subsystem = some component ∧
              "No type definitions found" ∉ component.issues) ∧
            ∃ component ∈ (scanComponents disk tree profile subsystems).components,
              IsComponentOf disk tree profile subsystems place component ∧
                "No type definitions found" ∉ component.issues := by
  have spared (subsystem : Subsystem Number) (name path : String) {text : String}
      (declares : SourceText.declaresType text.toList = true) :
      "No type definitions found" ∉ (assessComponent profile subsystem name path text).issues := by
    rw [untyped_mem_issues_iff, SourceText.hasTypeWord_of_declaresType declares]
    nofun
  refine ⟨fun subsystem name path _ declares => spared subsystem name path declares, ?_⟩
  intro disk tree subsystems apart subsystem listed readable told
  have last := OrderedMap.findRev?_of_apart Subsystem.name apart listed
  obtain ⟨healthy, filed, judged⟩ :=
    (judgesFeatures disk tree subsystems).judged subsystem.name subsystem last
  obtain rfl : healthy = true := Option.some.inj (filed.symm.trans told)
  obtain ⟨place, selected, text, read, declares⟩ := judged.1 rfl readable
  refine ⟨place, selected, ⟨_, assessPlace_eq_some_iff.2 ⟨text, read, rfl⟩,
    spared subsystem _ _ declares⟩, ?_⟩
  obtain ⟨component, member, owner, content, found, again, rfl⟩ :=
    exists_mem_components profile listed selected read
  obtain rfl := Except.ok.inj (read.symm.trans again)
  exact ⟨_, member, ⟨owner, text, found, read, rfl⟩, spared owner _ _ declares⟩

theorem declared_types_of_payments_are_not_reported_missing :
    ([paymentSubsystem, refundSubsystem "**/[bc].ts"].Pairwise fun first second =>
        (first.name == second.name) = false) ∧
      (∃ place ∈ featureTree.filesFor featureDisk paymentSubsystem, ∃ text,
        featureDisk.readSource place = .ok text) ∧
      (featureHealth featureDisk featureTree
        [paymentSubsystem, refundSubsystem "**/[bc].ts"]).find? (.text "payments") = some true ∧
      SourceText.declaresType "type\u2003$x".toList = true ∧
      "No type definitions found" ∉
        (assessComponent {} paymentSubsystem "x.ts" "x.ts" "type\u2003$x").issues ∧
      ∃ place ∈ featureTree.filesFor featureDisk paymentSubsystem,
        ∃ component, assessPlace featureDisk featureTree {} place paymentSubsystem =
          some component ∧ "No type definitions found" ∉ component.issues := by
  have apart : [paymentSubsystem, refundSubsystem "**/[bc].ts"].Pairwise fun first second =>
      (first.name == second.name) = false := by decide +kernel
  have readable : ∃ place ∈ featureTree.filesFor featureDisk paymentSubsystem, ∃ text,
      featureDisk.readSource place = .ok text := by
    have some : (featureDisk.readSource ["payments", "a.ts"]).toOption.any (fun _ => true) =
        true := by decide +kernel
    obtain ⟨text, read, _⟩ := exists_of_any_toOption some
    exact ⟨_, by decide +kernel, text, read⟩
  have told : (featureHealth featureDisk featureTree
      [paymentSubsystem, refundSubsystem "**/[bc].ts"]).find? (.text "payments") = some true := by
    decide +kernel
  have declares : SourceText.declaresType "type\u2003$x".toList = true := by decide +kernel
  obtain ⟨spared, healthy⟩ := @declared_types_are_not_reported_missing Nat {}
  obtain ⟨place, selected, assessed, _⟩ := healthy featureDisk featureTree _ apart paymentSubsystem
    List.mem_cons_self readable told
  exact ⟨apart, readable, told, declares, spared _ _ _ _ declares, place, selected, assessed⟩

end Triage
