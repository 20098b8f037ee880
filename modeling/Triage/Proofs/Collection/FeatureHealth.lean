import Triage.Proofs.Collection.Collecting
import Triage.Proofs.SourceTree
import Triage.Proofs.Table

/-!
# The health of features, file by file

Subsystems may share files, and a file is looked into once for all of them.  What is kept of it
is what looking again would tell, so a survey never depends on which subsystem came first: after
any files it knows of each of them whether it declares a type, and lists those that cannot be
read, each once (`FeatureSurvey.Knows`).  One file is added at a time (`Knows.lookInto`), and the
answers for the files of a subsystem are those of the readable ones, whether they were looked
into just now or before (`Knows.lookThrough`).

So the health of a name is that of the last subsystem with this name, judged by its own files
alone, and the files that are listed as unreadable are those of the subsystems that cannot be
read (`features_are_judged_by_their_files`).
-/

namespace Triage

set_option autoImplicit false

variable {Number : Type} {disk : Disk} {tree : SourceTree}

namespace FeatureSurvey

/-- What is known after files have been looked into: of each of them whether it declares a type,
and which of them cannot be read. -/
structure Knows (disk : Disk) (survey : FeatureSurvey) (places : List Place) : Prop where
  declares : ∀ place, survey.declares.find? place =
    if place ∈ places then some (declaresTypeAt disk place) else none
  unreadable : survey.unreadable =
    places.eraseDups.filter fun place => (declaresTypeAt disk place).isNone

theorem knows_empty (disk : Disk) : empty.Knows disk [] where
  declares _ := rfl
  unreadable := rfl

variable {survey : FeatureSurvey} {places : List Place}

/-- A file is known when it has been looked into. -/
theorem Knows.contains_iff (knows : survey.Knows disk places) (place : Place) :
    survey.declares.contains place = true ↔ place ∈ places := by
  rw [OrderedMap.contains, knows.declares]
  by_cases known : place ∈ places <;> simp [known]

/-- Looking into a file adds it to what is known, be it new or not. -/
theorem Knows.lookInto (knows : survey.Knows disk places) (place : Place) :
    (survey.lookInto disk place).Knows disk (places ++ [place]) := by
  unfold FeatureSurvey.lookInto
  split
  · next known =>
      have among := (knows.contains_iff place).1 known
      refine ⟨fun other => ?_, ?_⟩
      · rw [knows.declares]
        by_cases same : other = place
        · simp [same, among]
        · simp [same]
      · rw [eraseDups_concat, if_pos (List.contains_iff_mem.2 among)]
        exact knows.unreadable
  · next unknown =>
      have new : place ∉ places := fun among => unknown ((knows.contains_iff place).2 among)
      refine ⟨fun other => ?_, ?_⟩
      · rw [OrderedMap.find?_insert, knows.declares]
        by_cases same : place = other
        · simp [same]
        · simp [same, Ne.symm same]
      · rw [eraseDups_concat, if_neg (mt List.contains_iff_mem.1 new), List.filter_append,
          ← knows.unreadable, List.filter_singleton, Bool.cond_eq_ite]

/-- Looking through files adds them to what is known, and answers for those that can be read. -/
theorem Knows.lookThrough (knows : survey.Knows disk places) (files : List Place) :
    (survey.lookThrough disk files).1.Knows disk (places ++ files) ∧
      (survey.lookThrough disk files).2 = files.filterMap (declaresTypeAt disk) := by
  induction files generalizing survey places with
  | nil => exact ⟨by rwa [List.append_nil], rfl⟩
  | cons place rest ih =>
      have looked := knows.lookInto place
      have here : (survey.lookInto disk place).declares.find? place =
          some (declaresTypeAt disk place) := by
        rw [looked.declares, if_pos (by simp)]
      obtain ⟨behind, answers⟩ := ih looked
      rw [List.append_assoc, List.singleton_append] at behind
      refine ⟨behind, ?_⟩
      rw [FeatureSurvey.lookThrough]
      simp only [here, answers, Option.join_some, List.filterMap_cons]
      cases declaresTypeAt disk place <;> rfl

theorem health_lookInto (survey : FeatureSurvey) (place : Place) :
    (survey.lookInto disk place).health = survey.health := by
  unfold FeatureSurvey.lookInto
  split <;> rfl

/-- Looking through files decides on no subsystem. -/
theorem health_lookThrough (survey : FeatureSurvey) (files : List Place) :
    (survey.lookThrough disk files).1.health = survey.health := by
  induction files generalizing survey with
  | nil => rfl
  | cons place rest ih =>
      exact (ih (survey.lookInto disk place)).trans (health_lookInto survey place)

end FeatureSurvey

/-! ## The health of the subsystems -/

/-- Whether files make a healthy feature: one of the readable ones declares a type, or none can
be read. -/
def healthOfFiles (disk : Disk) (files : List Place) : Bool :=
  (files.filterMap (declaresTypeAt disk)).isEmpty ||
    (files.filterMap (declaresTypeAt disk)).any id

/-- A survey knows the files of its subsystems, and has judged each by its own files. -/
theorem surveyFeatures_spec (disk : Disk) (tree : SourceTree)
    (subsystems : List (Subsystem Number)) :
    (surveyFeatures disk tree subsystems).Knows disk
        (subsystems.flatMap fun subsystem => tree.filesFor disk subsystem) ∧
      (surveyFeatures disk tree subsystems).health =
        .ofList (subsystems.map fun subsystem =>
          (subsystem.name, healthOfFiles disk (tree.filesFor disk subsystem))) := by
  induction subsystems using List.reverseRecOn with
  | nil => exact ⟨FeatureSurvey.knows_empty disk, rfl⟩
  | append_singleton subsystems subsystem ih =>
      obtain ⟨knows, health⟩ := ih
      obtain ⟨further, answers⟩ := knows.lookThrough (tree.filesFor disk subsystem)
      have step : surveyFeatures disk tree (subsystems ++ [subsystem]) =
          (surveyFeatures disk tree subsystems).decideOn disk tree subsystem := by
        rw [surveyFeatures, List.foldl_append]
        rfl
      rw [step, FeatureSurvey.decideOn]
      refine ⟨⟨?_, ?_⟩, ?_⟩
      · simpa using further.declares
      · simpa using further.unreadable
      · simp only [FeatureSurvey.health_lookThrough, health, answers, List.map_append,
          List.map_singleton, OrderedMap.ofList_concat]
        rfl

/-- The health of the subsystems is that of their files, filed under their names in order. -/
theorem featureHealth_eq (disk : Disk) (tree : SourceTree) (subsystems : List (Subsystem Number)) :
    featureHealth disk tree subsystems =
      .ofList (subsystems.map fun subsystem =>
        (subsystem.name, healthOfFiles disk (tree.filesFor disk subsystem))) :=
  (surveyFeatures_spec disk tree subsystems).2

/-- A subsystem is a healthy feature: if one of its files can be read, one of those declares a
type. -/
def Subsystem.IsHealthyFeature (disk : Disk) (tree : SourceTree) (subsystem : Subsystem Number) :
    Prop :=
  (∃ place ∈ tree.filesFor disk subsystem, ∃ text, disk.readSource place = .ok text) →
    ∃ place ∈ tree.filesFor disk subsystem, ∃ text,
      disk.readSource place = .ok text ∧ SourceText.declaresType text.toList = true

theorem declaresTypeAt_eq_some_iff {place : Place} {declares : Bool} :
    declaresTypeAt disk place = some declares ↔
      ∃ text, disk.readSource place = .ok text ∧
        SourceText.declaresType text.toList = declares := by
  unfold declaresTypeAt
  cases disk.readSource place <;> simp

theorem declaresTypeAt_eq_none_iff {place : Place} :
    declaresTypeAt disk place = none ↔ ∀ text, disk.readSource place ≠ .ok text := by
  unfold declaresTypeAt
  cases disk.readSource place <;> simp

/-- Files make a healthy feature when their subsystem is one. -/
theorem healthOfFiles_iff (subsystem : Subsystem Number) :
    healthOfFiles disk (tree.filesFor disk subsystem) = true ↔
      subsystem.IsHealthyFeature disk tree := by
  have unread : (tree.filesFor disk subsystem).filterMap (declaresTypeAt disk) = [] ↔
      ¬ ∃ place ∈ tree.filesFor disk subsystem, ∃ text, disk.readSource place = .ok text := by
    simp only [List.filterMap_eq_nil_iff, declaresTypeAt_eq_none_iff]
    push Not
    rfl
  have declared : ((tree.filesFor disk subsystem).filterMap (declaresTypeAt disk)).any id = true ↔
      ∃ place ∈ tree.filesFor disk subsystem, ∃ text,
        disk.readSource place = .ok text ∧ SourceText.declaresType text.toList = true := by
    simp only [List.any_eq_true, id_eq, exists_eq_right, List.mem_filterMap,
      declaresTypeAt_eq_some_iff]
  rw [healthOfFiles, Bool.or_eq_true, List.isEmpty_iff, unread, declared]
  exact imp_iff_not_or.symm

/-! ## What a report says of features -/

/-- What is told of features is what the files of the subsystems say. -/
structure JudgesFeatures (disk : Disk) (tree : SourceTree) (subsystems : List (Subsystem Number))
    (health : OrderedMap Value Bool) (unreadable : List String) : Prop where
  /-- A name is judged by the files of the last subsystem that has it. -/
  judged : ∀ name last, (subsystems.findRev? fun subsystem => subsystem.name == name) = some last →
    ∃ healthy, health.find? name = some healthy ∧
      (healthy = true ↔ last.IsHealthyFeature disk tree)
  /-- The names are those of the subsystems, each once. -/
  names : health.keys = (subsystems.map Subsystem.name).eraseDups
  /-- The files that are listed are those of subsystems that cannot be read, each once. -/
  listed : ∃ places : List Place, places.Nodup ∧
    (∀ place, place ∈ places ↔
      (∃ subsystem ∈ subsystems, place ∈ tree.filesFor disk subsystem) ∧
        ∀ text, disk.readSource place ≠ .ok text) ∧
    unreadable = places.map tree.relative
  /-- No path is listed twice where the files are named as files are. -/
  once : (∀ place ∈ tree.files disk, (Path.ofPlace place).IsParsed) → unreadable.Nodup

/-- The features of a survey are judged by their files. -/
theorem judgesFeatures (disk : Disk) (tree : SourceTree) (subsystems : List (Subsystem Number)) :
    JudgesFeatures disk tree subsystems (featureHealth disk tree subsystems)
      ((unreadableFeatures disk tree subsystems).map tree.relative) := by
  obtain ⟨knows, _⟩ := surveyFeatures_spec disk tree subsystems
  have distinct : (unreadableFeatures disk tree subsystems).Nodup := by
    rw [unreadableFeatures, knows.unreadable]
    exact (nodup_eraseDups _).filter _
  have among : ∀ place, place ∈ unreadableFeatures disk tree subsystems ↔
      (∃ subsystem ∈ subsystems, place ∈ tree.filesFor disk subsystem) ∧
        ∀ text, disk.readSource place ≠ .ok text := by
    intro place
    rw [unreadableFeatures, knows.unreadable, List.mem_filter, List.mem_eraseDups,
      List.mem_flatMap, Option.isNone_iff_eq_none, declaresTypeAt_eq_none_iff]
  refine ⟨fun name last found => ?_, ?_, ⟨_, distinct, among, rfl⟩, fun named => ?_⟩
  · refine ⟨healthOfFiles disk (tree.filesFor disk last), ?_, healthOfFiles_iff last⟩
    rw [featureHealth_eq, OrderedMap.find?_ofList, found]
    rfl
  · rw [featureHealth_eq, OrderedMap.keys_ofList, List.map_map]
    rfl
  · refine SourceTree.nodup_map_relative distinct fun place member => ?_
    obtain ⟨⟨_, _, selected⟩, _⟩ := (among place).1 member
    exact named place (List.mem_filter.1 selected).1

/-- **Features are judged by their files.** Looking into the files of textual subsystems always
comes to an end, and whatever the subsystems share, each name is judged by the files of the last
subsystem that has it, and the files that cannot be read are listed once each. -/
theorem features_are_judged_by_their_files (disk : Disk) (tree : SourceTree)
    (subsystems : List (Subsystem Number)) (attention : Attention)
    (listed : Decided (tree.files? disk))
    (textual : ∀ subsystem ∈ subsystems, subsystem.Textual) :
    (noteFeatures disk tree .empty subsystems).Returns attention (.ok ()) ∧
      JudgesFeatures disk tree subsystems (featureHealth disk tree subsystems)
        ((unreadableFeatures disk tree subsystems).map tree.relative) :=
  ⟨returns_noteFeatures listed .empty subsystems textual, judgesFeatures disk tree subsystems⟩

/-- A file that declares a type, one that is no text, and one that declares none. -/
def featureDisk : Disk :=
  (((Disk.empty.put ["payments"] .directory).put ["payments", "a.ts"]
    (.file "interface Payment \x7b\x7d".toUTF8)).put ["payments", "b.ts"] (.file ⟨#[0xff]⟩)).put
      ["c.ts"] (.file "let type1 = 3".toUTF8)

/-- The listing of these files. -/
def featureTree : SourceTree :=
  { SourceTree.openAt [] [] .null with
    listing := some [["c.ts"], ["payments", "a.ts"], ["payments", "b.ts"]] }

/-- A subsystem of refunds with the files that a glob selects. -/
def refundSubsystem (glob : String) : Subsystem Nat :=
  { paymentSubsystem with name := .text "refunds", globs := [.text glob] }

/-- Payments, and two subsystems of one name that share files with payments and each other. -/
def featureSubsystems : List (Subsystem Nat) :=
  [paymentSubsystem, refundSubsystem "**/[ab].ts", refundSubsystem "**/[bc].ts"]

theorem features_of_featureSubsystems_are_judged :
    Decided (featureTree.files? featureDisk) ∧
      (∀ subsystem ∈ featureSubsystems, subsystem.Textual) ∧
      (noteFeatures featureDisk featureTree .empty featureSubsystems).Returns .warnings
        (.ok ()) ∧
      (∃ healthy, (featureHealth featureDisk featureTree featureSubsystems).find?
        (.text "refunds") = some healthy ∧ healthy = false) ∧
      ((unreadableFeatures featureDisk featureTree featureSubsystems).map
        featureTree.relative).Nodup ∧
      (unreadableFeatures featureDisk featureTree featureSubsystems).map featureTree.relative =
        ["payments/b.ts"] := by
  have listed : Decided (featureTree.files? featureDisk) := ⟨_, rfl⟩
  have textual : ∀ subsystem ∈ featureSubsystems, subsystem.Textual := by decide +kernel
  have named : ∀ place ∈ featureTree.files featureDisk, (Path.ofPlace place).IsParsed := by
    decide +kernel
  have found : featureSubsystems.findRev? (fun subsystem => subsystem.name == .text "refunds") =
      some (refundSubsystem "**/[bc].ts") := rfl
  obtain ⟨returned, judges⟩ :=
    features_are_judged_by_their_files featureDisk featureTree featureSubsystems .warnings listed
      textual
  obtain ⟨healthy, filed, judged⟩ := judges.judged _ _ found
  -- Of the last subsystem with that name, one file can be read, and it declares no type.
  have unhealthy : healthOfFiles featureDisk
      (featureTree.filesFor featureDisk (refundSubsystem "**/[bc].ts")) = false := by
    decide +kernel
  refine ⟨listed, textual, returned, ⟨healthy, filed, ?_⟩, judges.once named, by decide +kernel⟩
  rw [← healthOfFiles_iff] at judged
  rw [Bool.eq_false_iff, ne_eq, judged]
  exact Bool.eq_false_iff.1 unhealthy

end Triage
