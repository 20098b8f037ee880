import Triage.Proofs.Collection.FeatureHealth
import Triage.Proofs.Ordering
import Triage.Proofs.Quality.Reporting
import Triage.Proofs.SourceTree

/-!
# Components, each once

The files of the subsystems are attributed to the first subsystems that select them.  A scan
assesses those of them that can be read, and lists the others (`perm_componentFiles`).  Components
are sorted by their scores, and those of one score stay in the order of their files, which is that
of the subsystems and of the tree; so a scan treats every file once
(`scan_treats_every_file_once`).
-/

namespace Triage

set_option autoImplicit false

variable {Number : Type} {disk : Disk} {tree : SourceTree} {profile : Profile}
  {subsystems : List (Subsystem Number)}

/-! ## The scan -/

/-- A component is the health of a file, assessed for the first subsystem that selects it. -/
def IsComponentOf (disk : Disk) (tree : SourceTree) (profile : Profile)
    (subsystems : List (Subsystem Number)) (place : Place) (component : ComponentHealth) : Prop :=
  ∃ subsystem text, subsystems.find? (tree.selects place) = some subsystem ∧
    disk.readSource place = .ok text ∧
    component = assessComponent profile subsystem (place.getLast?.getD "") (tree.relative place)
      text

/-- A scan treats the files of subsystems once each: those that can be read are assessed, with
their components, and the others are listed. -/
structure ScansOnce (disk : Disk) (tree : SourceTree) (profile : Profile)
    (subsystems : List (Subsystem Number)) (scan : ComponentScan)
    (assessed : List (Place × ComponentHealth)) (unread : List Place) : Prop where
  components : scan.components = assessed.map Prod.snd
  unreadable : scan.unreadable = unread.map tree.relative
  once : (assessed.map Prod.fst ++ unread).Nodup
  /-- The files are the source files that a subsystem selects. -/
  mem_iff : ∀ place, place ∈ assessed.map Prod.fst ++ unread ↔
    place ∈ tree.files disk ∧ ∃ subsystem ∈ subsystems, tree.selects place subsystem = true
  assessment : ∀ entry ∈ assessed, IsComponentOf disk tree profile subsystems entry.1 entry.2
  undecoded : ∀ place ∈ unread, ∀ text, disk.readSource place ≠ .ok text
  /-- Scores fall, and components of one score are in the order of their files. -/
  ordered : assessed.Pairwise fun first second => second.2.score ≤ first.2.score ∧
    (first.2.score = second.2.score → tree.ComesBefore disk subsystems first.1 second.1)
  /-- No path is reported twice where the files are named as files are. -/
  apart : (∀ place ∈ tree.files disk, (Path.ofPlace place).IsParsed) →
    (scan.components.map ComponentHealth.path ++ scan.unreadable).Nodup

theorem assessPlace_eq_some_iff {place : Place} {subsystem : Subsystem Number}
    {component : ComponentHealth} :
    assessPlace disk tree profile place subsystem = some component ↔
      ∃ text, disk.readSource place = .ok text ∧
        component = assessComponent profile subsystem (place.getLast?.getD "")
          (tree.relative place) text := by
  unfold assessPlace
  cases disk.readSource place <;> simp [eq_comm]

theorem assessPlace_eq_none_iff {place : Place} {subsystem : Subsystem Number} :
    assessPlace disk tree profile place subsystem = none ↔
      ∀ text, disk.readSource place ≠ .ok text := by
  unfold assessPlace
  cases disk.readSource place <;> simp

/-- The files with their components, in the order of the files. -/
def assessedFiles (disk : Disk) (tree : SourceTree) (profile : Profile)
    (subsystems : List (Subsystem Number)) : List (Place × ComponentHealth) :=
  (componentFiles disk tree subsystems).filterMap fun file =>
    (assessPlace disk tree profile file.1 file.2).map fun component => (file.1, component)

/-- The files with their components, from high to low scores. -/
def rankedFiles (disk : Disk) (tree : SourceTree) (profile : Profile)
    (subsystems : List (Subsystem Number)) : List (Place × ComponentHealth) :=
  (assessedFiles disk tree profile subsystems).mergeSort fun first second =>
    second.2.score ≤ first.2.score

/-- The files that cannot be read. -/
def unreadFiles (disk : Disk) (tree : SourceTree) (profile : Profile)
    (subsystems : List (Subsystem Number)) : List Place :=
  ((componentFiles disk tree subsystems).filter fun file =>
    (assessPlace disk tree profile file.1 file.2).isNone).map Prod.fst

/-- The components of a scan are those of the files, sorted with their files. -/
theorem components_scanComponents :
    (scanComponents disk tree profile subsystems).components =
      (rankedFiles disk tree profile subsystems).map Prod.snd := by
  have components : (assessedFiles disk tree profile subsystems).map Prod.snd =
      (componentFiles disk tree subsystems).filterMap fun file =>
        assessPlace disk tree profile file.1 file.2 := by
    rw [assessedFiles, List.map_filterMap]
    refine List.filterMap_congr fun file _ => ?_
    rw [Option.map_map]
    exact Option.map_id'
  have sorted : (rankedFiles disk tree profile subsystems).map Prod.snd =
      ((assessedFiles disk tree profile subsystems).map Prod.snd).mergeSort fun first second =>
        second.score ≤ first.score := List.map_mergeSort fun _ _ _ _ => rfl
  rw [sorted, components]
  rfl

/-- Files that are assessed have their components. -/
theorem isComponentOf_of_mem_assessedFiles {entry : Place × ComponentHealth}
    (member : entry ∈ assessedFiles disk tree profile subsystems) :
    IsComponentOf disk tree profile subsystems entry.1 entry.2 := by
  obtain ⟨file, attributed, made⟩ := List.mem_filterMap.1 member
  obtain ⟨component, assessed, rfl⟩ := Option.map_eq_some_iff.1 made
  obtain ⟨text, read, rfl⟩ := assessPlace_eq_some_iff.1 assessed
  have attributes := attributesFiles_componentFiles disk tree subsystems
  exact ⟨file.2, text, ((attributes.mem_iff _ _).1 attributed).2, read, rfl⟩

theorem pairwise_assessedFiles (disk : Disk) (tree : SourceTree) (profile : Profile)
    (subsystems : List (Subsystem Number)) :
    (assessedFiles disk tree profile subsystems).Pairwise fun first second =>
      tree.ComesBefore disk subsystems first.1 second.1 := by
  refine (attributesFiles_componentFiles disk tree subsystems).ordered.filterMap _ ?_
  intro first second before entry here other there
  obtain ⟨_, _, rfl⟩ := Option.map_eq_some_iff.1 here
  obtain ⟨_, _, rfl⟩ := Option.map_eq_some_iff.1 there
  exact before

theorem map_fst_filterMap {Item Key Result : Type} (key : Item → Key)
    (image : Item → Option Result) (items : List Item) :
    (items.filterMap fun item => (image item).map fun result => (key item, result)).map Prod.fst =
      (items.filter fun item => (image item).isSome).map key := by
  induction items with
  | nil => rfl
  | cons item rest ih =>
      cases found : image item with
      | none => simpa [found] using ih
      | some result => simpa [found] using ih

/-- Each file is assessed or cannot be read. -/
theorem perm_componentFiles :
    ((assessedFiles disk tree profile subsystems).map Prod.fst ++
      unreadFiles disk tree profile subsystems).Perm
        ((componentFiles disk tree subsystems).map Prod.fst) := by
  rw [assessedFiles, map_fst_filterMap, unreadFiles, ← List.map_append]
  have parted := List.filter_append_perm (fun file : Place × Subsystem Number =>
    (assessPlace disk tree profile file.1 file.2).isSome) (componentFiles disk tree subsystems)
  simp only [Option.not_isSome] at parted
  exact parted.map Prod.fst

/-- The files of the subsystems are scanned once each. -/
theorem scansOnce_scanComponents (disk : Disk) (tree : SourceTree) (profile : Profile)
    (subsystems : List (Subsystem Number)) :
    ScansOnce disk tree profile subsystems (scanComponents disk tree profile subsystems)
      (rankedFiles disk tree profile subsystems) (unreadFiles disk tree profile subsystems) := by
  have attributes := attributesFiles_componentFiles disk tree subsystems
  have sorted : (rankedFiles disk tree profile subsystems).Perm
      (assessedFiles disk tree profile subsystems) := List.mergeSort_perm _ _
  have parted := ((sorted.map Prod.fst).append_right
    (unreadFiles disk tree profile subsystems)).trans perm_componentFiles
  have once := parted.nodup_iff.2 attributes.nodup
  have unreadable : (scanComponents disk tree profile subsystems).unreadable =
      (unreadFiles disk tree profile subsystems).map tree.relative := by
    rw [unreadFiles, List.map_map]
    rfl
  constructor
  case components => exact components_scanComponents
  case unreadable => exact unreadable
  case once => exact once
  case mem_iff => exact fun place => parted.mem_iff.trans (attributes.mem_map_fst_iff place)
  case assessment =>
    exact fun entry member => isComponentOf_of_mem_assessedFiles (sorted.mem_iff.1 member)
  case undecoded =>
    intro place member
    obtain ⟨file, unread, rfl⟩ := List.mem_map.1 member
    exact assessPlace_eq_none_iff.1 (Option.isNone_iff_eq_none.1 (List.mem_filter.1 unread).2)
  case ordered =>
    have kept := pairwise_mergeSort_kept
      (falling_trans fun entry : Place × ComponentHealth => entry.2.score)
      (falling_total fun entry : Place × ComponentHealth => entry.2.score)
      (pairwise_assessedFiles disk tree profile subsystems)
    exact kept.imp fun ⟨falls, equal⟩ =>
      ⟨of_decide_eq_true falls, fun same => equal (decide_eq_true same.le)⟩
  case apart =>
    intro named
    have shown : (scanComponents disk tree profile subsystems).components.map
        ComponentHealth.path =
          ((rankedFiles disk tree profile subsystems).map Prod.fst).map tree.relative := by
      rw [components_scanComponents, List.map_map, List.map_map]
      refine List.map_congr_left fun entry member => ?_
      obtain ⟨_, _, _, _, made⟩ := isComponentOf_of_mem_assessedFiles (sorted.mem_iff.1 member)
      exact congrArg ComponentHealth.path made
    rw [shown, unreadable, ← List.map_append]
    refine SourceTree.nodup_map_relative once fun place member => named place ?_
    exact ((attributes.mem_map_fst_iff place).1 (parted.mem_iff.1 member)).1

/-- A scan that is returned is the plain one. -/
theorem eq_scanComponents_of_reportComponents {attention : Attention} {scan : ComponentScan}
    (returned : (reportComponents disk tree profile subsystems).result attention = .ok scan) :
    scan = scanComponents disk tree profile subsystems := by
  obtain ⟨_, _, _, further⟩ := Run.ok_of_lift_bind returned
  obtain ⟨_, _, _, further⟩ := Run.ok_of_bind further
  exact (Run.ok_of_pure further).symm

/-- **A scan treats every file of the subsystems once.** With textual settings components are
scanned whenever the source files can be listed.  In every scan that is returned each source file
that a subsystem selects is either listed as unreadable, or one component, assessed for the first
subsystem that selects it; and the components go from high to low scores, those of one score in
the order of their subsystems and of the tree. -/
theorem scan_treats_every_file_once (disk : Disk) (tree : SourceTree) (profile : Profile)
    (subsystems : List (Subsystem Number)) (attention : Attention) :
    (profile.Textual → (∀ subsystem ∈ subsystems, subsystem.Textual) →
      Decided (tree.files? disk) →
      Decided ((reportComponents disk tree profile subsystems).result attention)) ∧
    ∀ scan, (reportComponents disk tree profile subsystems).result attention = .ok scan →
      ∃ assessed unread, ScansOnce disk tree profile subsystems scan assessed unread := by
  constructor
  · intro profileTextual textual listed
    exact ⟨_, (returns_reportComponents_of_textual profileTextual textual listed).result_eq⟩
  · intro scan returned
    rw [eq_scanComponents_of_reportComponents returned]
    exact ⟨_, _, scansOnce_scanComponents disk tree profile subsystems⟩

theorem scan_of_featureSubsystems_treats_every_file_once :
    ({} : Profile).Textual ∧ (∀ subsystem ∈ featureSubsystems, subsystem.Textual) ∧
      Decided (featureTree.files? featureDisk) ∧ ∃ scan assessed unread,
        (reportComponents featureDisk featureTree {} featureSubsystems).result .nothing =
          .ok scan ∧
        ScansOnce featureDisk featureTree {} featureSubsystems scan assessed unread ∧
        scan.components.length = 2 ∧ scan.unreadable = ["payments/b.ts"] := by
  have textual : ∀ subsystem ∈ featureSubsystems, subsystem.Textual := by decide +kernel
  have listed : Decided (featureTree.files? featureDisk) := ⟨_, rfl⟩
  obtain ⟨made, once⟩ :=
    scan_treats_every_file_once featureDisk featureTree {} featureSubsystems .nothing
  obtain ⟨scan, returned⟩ := made Profile.textual_standard textual listed
  obtain ⟨assessed, unread, scans⟩ := once scan returned
  refine ⟨Profile.textual_standard, textual, listed, scan, assessed, unread, returned, scans, ?_⟩
  rw [eq_scanComponents_of_reportComponents returned]
  refine ⟨(List.length_mergeSort _).trans ?_, ?_⟩
  · decide +kernel
  · decide +kernel

end Triage
