import Mathlib.Data.List.Basic
import Triage.Display.ReportCard
import Triage.Proofs.Collection.Collecting
import Triage.Proofs.Quality.Attribution
import Triage.Proofs.Quality.Naming
import Triage.Quality.Monitor

/-!
# Making the quality report

A quality report is made in two parts: the metrics, and then the components if they are wanted
(`reportQuality_eq`).  Neither part looks at what was noted before (`settles_reportMetrics`,
`settles_reportScan`), so the result of the report is that of its parts one after the other
(`result_reportQuality`).

The result of a scan of the components only depends on the source files: it is the same on every
disk that holds the same ones (`result_reportComponents_congr`).  With textual settings both parts
come to an end once the source files can be listed (`returns_reportMetrics_of_textual`,
`returns_reportComponents_of_textual`).
-/

namespace Triage

set_option autoImplicit false

variable {Number : Type} {attention : Attention}

/-! ## Two parts -/

/-- Measure quality and note what could not be read, without a look at the components. -/
def reportMetrics (disk : Disk) (scope : QualityScope Float) (diagnostics : List Diagnostic)
    (patterns : List ErrorPattern) : Run (QualityMetrics Float) := do
  let files ← (scope.tree.files? disk : Except Failure (List Place))
  checkFileNames diagnostics
  if scope.settings.complexity.isNone then
    for place in unreadablePlaces disk files do
      Run.warn ("Skipping unreadable file for complexity estimate: " ++ (Path.ofPlace place).text)
  scope.subsystems.forM (noteSubsystem disk scope.tree diagnostics)
  Marker.checkHits scope.profile.permissiveMarkers (diagnostics.map Diagnostic.message)
  let metrics := measureQuality disk scope diagnostics patterns
  checkNamed metrics.domain scope.subsystems
  Run.info ("Overall quality " ++ Decimal.fixed 1 metrics.overall.score ++ " (" ++
    metrics.overall.grade ++ ")")
  return metrics

/-- Scan the components and note how many of them could not be read. -/
def reportScan (disk : Disk) (scope : QualityScope Float) : Run ComponentScan := do
  let scan ← reportComponents disk scope.tree scope.profile scope.subsystems
  if !scan.unreadable.isEmpty then
    Run.warn (toString scan.unreadable.length ++ " component files could not be read")
  return scan

theorem reportQuality_eq (disk : Disk) (scope : QualityScope Float) (observedAt : String)
    (diagnostics : List Diagnostic) (patterns : List ErrorPattern) (withComponents : Bool) :
    reportQuality disk scope observedAt diagnostics patterns withComponents = (do
      let metrics ← reportMetrics disk scope diagnostics patterns
      if withComponents then
        let scan ← reportScan disk scope
        return ⟨metrics, some scan, observedAt⟩
      else return ⟨metrics, none, observedAt⟩) := by
  unfold reportQuality reportMetrics reportScan
  simp only [Run.ite_bind, bind_assoc, pure_bind]

/-! ## The parts settle -/

theorem settles_noteSubsystem [Scalar Number] (disk : Disk) (tree : SourceTree)
    (diagnostics : List Diagnostic) (subsystem : Subsystem Number) :
    (noteSubsystem disk tree diagnostics subsystem).Settles attention := by
  refine (Run.settles_lift _).bind fun _ => ?_
  simp only
  split
  · exact (Run.settles_note .info _).bind fun _ => Run.settles_lift _
  · exact (Run.settles_lift _).bind fun _ => Run.settles_lift _

theorem settles_reportMetrics (disk : Disk) (scope : QualityScope Float)
    (diagnostics : List Diagnostic) (patterns : List ErrorPattern) :
    (reportMetrics disk scope diagnostics patterns).Settles attention := by
  refine (Run.settles_lift _).bind fun files => (Run.settles_lift _).bind fun _ => ?_
  refine Run.Settles.bind_ite (Run.settles_forIn _ fun place => Run.settles_note .warning _) ?_
  refine (Run.settles_forM _ fun subsystem => settles_noteSubsystem _ _ _ subsystem).bind
    fun _ => ?_
  exact (Run.settles_lift _).bind fun _ => (Run.settles_lift _).bind fun _ =>
    (Run.settles_note .info _).bind fun _ => Run.settles_pure _

theorem settles_noteComponents (disk : Disk) (tree : SourceTree) (subsystem : Subsystem Number)
    (places : List Place) :
    (noteComponents disk tree subsystem places).Settles attention := by
  induction places with
  | nil => exact Run.settles_pure ()
  | cons place rest ih =>
      unfold noteComponents
      cases disk.readSource place with
      | ok text => exact (Run.settles_lift _).bind fun _ => ih
      | error failure => exact (Run.settles_note .warning _).bind fun _ => ih

theorem settles_noteScan (disk : Disk) (tree : SourceTree) (seen : List Place)
    (subsystems : List (Subsystem Number)) :
    (noteScan disk tree seen subsystems).Settles attention := by
  induction subsystems generalizing seen with
  | nil => exact Run.settles_pure ()
  | cons subsystem rest ih =>
      exact (Run.settles_lift _).bind fun _ =>
        (settles_noteComponents disk tree subsystem _).bind fun _ => ih _

theorem settles_reportComponents (disk : Disk) (tree : SourceTree) (profile : Profile)
    (subsystems : List (Subsystem Number)) :
    (reportComponents disk tree profile subsystems).Settles attention :=
  (Run.settles_lift _).bind fun _ => (settles_noteScan disk tree [] subsystems).bind fun _ =>
    Run.settles_pure _

/-- Of a place only matters whether its file can be read. -/
theorem result_noteComponents_cons (disk : Disk) (tree : SourceTree) (subsystem : Subsystem Number)
    (place : Place) (rest : List Place) :
    (noteComponents disk tree subsystem (place :: rest)).result attention =
      match disk.readSource place with
      | .ok _ => do
          checkTerms subsystem
          (noteComponents disk tree subsystem rest).result attention
      | .error _ => (noteComponents disk tree subsystem rest).result attention := by
  have behind : (noteComponents disk tree subsystem rest).Returns attention _ :=
    settles_noteComponents disk tree subsystem rest
  rw [noteComponents]
  cases disk.readSource place with
  | ok text => exact Run.result_bind fun _ => behind
  | error failure => exact ((Run.returns_note .warning _).bind behind).result_eq

theorem result_noteScan_cons (disk : Disk) (tree : SourceTree) (seen : List Place)
    (subsystem : Subsystem Number) (rest : List (Subsystem Number)) :
    let found := (tree.filesFor disk subsystem).filter fun place => !seen.contains place
    (noteScan disk tree seen (subsystem :: rest)).result attention = (do
      tree.checkFilesFor disk subsystem
      (noteComponents disk tree subsystem found).result attention
      (noteScan disk tree (seen ++ found) rest).result attention) := by
  intro found
  rw [noteScan]
  exact Run.result_bind fun _ =>
    Run.returns_bind (settles_noteComponents disk tree subsystem found) fun _ =>
      settles_noteScan disk tree (seen ++ found) rest

theorem result_reportComponents (disk : Disk) (tree : SourceTree) (profile : Profile)
    (subsystems : List (Subsystem Number)) :
    (reportComponents disk tree profile subsystems).result attention = (do
      checkMarkers profile
      (noteScan disk tree [] subsystems).result attention
      return scanComponents disk tree profile subsystems) :=
  Run.result_bind fun _ =>
    Run.returns_bind (settles_noteScan disk tree [] subsystems) fun _ => Run.returns_pure _

theorem settles_reportScan (disk : Disk) (scope : QualityScope Float) :
    (reportScan disk scope).Settles attention :=
  (settles_reportComponents _ _ _ _).bind fun scan =>
    Run.Settles.bind_ite (Run.settles_note .warning _) (Run.settles_pure scan)

/-- How many components could not be read is only noted. -/
theorem result_reportScan (disk : Disk) (scope : QualityScope Float) :
    (reportScan disk scope).result attention =
      (reportComponents disk scope.tree scope.profile scope.subsystems).result attention := by
  have kept (scan : ComponentScan) :
      (if !scan.unreadable.isEmpty then do
          Run.warn (toString scan.unreadable.length ++ " component files could not be read")
          return scan
        else return scan : Run ComponentScan).Returns attention (.ok scan) :=
    Run.Returns.bind_ite (Run.returns_note .warning _) (Run.returns_pure scan)
  exact (Run.result_bind kept).trans (bind_pure _)

/-- The result of a quality report: the metrics come first, then the components if they are
wanted. -/
theorem result_reportQuality (disk : Disk) (scope : QualityScope Float) (observedAt : String)
    (diagnostics : List Diagnostic) (patterns : List ErrorPattern) (withComponents : Bool) :
    (reportQuality disk scope observedAt diagnostics patterns withComponents).result attention =
      (do
        let metrics ← (reportMetrics disk scope diagnostics patterns).result attention
        if withComponents then
          let scan ← (reportComponents disk scope.tree scope.profile scope.subsystems).result
            attention
          return ⟨metrics, some scan, observedAt⟩
        else return ⟨metrics, none, observedAt⟩) := by
  rw [reportQuality_eq]
  cases withComponents with
  | false => exact Run.result_bind fun metrics => Run.returns_pure _
  | true =>
      refine Run.result_bind fun metrics => ?_
      rw [← result_reportScan]
      exact Run.returns_bind (settles_reportScan disk scope) fun scan => Run.returns_pure _

theorem settles_reportQuality (disk : Disk) (scope : QualityScope Float) (observedAt : String)
    (diagnostics : List Diagnostic) (patterns : List ErrorPattern) (withComponents : Bool) :
    (reportQuality disk scope observedAt diagnostics patterns withComponents).Settles
      attention := by
  rw [reportQuality_eq]
  refine (settles_reportMetrics disk scope diagnostics patterns).bind fun metrics => ?_
  cases withComponents with
  | false => exact Run.settles_pure _
  | true => exact (settles_reportScan disk scope).bind fun scan => Run.settles_pure _

/-- Metrics that are returned are the plain ones. -/
theorem metrics_of_reportMetrics {disk : Disk} {scope : QualityScope Float}
    {diagnostics : List Diagnostic} {patterns : List ErrorPattern} {metrics : QualityMetrics Float}
    (returned : (reportMetrics disk scope diagnostics patterns).result attention = .ok metrics) :
    metrics = measureQuality disk scope diagnostics patterns := by
  obtain ⟨_, _, _, further⟩ := Run.ok_of_lift_bind returned
  obtain ⟨_, _, _, further⟩ := Run.ok_of_lift_bind further
  obtain ⟨_, further⟩ := Run.ok_of_bind_ite further
  obtain ⟨_, _, _, further⟩ := Run.ok_of_bind further
  obtain ⟨_, _, _, further⟩ := Run.ok_of_lift_bind further
  obtain ⟨_, _, _, further⟩ := Run.ok_of_lift_bind further
  obtain ⟨_, _, _, further⟩ := Run.ok_of_bind further
  exact (Run.ok_of_pure further).symm

/-! ## Disks with the same source files -/

/-- Two disks hold the same source files of a tree, with the same texts. -/
structure SourceTree.SameSources (tree : SourceTree) (disk other : Disk) : Prop where
  listing : tree.files? other = tree.files? disk
  files : tree.files other = tree.files disk
  texts : ∀ place ∈ tree.files disk, other.readSource place = disk.readSource place

theorem SourceTree.sameSources_refl (tree : SourceTree) (disk : Disk) :
    tree.SameSources disk disk := ⟨rfl, rfl, fun _ _ => rfl⟩

section SameSources

variable {tree : SourceTree} {disk other : Disk}

theorem mem_files_of_mem_filesFor {subsystem : Subsystem Number} {place : Place}
    (member : place ∈ tree.filesFor disk subsystem) : place ∈ tree.files disk :=
  (List.mem_filter.1 member).1

/-- Components are source files. -/
theorem mem_files_of_mem_componentFiles {subsystems : List (Subsystem Number)}
    {file : Place × Subsystem Number}
    (member : file ∈ componentFiles disk tree subsystems) : file.1 ∈ tree.files disk :=
  (((attributesFiles_componentFiles disk tree subsystems).mem_iff _ _).1 member).1

variable (same : tree.SameSources disk other)
include same

theorem filesFor_congr (subsystem : Subsystem Number) :
    tree.filesFor other subsystem = tree.filesFor disk subsystem := by
  rw [SourceTree.filesFor, same.files]
  rfl

theorem checkFilesFor_congr (subsystem : Subsystem Number) :
    tree.checkFilesFor other subsystem = tree.checkFilesFor disk subsystem := by
  rw [SourceTree.checkFilesFor, same.listing]
  rfl

theorem result_noteComponents_congr (subsystem : Subsystem Number) {places : List Place}
    (known : places ⊆ tree.files disk) :
    (noteComponents other tree subsystem places).result attention =
      (noteComponents disk tree subsystem places).result attention := by
  induction places with
  | nil => rfl
  | cons place rest ih =>
      obtain ⟨here, behind⟩ := List.cons_subset.1 known
      rw [result_noteComponents_cons, result_noteComponents_cons, same.texts place here, ih behind]

theorem result_noteScan_congr (seen : List Place) (subsystems : List (Subsystem Number)) :
    (noteScan other tree seen subsystems).result attention =
      (noteScan disk tree seen subsystems).result attention := by
  induction subsystems generalizing seen with
  | nil => rfl
  | cons subsystem rest ih =>
      rw [result_noteScan_cons, result_noteScan_cons]
      simp only [checkFilesFor_congr same, filesFor_congr same, ih]
      rw [result_noteComponents_congr same]
      exact fun place member => mem_files_of_mem_filesFor (List.mem_filter.1 member).1

theorem scanComponents_congr (profile : Profile) (subsystems : List (Subsystem Number)) :
    scanComponents other tree profile subsystems = scanComponents disk tree profile subsystems := by
  have files : componentFiles other tree subsystems = componentFiles disk tree subsystems := by
    simp only [componentFiles, filesFor_congr same]
  have assessed : ∀ file ∈ componentFiles disk tree subsystems,
      assessPlace other tree profile file.1 file.2 =
        assessPlace disk tree profile file.1 file.2 := fun file member => by
    rw [assessPlace, assessPlace, same.texts _ (mem_files_of_mem_componentFiles member)]
  have components := List.filterMap_congr assessed
  have unreadable : (componentFiles disk tree subsystems).filter (fun file =>
        (assessPlace other tree profile file.1 file.2).isNone) =
      (componentFiles disk tree subsystems).filter fun file =>
        (assessPlace disk tree profile file.1 file.2).isNone :=
    List.filter_congr fun file member => by rw [assessed file member]
  simp only [scanComponents, files, components, unreadable]

/-- **The result of a scan of the components only depends on the source files.**  What is noted
about a file that cannot be read may differ. -/
theorem result_reportComponents_congr (profile : Profile) (subsystems : List (Subsystem Number)) :
    (reportComponents other tree profile subsystems).result attention =
      (reportComponents disk tree profile subsystems).result attention := by
  rw [result_reportComponents, result_reportComponents, result_noteScan_congr same,
    scanComponents_congr same]

end SameSources

/-! ## Textual settings -/

section Textual

variable {disk : Disk} {tree : SourceTree} {profile : Profile} {diagnostics : List Diagnostic}
  {subsystems : List (Subsystem Number)}

theorem checkFileNames_of_textual (textual : ∀ diagnostic ∈ diagnostics, diagnostic.Textual) :
    checkFileNames diagnostics = .ok () := by
  refine forM_eq_ok_iff.2 fun diagnostic member => ?_
  obtain ⟨content, written⟩ := (textual diagnostic member).file
  simp [written, Value.namesEntry]

theorem checkHits_of_textual (profileTextual : profile.Textual)
    (textual : ∀ diagnostic ∈ diagnostics, diagnostic.Textual) :
    Marker.checkHits profile.permissiveMarkers (diagnostics.map Diagnostic.message) = .ok () := by
  refine forM_eq_ok_iff.2 fun marker listed => forM_eq_ok_iff.2 fun text member => ?_
  obtain ⟨diagnostic, among, rfl⟩ := List.mem_map.1 member
  obtain ⟨word, rfl⟩ := profileTextual.permissive marker listed
  obtain ⟨content, written⟩ := (textual diagnostic among).message
  rw [written, Marker.mention?_text]
  rfl

theorem returns_noteSubsystem_of_textual [Scalar Number] {subsystem : Subsystem Number}
    (subsystemTextual : subsystem.Textual) (listed : Decided (tree.files? disk))
    (textual : ∀ diagnostic ∈ diagnostics, diagnostic.Textual) :
    (noteSubsystem disk tree diagnostics subsystem).Returns attention (.ok ()) := by
  unfold noteSubsystem
  rw [subsystemTextual.checkFilesFor listed, subsystemTextual.checkEntry]
  refine (Run.returns_lift (.ok ())).bind ?_
  simp only
  split
  · obtain ⟨content, named⟩ := subsystemTextual.name
    rw [named, Value.checkShown_text]
    exact (Run.returns_note .info _).bind (Run.returns_lift _)
  · rw [subsystemTextual.checkConcerns textual]
    exact (Run.returns_lift (.ok ())).bind (Run.returns_lift _)

theorem checkNamed_of_textual [Scalar Number]
    (subsystemsTextual : ∀ subsystem ∈ subsystems, subsystem.Textual)
    {weights : Weights Number} (diagnostics : List Diagnostic) :
    checkNamed (domainHealth disk tree weights subsystems diagnostics) subsystems = .ok () := by
  refine bind_eq_ok.2 ⟨(), forM_eq_ok_iff.2 fun subsystem member => ?_,
    forM_eq_ok_iff.2 fun name member => ?_⟩
  · obtain ⟨content, named⟩ := (subsystemsTextual subsystem member).name
    rw [named, Value.checkShown_text]
    split <;> rfl
  · -- Names without files are names of subsystems.
    obtain ⟨entry, among, rfl⟩ := List.mem_map.1 member
    obtain ⟨subsystem, given, rfl⟩ := List.mem_map.1 (List.mem_filter.1 among).1
    obtain ⟨content, named⟩ := (subsystemsTextual subsystem given).name
    simp only
    rw [named]
    rfl

/-- Quality can be measured with textual settings once the source files are listed. -/
theorem returns_reportMetrics_of_textual (scope : QualityScope Float)
    (profileTextual : scope.profile.Textual)
    (subsystemsTextual : ∀ subsystem ∈ scope.subsystems, subsystem.Textual)
    (listed : Decided (scope.tree.files? disk))
    (textual : ∀ diagnostic ∈ diagnostics, diagnostic.Textual) (patterns : List ErrorPattern) :
    (reportMetrics disk scope diagnostics patterns).Returns attention
      (.ok (measureQuality disk scope diagnostics patterns)) := by
  have noted : (scope.subsystems.forM (noteSubsystem disk scope.tree diagnostics)).Returns
      attention (.ok ()) := Run.returns_forM fun subsystem member =>
    returns_noteSubsystem_of_textual (subsystemsTextual subsystem member) listed textual
  have named : checkNamed (measureQuality disk scope diagnostics patterns).domain
      scope.subsystems = .ok () := checkNamed_of_textual subsystemsTextual diagnostics
  obtain ⟨places, found⟩ := listed
  unfold reportMetrics
  simp only
  rw [found, checkFileNames_of_textual textual, checkHits_of_textual profileTextual textual, named]
  refine (Run.returns_lift (.ok places)).bind ((Run.returns_lift (.ok ())).bind
    (Run.Returns.bind_ite (Run.returns_forIn _ _ fun place => Run.returns_note .warning _) ?_))
  exact noted.bind ((Run.returns_lift (.ok ())).bind
    ((Run.returns_lift (.ok ())).bind ((Run.returns_note .info _).bind (Run.returns_pure _))))

/-- What is recommended is said in the standard words, or in those of a subsystem. -/
theorem checkShown_of_mem_qualityRecommendations [Scalar Number] {code : CodeHealth Number}
    {domain : DomainHealth Number} {security : SecurityAssessment Number}
    (shown : ∀ subsystem ∈ subsystems, subsystem.recommendation.checkShown = .ok ())
    {recommendation : QualityRecommendation}
    (member : recommendation ∈ qualityRecommendations subsystems code domain security) :
    recommendation.description.checkShown = .ok () := by
  simp only [qualityRecommendations, codeRecommendations, domainRecommendations,
    subsystemRecommendation, securityRecommendations, List.mem_mergeSort, List.mem_append,
    List.mem_flatMap, List.mem_ite_nil_left, List.mem_ite_nil_right, List.mem_singleton] at member
  rcases member with ((⟨_, rfl⟩ | ⟨_, rfl⟩) | (⟨subsystem, among, _, rfl⟩ | ⟨_, rfl⟩) | ⟨_, rfl⟩) |
    ⟨_, rfl⟩ | ⟨_, rfl⟩
  case inl.inr.inl.inl =>
    simp only
    split
    · exact shown subsystem among
    · exact Value.checkShown_text _
  all_goals exact Value.checkShown_text _

/-- The report card can be made when the names of the subsystems are texts and what is recommended
for them can be shown. -/
theorem checkCard_measureQuality (scope : QualityScope Float)
    (subsystemsTextual : ∀ subsystem ∈ scope.subsystems, subsystem.Textual)
    (shown : ∀ subsystem ∈ scope.subsystems, subsystem.recommendation.checkShown = .ok ())
    (diagnostics : List Diagnostic) (patterns : List ErrorPattern) :
    Display.checkCard (measureQuality disk scope diagnostics patterns) = .ok () := by
  refine bind_eq_ok.2 ⟨(), forM_eq_ok_iff.2 fun name member => ?_,
    forM_eq_ok_iff.2 fun recommendation member =>
      checkShown_of_mem_qualityRecommendations shown member⟩
  obtain ⟨subsystem, given, rfl⟩ : ∃ subsystem ∈ scope.subsystems, subsystem.name = name := by
    -- The scores stand under the names of the subsystems.
    change name ∈ (domainHealth disk scope.tree scope.settings.weights scope.subsystems
      diagnostics).subsystems.keys at member
    rw [subsystems_domainHealth, OrderedMap.keys_ofList, List.map_map] at member
    exact List.mem_map.1 (mem_of_mem_eraseDups member)
  obtain ⟨content, named⟩ := (subsystemsTextual subsystem given).name
  rw [named]
  exact Value.checkShown_text content

theorem checkMarkers_of_texts (texts : ∀ marker ∈ profile.permissiveMarkers, marker.IsText) :
    checkMarkers profile = .ok () := by
  refine forM_eq_ok_iff.2 fun marker member => ?_
  obtain ⟨content, rfl⟩ := texts marker member
  rfl

theorem checkTerms_of_textual {subsystem : Subsystem Number}
    (subsystemTextual : subsystem.Textual) : checkTerms subsystem = .ok () := by
  refine forM_eq_ok_iff.2 fun term member => ?_
  obtain ⟨content, rfl⟩ : term.IsText := by
    rcases List.mem_cons.1 member with rfl | keyword
    · exact subsystemTextual.name
    · exact subsystemTextual.keywords term keyword
  rfl

theorem returns_noteComponents_of_textual {subsystem : Subsystem Number}
    (subsystemTextual : subsystem.Textual) (places : List Place) :
    (noteComponents disk tree subsystem places).Returns attention (.ok ()) := by
  induction places with
  | nil => exact Run.returns_pure ()
  | cons place rest ih =>
      unfold noteComponents
      cases disk.readSource place with
      | ok text =>
          simp only
          rw [checkTerms_of_textual subsystemTextual]
          exact (Run.returns_lift (.ok ())).bind ih
      | error failure => exact (Run.returns_note .warning _).bind ih

theorem returns_noteScan_of_textual (listed : Decided (tree.files? disk)) (seen : List Place)
    (subsystemsTextual : ∀ subsystem ∈ subsystems, subsystem.Textual) :
    (noteScan disk tree seen subsystems).Returns attention (.ok ()) := by
  induction subsystems generalizing seen with
  | nil => exact Run.returns_pure ()
  | cons subsystem rest ih =>
      have here := subsystemsTextual subsystem (by simp)
      unfold noteScan
      rw [here.checkFilesFor listed]
      exact (Run.returns_lift (.ok ())).bind ((returns_noteComponents_of_textual here _).bind
        (ih _ fun other member => subsystemsTextual other (by simp [member])))

/-- Components can be scanned with textual settings once the source files are listed. -/
theorem returns_reportComponents_of_textual (profileTextual : profile.Textual)
    (subsystemsTextual : ∀ subsystem ∈ subsystems, subsystem.Textual)
    (listed : Decided (tree.files? disk)) :
    (reportComponents disk tree profile subsystems).Returns attention
      (.ok (scanComponents disk tree profile subsystems)) := by
  unfold reportComponents
  rw [checkMarkers_of_texts profileTextual.permissive]
  exact (Run.returns_lift (.ok ())).bind
    ((returns_noteScan_of_textual listed [] subsystemsTextual).bind (Run.returns_pure _))

end Textual

end Triage
