import Triage.Proofs.Collection.Accounting
import Triage.Proofs.Collection.Reading

/-!
# Designating more subsystems

Of two collections that differ in the designated subsystems alone, the one with more of them has
the same diagnostics and counts, with some categories changed to `domain` and no other change
(`designating_moves_into_the_domain`).

Subsystems are looked at in the first rule of classification and nowhere else on the way to a
diagnostic.  With more subsystems that rule applies to more diagnostics
(`classify_eq_domain_iff`), and where it applies to none, the rules behind it decide, which look
at no subsystem (`classifyBy_tail_classificationRules`).  A diagnostic is kept or dropped by its
file, so both collections keep the same ones (`movesIntoDomain_of_collectRecords`).
-/

namespace Triage

set_option autoImplicit false

variable {Number : Type} {profile : Profile} {fewer more : List (Subsystem Number)}

/-! ## One diagnostic -/

/-- A diagnostic shows the same as another one, and has its category or that of the
subsystems. -/
structure Diagnostic.MovesIntoDomain (before after : Diagnostic) : Prop where
  code : after.code = before.code
  message : after.message = before.message
  file : after.file = before.file
  line : after.line = before.line
  column : after.column = before.column
  severity : after.severity = before.severity
  category : after.category = before.category ∨ after.category = .domain
  /-- What concerns a subsystem stays with the subsystems. -/
  stays : before.category = .domain → after.category = .domain

/-- The rules behind the first one do not look at subsystems. -/
theorem classifyBy_tail_classificationRules (context : RuleContext Number)
    (subsystems : List (Subsystem Number)) :
    classifyBy classificationRules.tail { context with subsystems } =
      classifyBy classificationRules.tail context := rfl

/-- A diagnostic that is not of the domain has its category by the rules behind the first one. -/
theorem classifyBy_tail_of_classify {context : RuleContext Number} {category : Category}
    (classified : classify context = .ok category) (outside : category ≠ .domain) :
    classifyBy classificationRules.tail context = .ok category := by
  unfold classify classifyBy classificationRules at classified
  rw [List.findM?] at classified
  obtain ⟨found, searched, named⟩ := bind_eq_ok.1 classified
  obtain ⟨answer, asked, further⟩ := bind_eq_ok.1 searched
  cases answer with
  | true =>
      cases Except.ok.inj further
      exact absurd (Except.ok.inj named).symm outside
  | false => exact bind_eq_ok.2 ⟨found, further, named⟩

/-- **With more subsystems a category stays or becomes that of the subsystems.** -/
theorem category_of_classify (context : RuleContext Number) {before after : Category}
    (included : fewer ⊆ more)
    (first : classify { context with subsystems := fewer } = .ok before)
    (second : classify { context with subsystems := more } = .ok after) :
    (after = before ∨ after = .domain) ∧ (before = .domain → after = .domain) := by
  have stays : before = .domain → after = .domain := by
    intro domain
    obtain ⟨subsystem, member, concerned⟩ := (classify_eq_domain_iff first).1 domain
    exact (classify_eq_domain_iff second).2 ⟨subsystem, included member, concerned⟩
  refine ⟨?_, stays⟩
  by_cases domain : after = .domain
  · exact .inr domain
  · have left := classifyBy_tail_of_classify first (mt stays domain)
    have right := classifyBy_tail_of_classify second domain
    rw [classifyBy_tail_classificationRules] at left right
    exact .inl (Except.ok.inj (right.symm.trans left))

theorem movesIntoDomain_of_convert {raw : RawDiagnostic} {root : Place}
    {before after : Diagnostic} (included : fewer ⊆ more)
    (first : raw.convert root profile fewer = .ok before)
    (second : raw.convert root profile more = .ok after) : before.MovesIntoDomain after := by
  obtain ⟨_, file, severity, category, named, worded, classified, rfl⟩ :=
    RawDiagnostic.convert_eq_ok_iff.1 first
  obtain ⟨_, _, _, recategory, renamed, reworded, reclassified, rfl⟩ :=
    RawDiagnostic.convert_eq_ok_iff.1 second
  obtain rfl := Except.ok.inj (named.symm.trans renamed)
  obtain rfl := Except.ok.inj (worded.symm.trans reworded)
  obtain ⟨moved, stays⟩ := category_of_classify
    ⟨raw.code, raw.message, .text (projectFile root file), profile, fewer⟩ included classified
    reclassified
  exact ⟨rfl, rfl, rfl, rfl, rfl, rfl, moved, stays⟩

/-- Two diagnostics that move to each other are the same. -/
theorem Diagnostic.MovesIntoDomain.antisymm {before after : Diagnostic}
    (there : before.MovesIntoDomain after) (back : after.MovesIntoDomain before) :
    before = after := by
  have category : before.category = after.category := by
    rcases there.category with same | domain
    · exact same.symm
    · rw [domain, back.stays domain]
  obtain ⟨code, message, file, line, column, severity, word⟩ := before
  obtain ⟨rfl, rfl, rfl, rfl, rfl, rfl, _, _⟩ := there
  obtain rfl : word = after.category := category
  rfl

theorem eq_of_forall₂_movesIntoDomain {before after : List Diagnostic}
    (there : List.Forall₂ Diagnostic.MovesIntoDomain before after)
    (back : List.Forall₂ Diagnostic.MovesIntoDomain after before) : before = after := by
  induction there with
  | nil => rfl
  | cons moves _ ih =>
      cases back with
      | cons returns rest => rw [moves.antisymm returns, ih rest]

/-! ## One report -/

/-- A report is another one with some diagnostics moved into the domain. -/
structure CollectionReport.MovesIntoDomain (before after : CollectionReport) : Prop where
  totalRaw : after.totalRaw = before.totalRaw
  truncated : after.truncated = before.truncated
  skipped : after.skipped = before.skipped
  excluded : after.excludedDependencies = before.excludedDependencies
  diagnostics : List.Forall₂ Diagnostic.MovesIntoDomain before.diagnostics after.diagnostics

/-- A limit keeps as many of two lists that are related item by item. -/
theorem forall₂_keepLimited {related : Diagnostic → Diagnostic → Prop}
    {diagnostics others : List Diagnostic} (limit : Option Int)
    (each : List.Forall₂ related diagnostics others) :
    List.Forall₂ related (keepLimited limit diagnostics) (keepLimited limit others) := by
  unfold keepLimited takeLimited
  split
  · exact each
  · rw [each.length_eq]
    split <;> exact List.forall₂_take _ each

variable {options : Options Number} {root : Place} {records : List RawDiagnostic}

/-- What two conversions of the same records have in common. -/
theorem forall₂_movesIntoDomain {before after : List Diagnostic} (included : fewer ⊆ more)
    (first : (records.mapM fun raw => raw.convert root profile fewer) = .ok before)
    (second : (records.mapM fun raw => raw.convert root profile more) = .ok after) :
    List.Forall₂ Diagnostic.MovesIntoDomain before after := by
  rw [mapM_eq_ok_iff] at first second
  induction first generalizing after with
  | nil =>
      rw [List.forall₂_nil_left_iff] at second
      rw [second]
      exact .nil
  | cons converted _ ih =>
      obtain ⟨other, others, reconverted, further, rfl⟩ := List.forall₂_cons_left_iff.1 second
      exact .cons (movesIntoDomain_of_convert included converted reconverted) (ih further)

/-- A diagnostic is kept or dropped by its file. -/
theorem Diagnostic.MovesIntoDomain.keeps_eq {before after : Diagnostic}
    (moves : before.MovesIntoDomain after) :
    ({ options with subsystems := fewer } : Options Number).keeps before =
      ({ options with subsystems := more } : Options Number).keeps after := by
  rw [Options.keeps, Options.keeps, moves.file]

/-- **Reports of the same records** differ in diagnostics that moved into the domain. -/
theorem movesIntoDomain_of_collectRecords {disk other : Disk} {tree : SourceTree}
    {before after : CollectionReport} (included : fewer ⊆ more)
    (first : collectRecords disk tree profile { options with subsystems := fewer } records =
      .ok before)
    (second : collectRecords other tree profile { options with subsystems := more } records =
      .ok after) : before.MovesIntoDomain after := by
  obtain ⟨converted, images, rfl⟩ := collectRecords_eq_ok_iff.1 first
  obtain ⟨reconverted, further, rfl⟩ := collectRecords_eq_ok_iff.1 second
  have each := forall₂_movesIntoDomain included images further
  have kept : List.Forall₂ Diagnostic.MovesIntoDomain
      (converted.filter ({ options with subsystems := fewer } : Options Number).keeps)
      (reconverted.filter ({ options with subsystems := more } : Options Number).keeps) :=
    List.rel_filter (fun _ _ moves => iff_of_eq (congrArg (· = true) moves.keeps_eq)) each
  have limited := forall₂_keepLimited options.maxDiagnostics kept
  constructor
  case totalRaw => rfl
  case truncated => exact congrArg₂ (· - ·) kept.length_eq.symm limited.length_eq.symm
  case skipped => rfl
  case excluded =>
    exact (countP_eq_of_forall₂ each fun _ _ moves => congrArg (!·) moves.keeps_eq).symm
  case diagnostics => exact limited

/-! ## Whether there is a report -/

/-- A record of the right kinds that is converted with some subsystems is converted with others,
too. -/
theorem decided_convert_of_textual {subsystems others : List (Subsystem Number)}
    {raw : RawDiagnostic} (typed : raw.IsTyped) (profileTextual : profile.Textual)
    (textual : ∀ subsystem ∈ others, subsystem.Textual)
    (converted : Decided (raw.convert root profile subsystems)) :
    Decided (raw.convert root profile others) := by
  obtain ⟨diagnostic, made⟩ := converted
  obtain ⟨complete, file, severity, _, named, worded, _, _⟩ :=
    RawDiagnostic.convert_eq_ok_iff.1 made
  obtain ⟨message, said⟩ := typed.message
  -- A complete record has a code, and a code that is read is a whole number.
  obtain ⟨number, coded⟩ : ∃ number, raw.code = .int number := by
    rcases typed.code with missing | coded
    · simp [RawDiagnostic.isComplete, missing, Value.isNull] at complete
    · exact coded
  obtain ⟨category, classified⟩ :=
    decided_classify profileTextual textual number message (projectFile root file)
  rw [← said, ← coded] at classified
  exact ⟨_, RawDiagnostic.convert_eq_ok_iff.2
    ⟨complete, file, severity, category, named, worded, classified, rfl⟩⟩

/-- A collection of records of the right kinds that returns a report with some subsystems returns
one with other textual ones, too. -/
theorem decided_collect_of_textual {disk : Disk} {tree : SourceTree} {attention : Attention}
    {source : DiagnosticSource} {subsystems others : List (Subsystem Number)}
    (isTyped : source.IsTyped) (profileTextual : profile.Textual)
    (textual : ∀ subsystem ∈ others, subsystem.Textual)
    (decided : Decided ((collect disk tree profile { options with subsystems } source).result
      attention)) :
    Decided ((collect disk tree profile { options with subsystems := others } source).result
      attention) := by
  obtain ⟨report, returned⟩ := decided
  obtain ⟨records, read, collected⟩ := collectRecords_of_collect returned
  have listed := decided_files?_of_collect returned
  obtain ⟨converted, images, _⟩ := collectRecords_eq_ok_iff.1 collected
  obtain ⟨reconverted, further⟩ : Decided ((records.filter RawDiagnostic.isComplete).mapM
      fun raw => raw.convert tree.root profile others) := by
    refine decided_mapM fun raw member => ?_
    have typed := isTyped_of_read isTyped read raw (List.mem_filter.1 member).1
    obtain ⟨diagnostic, _, made⟩ := exists_mem_of_mapM images member
    exact decided_convert_of_textual typed profileTextual textual ⟨diagnostic, made⟩
  have settled : (source.read disk tree.root profile).Returns attention (.ok records) := by
    have settles : (source.read disk tree.root profile).Settles attention :=
      settles_read source disk tree.root profile
    exact read ▸ settles
  obtain ⟨other, recollected⟩ : Decided (collectRecords (source.diskAfter disk tree.root profile)
      tree profile { options with subsystems := others } records) :=
    ⟨_, collectRecords_eq_ok_iff.2 ⟨reconverted, further, rfl⟩⟩
  have optionsTextual : ({ options with subsystems := others } : Options Number).Textual := textual
  exact ⟨other, (returns_collect settled recollected listed optionsTextual).result_eq⟩

/-! ## Two collections -/

/-- **Designating more subsystems only moves diagnostics into the domain.** Of two collections
with the same project, settings and source, of which the second has all subsystems of the first,
the reports have the same counts and the same diagnostics, with categories that are the same or
changed to that of the subsystems; and when the first also has all subsystems of the second, as
when they are in another order, the diagnostics are equal.  With textual settings and records of
the right kinds there is a report of both collections or of neither. -/
theorem designating_moves_into_the_domain (disk : Disk) (tree : SourceTree) (profile : Profile)
    (options : Options Number) (source : DiagnosticSource) (attention : Attention)
    (fewer more : List (Subsystem Number)) (included : fewer ⊆ more) :
    (∀ before after,
      (collect disk tree profile { options with subsystems := fewer } source).result attention =
        .ok before →
      (collect disk tree profile { options with subsystems := more } source).result attention =
        .ok after →
      before.MovesIntoDomain after ∧
        (more ⊆ fewer → before.diagnostics = after.diagnostics)) ∧
    (source.IsTyped → profile.Textual → (∀ subsystem ∈ more, subsystem.Textual) →
      (Decided ((collect disk tree profile { options with subsystems := fewer } source).result
          attention) ↔
        Decided ((collect disk tree profile { options with subsystems := more } source).result
          attention))) := by
  constructor
  · intro before after first second
    obtain ⟨records, read, collected⟩ := collectRecords_of_collect first
    obtain ⟨_, reread, recollected⟩ := collectRecords_of_collect second
    obtain rfl := Except.ok.inj (reread.symm.trans read)
    have moves := movesIntoDomain_of_collectRecords included collected recollected
    refine ⟨moves, fun reordered => ?_⟩
    have back := movesIntoDomain_of_collectRecords reordered recollected collected
    exact eq_of_forall₂_movesIntoDomain moves.diagnostics back.diagnostics
  · intro isTyped profileTextual textual
    exact ⟨decided_collect_of_textual isTyped profileTextual textual,
      decided_collect_of_textual isTyped profileTextual fun subsystem member =>
        textual subsystem (included member)⟩

/-- A record about payments, one about returns, one of a dependency and one that is not
complete. -/
def paidRecords : List RawDiagnostic :=
  let record (message file : String) : RawDiagnostic :=
    { message := .text message, code := .int 2322, file := .text file, line := .int 1
      column := .int 1 }
  [record "Payment" "a.ts", record "Return" "b.ts", record "Return" "node_modules/c.ts",
    .ofMessage "Return"]

/-- Payments, and returns before them. -/
def paymentsAndReturns : List (Subsystem Nat) :=
  [{ paymentSubsystem with name := .text "returns", keywords := [.text "Return"] },
    paymentSubsystem]

/-- A project without files. -/
def emptyTree : SourceTree := .openAt [] [] (.list [])

theorem designating_returns_moves_into_the_domain :
    [paymentSubsystem] ⊆ paymentsAndReturns ∧ ∃ before after,
      (collect .empty emptyTree {} { subsystems := [paymentSubsystem] }
        (.records paidRecords)).result .nothing = .ok before ∧
      (collect .empty emptyTree {} { subsystems := paymentsAndReturns }
        (.records paidRecords)).result .nothing = .ok after ∧
      before.MovesIntoDomain after ∧
      before.diagnostics.map Diagnostic.category = [.domain, .typing] := by
  have included : [paymentSubsystem] ⊆ paymentsAndReturns := by simp [paymentsAndReturns]
  have textual : ∀ subsystem ∈ paymentsAndReturns, subsystem.Textual := by decide +kernel
  have typed : (DiagnosticSource.records paidRecords).IsTyped := by
    intro raw member
    simp only [paidRecords, List.mem_cons, List.not_mem_nil, or_false] at member
    rcases member with rfl | rfl | rfl | rfl
    · exact ⟨Value.isText_text _, .inr ⟨_, rfl⟩⟩
    · exact ⟨Value.isText_text _, .inr ⟨_, rfl⟩⟩
    · exact ⟨Value.isText_text _, .inr ⟨_, rfl⟩⟩
    · exact ⟨Value.isText_text _, .inl rfl⟩
  obtain ⟨before, collected, categories⟩ : ∃ before,
      collectRecords .empty emptyTree {} { subsystems := [paymentSubsystem] } paidRecords =
        .ok before ∧
      decide (before.diagnostics.map Diagnostic.category = [.domain, .typing]) = true :=
    exists_of_any_toOption (by decide +kernel)
  have listed : Decided (emptyTree.files? .empty) := SourceTree.decided_files? rfl ⟨false, rfl⟩
  have read : ((DiagnosticSource.records paidRecords).read .empty emptyTree.root {}).Returns
      .nothing (.ok paidRecords) := Run.returns_pure _
  have returned : (collect .empty emptyTree {} { subsystems := [paymentSubsystem] }
      (.records paidRecords)).result .nothing = .ok before :=
    (returns_collect read collected listed fun subsystem member =>
      textual subsystem (included member)).result_eq
  obtain ⟨moves, either⟩ := designating_moves_into_the_domain .empty emptyTree {} {}
    (.records paidRecords) .nothing [paymentSubsystem] paymentsAndReturns included
  obtain ⟨after, rereturned⟩ := (either typed Profile.textual_standard textual).1 ⟨before, returned⟩
  exact ⟨included, before, after, returned, rereturned, (moves before after returned rereturned).1,
    of_decide_eq_true categories⟩

end Triage
