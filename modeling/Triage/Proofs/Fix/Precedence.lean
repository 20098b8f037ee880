import Triage.Proofs.Fix.Coverage

/-!
# The order of the plan for the subsystems

A fix of the domain carries the name of a subsystem, and by that name it resolves to the first
subsystem that has it (`FixSuggestion.ResolvesTo`).  The rank of a fix says which one that is and
nothing else (`subsystemRank_spec`), so ranks are in order exactly as tiers and places in the
configuration are (`precedes_of_rankLe`).

The plan for the subsystems is a stable sort by ranks: primary subsystems come before secondary
ones, within a tier the order is that of the configuration, fixes of no subsystem come last, and
fixes of one subsystem keep the order of their diagnostics (`domain_plan_follows_the_subsystems`).
-/

namespace Triage

set_option autoImplicit false

variable {Number : Type} {subsystems : List (Subsystem Number)} {first second fix : FixSuggestion}

/-- A fix resolves to the first subsystem that has its name, which stands at an index. -/
structure FixSuggestion.ResolvesTo (subsystems : List (Subsystem Number)) (fix : FixSuggestion)
    (index : Nat) (subsystem : Subsystem Number) : Prop where
  placed : subsystems[index]? = some subsystem
  named : fix.subsystem = some subsystem.title
  /-- No subsystem before it has the name. -/
  first : ∀ earlier other, earlier < index → subsystems[earlier]? = some other →
    fix.subsystem ≠ some other.title

/-- A fix comes no later than another one: if that one resolves to a subsystem, this one does so
too, to one of a higher tier, or of the same tier and no later in the configuration. -/
def FixSuggestion.Precedes (subsystems : List (Subsystem Number)) (first second : FixSuggestion) :
    Prop :=
  ∀ index subsystem, second.ResolvesTo subsystems index subsystem →
    ∃ earlier other, first.ResolvesTo subsystems earlier other ∧
      (other.tier = .primary ∧ subsystem.tier = .secondary ∨
        other.tier = subsystem.tier ∧ earlier ≤ index)

/-! ## Ranks -/

/-- A tier as the first part of a rank. -/
def Tier.place (tier : Tier) : Nat := if tier = .primary then 0 else 1

/-- **The rank of a fix** is the tier and the index of the subsystem that it resolves to, and
behind all of these when it resolves to none. -/
theorem subsystemRank_spec (subsystems : List (Subsystem Number)) (fix : FixSuggestion) :
    (∃ index subsystem, fix.ResolvesTo subsystems index subsystem ∧
      subsystemRank subsystems fix = (subsystem.tier.place, index)) ∨
    (∀ subsystem ∈ subsystems, fix.subsystem ≠ some subsystem.title) ∧
      subsystemRank subsystems fix = (2, subsystems.length) := by
  unfold subsystemRank
  cases found : subsystems.findIdx? fun subsystem => fix.subsystem = some subsystem.title with
  | none =>
      right
      rw [List.findIdx?_eq_none_iff] at found
      refine ⟨fun subsystem member => ?_, rfl⟩
      simpa using found subsystem member
  | some index =>
      left
      obtain ⟨inside, named, first⟩ := List.findIdx?_eq_some_iff_getElem.1 found
      have placed : subsystems[index]? = some subsystems[index] :=
        List.getElem?_eq_getElem inside
      refine ⟨index, subsystems[index], ⟨placed, of_decide_eq_true named, ?_⟩, ?_⟩
      · intro earlier other before there
        obtain ⟨_, rfl⟩ := List.getElem?_eq_some_iff.1 there
        simpa using first earlier before
      · simp only [placed]
        rfl

/-- A fix resolves to one subsystem at most. -/
theorem FixSuggestion.ResolvesTo.unique {index other : Nat} {subsystem further : Subsystem Number}
    (here : fix.ResolvesTo subsystems index subsystem)
    (there : fix.ResolvesTo subsystems other further) : index = other ∧ subsystem = further := by
  have same : index = other := by
    rcases Nat.lt_trichotomy index other with before | same | behind
    · exact absurd here.named (there.first index subsystem before here.placed)
    · exact same
    · exact absurd there.named (here.first other further behind there.placed)
  subst same
  exact ⟨rfl, Option.some.inj (here.placed.symm.trans there.placed)⟩

theorem subsystemRank_of_resolvesTo {index : Nat} {subsystem : Subsystem Number}
    (resolved : fix.ResolvesTo subsystems index subsystem) :
    subsystemRank subsystems fix = (subsystem.tier.place, index) := by
  rcases subsystemRank_spec subsystems fix with ⟨other, further, again, rank⟩ | ⟨unnamed, _⟩
  · obtain ⟨rfl, rfl⟩ := resolved.unique again
    exact rank
  · exact absurd resolved.named (unnamed subsystem (List.mem_of_getElem? resolved.placed))

/-- The rank of a fix is told by the name that it carries. -/
theorem subsystemRank_congr (same : first.subsystem = second.subsystem) :
    subsystemRank subsystems first = subsystemRank subsystems second := by
  rw [subsystemRank, subsystemRank, same]

theorem rankLe_iff {first second : Nat × Nat} :
    rankLe first second = true ↔
      first.1 < second.1 ∨ first.1 = second.1 ∧ first.2 ≤ second.2 := by
  simp [rankLe]

theorem rankLe_trans (first second third : Nat × Nat) (left : rankLe first second)
    (right : rankLe second third) : rankLe first third := by
  rw [rankLe_iff] at *
  omega

theorem rankLe_total (first second : Nat × Nat) :
    rankLe first second || rankLe second first := by
  rw [Bool.or_eq_true, rankLe_iff, rankLe_iff]
  omega

/-- **Ranks are in order as the subsystems are.** -/
theorem precedes_of_rankLe
    (before : rankLe (subsystemRank subsystems first) (subsystemRank subsystems second) = true) :
    first.Precedes subsystems second := by
  intro index subsystem resolved
  rw [subsystemRank_of_resolvesTo resolved, rankLe_iff] at before
  rcases subsystemRank_spec subsystems first with ⟨earlier, other, found, rank⟩ | ⟨_, rank⟩
  · refine ⟨earlier, other, found, ?_⟩
    rw [rank] at before
    cases here : other.tier <;> cases there : subsystem.tier <;>
      simp [here, there, Tier.place] at before ⊢ <;> omega
  · -- A fix that resolves to no subsystem is behind all that resolve to one.
    rw [rank] at before
    cases there : subsystem.tier <;> simp [there, Tier.place] at before

/-! ## The plan -/

/-- A plan orders the fixes of the domain, which are given in the order of their diagnostics. -/
structure OrdersDomain (subsystems : List (Subsystem Number)) (domain : List FixSuggestion)
    (plan : BatchFixPlan) : Prop where
  reordered : plan.fixes.Perm domain
  ordered : plan.fixes.Pairwise (FixSuggestion.Precedes subsystems)
  /-- The fixes that resolve to no subsystem are those that carry no name. -/
  unnamed : ∀ fix ∈ plan.fixes, fix.subsystem = none ↔
    ∀ index subsystem, ¬ fix.ResolvesTo subsystems index subsystem
  /-- Fixes of one subsystem, or of none, keep their order. -/
  kept : ∀ name, plan.fixes.filter (fun fix => fix.subsystem = name) =
    domain.filter fun fix => fix.subsystem = name

/-- A suggestion that carries a name resolves to a subsystem. -/
theorem subsystem_suggestFix_eq_none_iff {profile : Profile} {diagnostic : Diagnostic} :
    (suggestFix profile subsystems diagnostic).subsystem = none ↔
      ∀ index subsystem,
        ¬ (suggestFix profile subsystems diagnostic).ResolvesTo subsystems index subsystem := by
  constructor
  · intro unnamed index subsystem resolved
    rw [resolved.named] at unnamed
    cases unnamed
  · intro unresolved
    rcases subsystemRank_spec subsystems (suggestFix profile subsystems diagnostic) with
      ⟨index, subsystem, resolved, _⟩ | ⟨foreign, _⟩
    · exact absurd resolved (unresolved index subsystem)
    · rw [subsystem_suggestFix] at foreign ⊢
      split
      · next domain =>
          cases implicated : implicatedSubsystem subsystems diagnostic with
          | none => rfl
          | some subsystem =>
              have among := List.mem_of_find?_eq_some implicated
              exact absurd (by simp [domain, implicated]) (foreign subsystem among)
      · rfl

/-- The plan for the subsystems orders suggestions. -/
theorem ordersDomain_domainPlan (profile : Profile) (subsystems : List (Subsystem Number))
    (diagnostics : List Diagnostic) :
    OrdersDomain subsystems (diagnostics.map (suggestFix profile subsystems))
      (domainPlan subsystems (diagnostics.map (suggestFix profile subsystems))) := by
  have trans (first second third : FixSuggestion) := rankLe_trans (subsystemRank subsystems first)
    (subsystemRank subsystems second) (subsystemRank subsystems third)
  have total (first second : FixSuggestion) := rankLe_total (subsystemRank subsystems first)
    (subsystemRank subsystems second)
  have reordered := List.mergeSort_perm (diagnostics.map (suggestFix profile subsystems))
    fun first second => rankLe (subsystemRank subsystems first) (subsystemRank subsystems second)
  constructor
  case reordered => exact reordered
  case ordered =>
    exact (List.pairwise_mergeSort trans total _).imp precedes_of_rankLe
  case unnamed =>
    intro fix member
    obtain ⟨diagnostic, _, rfl⟩ := List.mem_map.1 (reordered.mem_iff.1 member)
    exact subsystem_suggestFix_eq_none_iff
  case kept =>
    intro name
    apply filter_mergeSort trans total
    -- Fixes with one name have one rank.
    refine List.pairwise_filter.2 (List.pairwise_of_forall fun first second left right => ?_)
    have same : first.subsystem = second.subsystem :=
      (of_decide_eq_true left).trans (of_decide_eq_true right).symm
    rw [subsystemRank_congr same, rankLe_iff]
    exact .inr ⟨rfl, Nat.le_refl _⟩

/-- The suggestions of the domain are those for the diagnostics of the domain. -/
theorem filter_domain_suggestions (profile : Profile) (subsystems : List (Subsystem Number))
    (diagnostics : List Diagnostic) :
    (diagnostics.map (suggestFix profile subsystems)).filter
        (fun suggestion => suggestion.category = .domain) =
      (diagnostics.filter fun diagnostic => diagnostic.category = .domain).map
        (suggestFix profile subsystems) := by
  rw [List.filter_map]
  rfl

/-- There is one plan with the identifier of the plan for the subsystems, if there is a suggestion
of the domain. -/
theorem mem_domainPlans_iff (subsystems : List (Subsystem Number))
    (suggestions : List FixSuggestion) (plan : BatchFixPlan) :
    plan ∈ batchPlans subsystems suggestions ∧ plan.identifier = domainPlanIdentifier ↔
      (suggestions.filter fun suggestion => suggestion.category = .domain) ≠ [] ∧
        plan = domainPlan subsystems
          (suggestions.filter fun suggestion => suggestion.category = .domain) := by
  have told : plan ∈ batchPlans subsystems suggestions ∧ plan.identifier = domainPlanIdentifier ↔
      plan ∈ (batchPlans subsystems suggestions).filter
        fun plan => plan.identifier = domainPlanIdentifier := by
    rw [List.mem_filter, decide_eq_true_eq]
  rw [told, filter_identifier_batchPlans]
  cases suggestions.filter fun suggestion => suggestion.category = .domain with
  | nil => simp
  | cons suggestion rest => simp

/-- **The plan for the subsystems follows the subsystems.** A fix report of textual settings and
diagnostics is always made.  In every report that is made there is a plan for the subsystems
when a diagnostic is of the domain, and it has the suggestions for these diagnostics, those of
primary subsystems first, then those of secondary ones, each in the order of the configuration,
and those of no subsystem last; suggestions for one subsystem are in the order of their
diagnostics. -/
theorem domain_plan_follows_the_subsystems (profile : Profile)
    (subsystems : List (Subsystem Number)) (observedAt : String) (diagnostics : List Diagnostic)
    (attention : Attention) :
    (profile.Textual → (∀ subsystem ∈ subsystems, subsystem.Textual) →
      (∀ diagnostic ∈ diagnostics, diagnostic.Textual) →
      Decided ((reportFixes profile subsystems observedAt diagnostics).result attention)) ∧
    ∀ report,
      (reportFixes profile subsystems observedAt diagnostics).result attention = .ok report →
      ((∃ diagnostic ∈ diagnostics, diagnostic.category = .domain) →
        ∃ plan ∈ report.plans, plan.identifier = "batch_domain_subsystems") ∧
      ∀ plan ∈ report.plans, plan.identifier = "batch_domain_subsystems" →
        OrdersDomain subsystems
          ((diagnostics.filter fun diagnostic => diagnostic.category = .domain).map
            (suggestFix profile subsystems)) plan := by
  refine ⟨decided_reportFixes_of_textual observedAt, fun report returned => ?_⟩
  obtain ⟨_, rfl⟩ := result_reportFixes_eq_ok_iff.1 returned
  refine ⟨fun ⟨diagnostic, member, domain⟩ => ?_, fun plan planned identified => ?_⟩
  · have among : suggestFix profile subsystems diagnostic ∈
        (diagnostics.map (suggestFix profile subsystems)).filter
          fun suggestion => suggestion.category = .domain :=
      List.mem_filter.2 ⟨List.mem_map_of_mem member, decide_eq_true domain⟩
    exact ⟨_, (mem_domainPlans_iff subsystems _ _).2 ⟨List.ne_nil_of_mem among, rfl⟩⟩
  · obtain ⟨_, rfl⟩ := (mem_domainPlans_iff subsystems _ plan).1 ⟨planned, identified⟩
    rw [filter_domain_suggestions]
    exact ordersDomain_domainPlan profile subsystems _

/-- A subsystem of a tier with a name, which is concerned by a keyword. -/
def tieredSubsystem (name keyword : String) (tier : Tier) : Subsystem Nat :=
  { paymentSubsystem with name := .text name, keywords := [.text keyword], tier }

/-- Two subsystems of one name, and a primary one behind them. -/
def tieredSubsystems : List (Subsystem Nat) :=
  [tieredSubsystem "search" "Index" .secondary, tieredSubsystem "search" "Query" .secondary,
    tieredSubsystem "refunds" "Refund" .primary]

/-- Diagnostics of the domain: of no subsystem, of the second search, of refunds and of the first
search. -/
def tieredDiagnostics : List Diagnostic :=
  let diagnostic (line : Int) (message : String) : Diagnostic :=
    { code := .int 2304, message := .text message, file := .text "a.ts", line := .int line
      column := .int 1, severity := .error, category := .domain }
  [diagnostic 1 "Page", diagnostic 2 "Query", diagnostic 3 "Refund", diagnostic 4 "Index"]

theorem tieredDiagnostics_are_planned_by_tier :
    ({} : Profile).Textual ∧ (∀ subsystem ∈ tieredSubsystems, subsystem.Textual) ∧
      (∀ diagnostic ∈ tieredDiagnostics, diagnostic.Textual) ∧ ∃ report,
        (reportFixes {} tieredSubsystems "" tieredDiagnostics).result .nothing = .ok report ∧
        ∃ plan ∈ report.plans, plan.identifier = "batch_domain_subsystems" ∧
          OrdersDomain tieredSubsystems (tieredDiagnostics.map (suggestFix {} tieredSubsystems))
            plan := by
  have subsystems : ∀ subsystem ∈ tieredSubsystems, subsystem.Textual := by decide +kernel
  have diagnostics : ∀ diagnostic ∈ tieredDiagnostics, diagnostic.Textual := by decide +kernel
  obtain ⟨made, follows⟩ :=
    domain_plan_follows_the_subsystems {} tieredSubsystems "" tieredDiagnostics .nothing
  obtain ⟨report, returned⟩ := made Profile.textual_standard subsystems diagnostics
  obtain ⟨planned, orders⟩ := follows report returned
  obtain ⟨plan, member, identified⟩ := planned ⟨_, List.mem_cons_self, rfl⟩
  exact ⟨Profile.textual_standard, subsystems, diagnostics, report, returned, plan, member,
    identified, orders plan member identified⟩

end Triage
