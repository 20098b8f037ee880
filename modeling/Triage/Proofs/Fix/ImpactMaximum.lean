import Triage.Proofs.Fix.Coverage
import Triage.Proofs.Fix.Impact
import Triage.Proofs.Table

/-!
# The impact as a maximum

The impact level of a diagnostic is the maximum over the subsystems that it concerns, so only which
subsystems there are decides it: their order does not count, and further subsystems never lower it
(`impactLevel_perm`, `rank_impactLevel_le`).  The steps against the impact are given with every
level but none.  The flags are recorded by name, and of subsystems that share a name the last one
speaks (`impact_is_the_weightiest_match`).
-/

namespace Triage

set_option autoImplicit false

variable {Number : Type}

/-- **Further subsystems never lower the impact.** -/
theorem rank_impactLevel_le {fewer more : List (Subsystem Number)} (further : fewer ⊆ more)
    (diagnostic : Diagnostic) :
    (impactLevel fewer diagnostic).rank ≤ (impactLevel more diagnostic).rank := by
  have kept (test : Subsystem Number → Bool) (passed : fewer.any test = true) :
      more.any test = true := by
    obtain ⟨subsystem, member, passes⟩ := List.any_eq_true.1 passed
    exact List.any_eq_true.2 ⟨subsystem, further member, passes⟩
  rw [impactLevel_eq, impactLevel_eq]
  split
  · next primary => rw [if_pos (kept _ primary)]
  · split
    · next concerned =>
        rw [if_pos (kept _ concerned)]
        split <;> decide
    · split
      · split
        · decide
        · split <;> decide
      · exact Nat.zero_le _

/-- **The order of the subsystems does not count.** -/
theorem impactLevel_perm {subsystems others : List (Subsystem Number)}
    (reordered : subsystems.Perm others) (diagnostic : Diagnostic) :
    impactLevel subsystems diagnostic = impactLevel others diagnostic := by
  rw [impactLevel_eq, impactLevel_eq, reordered.any_eq, reordered.any_eq]

/-- What the impact of a diagnostic says of the subsystems. -/
structure TellsImpact (subsystems : List (Subsystem Number)) (diagnostic : Diagnostic)
    (analysis : DomainImpactAnalysis) : Prop where
  level : analysis.level =
    if ∃ subsystem ∈ subsystems,
        subsystem.concernedBy diagnostic.message diagnostic.file ∧ subsystem.tier = .primary
    then .significant
    else if ∃ subsystem ∈ subsystems, subsystem.concernedBy diagnostic.message diagnostic.file
    then .moderate
    else if diagnostic.category = .domain then .minimal
    else .none
  reordered : ∀ others : List (Subsystem Number), subsystems.Perm others →
    (analyzeDomainImpact others diagnostic).level = analysis.level
  further : ∀ more : List (Subsystem Number), subsystems ⊆ more →
    analysis.level.rank ≤ (analyzeDomainImpact more diagnostic).level.rank
  mitigated : 3 ≤ analysis.mitigationSteps.length ↔ analysis.level ≠ .none
  unmitigated : analysis.level = .none → analysis.mitigationSteps = []
  /-- Under a name stands the flag of the last subsystem with that name. -/
  affects : ∀ name, analysis.affects.find? name =
    (subsystems.findRev? fun subsystem => subsystem.title == name).map fun subsystem =>
      subsystem.concernedBy diagnostic.message diagnostic.file
  /-- No test fails on texts, so there is an answer. -/
  answered : (∀ subsystem ∈ subsystems, subsystem.Textual) → diagnostic.Textual →
    checkImpact subsystems diagnostic = .ok ()

/-- **The impact is that of the weightiest subsystem that is concerned**, whatever the order of the
subsystems, and with the flag of the last subsystem under each name. -/
theorem impact_is_the_weightiest_match (subsystems : List (Subsystem Number))
    (diagnostic : Diagnostic) :
    TellsImpact subsystems diagnostic (analyzeDomainImpact subsystems diagnostic) where
  level := by
    rw [analyzeDomainImpact, impactLevel_eq]
    simp only [List.any_eq_true, Bool.and_eq_true, decide_eq_true_eq]
  reordered := fun others same => (impactLevel_perm same diagnostic).symm
  further := fun more included => rank_impactLevel_le included diagnostic
  mitigated := by
    simp only [analyzeDomainImpact]
    split
    · next none => simp [none]
    · next some => simp [some]
  unmitigated := fun none => if_pos none
  affects := OrderedMap.find?_ofList Subsystem.title
    (fun subsystem => subsystem.concernedBy diagnostic.message diagnostic.file) subsystems
  answered := fun textual given => checkImpact_of_textual textual given

/-- Two subsystems of one name, of which the last is not concerned, and the one of payments. -/
def namesakes : List (Subsystem Nat) :=
  [{ paymentSubsystem with name := .text "money", tier := .primary },
    { paymentSubsystem with name := .text "money", keywords := [.text "Euro"], globs := [] },
    paymentSubsystem]

/-- A diagnostic that concerns payments. -/
def paymentDiagnostic : Diagnostic :=
  ⟨.int 2322, .text "Type 'Payment' is not assignable.", .text "src/a.ts", .int 1, .int 1, .error,
    .domain⟩

/-- The first namesake gives the level, wherever it stands, and the last one gives the flag. -/
theorem impact_of_namesakes :
    namesakes.Perm namesakes.reverse ∧ [paymentSubsystem] ⊆ namesakes ∧
      (∀ subsystem ∈ namesakes, subsystem.Textual) ∧ paymentDiagnostic.Textual ∧
      (analyzeDomainImpact [paymentSubsystem] paymentDiagnostic).level = .moderate ∧
      (analyzeDomainImpact namesakes paymentDiagnostic).level = .significant ∧
      (analyzeDomainImpact namesakes.reverse paymentDiagnostic).level = .significant ∧
      (analyzeDomainImpact [paymentSubsystem] paymentDiagnostic).level.rank ≤
        (analyzeDomainImpact namesakes paymentDiagnostic).level.rank ∧
      (analyzeDomainImpact namesakes paymentDiagnostic).affects.find? "money" = some false ∧
      3 ≤ (analyzeDomainImpact namesakes paymentDiagnostic).mitigationSteps.length ∧
      checkImpact namesakes paymentDiagnostic = .ok () := by
  have reordered : namesakes.Perm namesakes.reverse := (List.reverse_perm namesakes).symm
  have included : [paymentSubsystem] ⊆ namesakes :=
    List.cons_subset.2 ⟨by simp [namesakes], List.nil_subset _⟩
  have textual : ∀ subsystem ∈ namesakes, subsystem.Textual := by decide
  have given : paymentDiagnostic.Textual := by decide
  have single := impact_is_the_weightiest_match [paymentSubsystem] paymentDiagnostic
  have all := impact_is_the_weightiest_match namesakes paymentDiagnostic
  have level : (analyzeDomainImpact namesakes paymentDiagnostic).level = .significant :=
    all.level.trans (by decide +kernel)
  exact ⟨reordered, included, textual, given, single.level.trans (by decide +kernel), level,
    (all.reordered _ reordered).trans level, single.further _ included,
    (all.affects "money").trans (by decide +kernel), all.mitigated.2 (by rw [level]; decide),
    all.answered textual given⟩

end Triage
