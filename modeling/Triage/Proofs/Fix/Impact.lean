import Triage.Fix.Safety

/-!
# The impact of a diagnostic

The impact level is found by going through the subsystems and keeping the weightier level.
The outcome does not depend on the way: it is at least as weighty as each level and one of
them (`foldl_max_spec`).  So the level of a diagnostic is significant when it concerns a
subsystem of the first tier, moderate when it only concerns others, and minimal when it is
of the domain and concerns none (`impactLevel_eq`).
-/

namespace Triage

set_option autoImplicit false

variable {Number : Type}

namespace ImpactLevel

theorem max_eq (first second : ImpactLevel) :
    (first.max second = first ∨ first.max second = second) ∧
      first.rank ≤ (first.max second).rank ∧ second.rank ≤ (first.max second).rank := by
  unfold ImpactLevel.max
  split
  · exact ⟨.inr rfl, by omega, Nat.le_refl _⟩
  · exact ⟨.inl rfl, Nat.le_refl _, by omega⟩

/-- The weightiest of levels is one of them, and each of them is at most as weighty. -/
theorem foldl_max_spec (levels : List ImpactLevel) (start : ImpactLevel) :
    levels.foldl .max start ∈ start :: levels ∧
      ∀ level ∈ start :: levels, level.rank ≤ (levels.foldl .max start).rank := by
  induction levels generalizing start with
  | nil => simp
  | cons level rest ih =>
      obtain ⟨member, above⟩ := ih (start.max level)
      obtain ⟨either, left, right⟩ := max_eq start level
      have reached := above (start.max level) (by simp)
      rw [List.foldl_cons]
      refine ⟨?_, fun other among => ?_⟩
      · rcases List.mem_cons.1 member with same | further
        · rw [same]
          rcases either with first | second
          · simp [first]
          · simp [second]
        · simp [further]
      · rcases List.mem_cons.1 among with rfl | among
        · exact Nat.le_trans left reached
        · rcases List.mem_cons.1 among with rfl | further
          · exact Nat.le_trans right reached
          · exact above other (by simp [further])

theorem eq_significant_of_rank {level : ImpactLevel} (heavy : 3 ≤ level.rank) :
    level = .significant := by
  cases level <;> simp_all [rank]

/-- The weightiest of levels of tiers is nothing, or what one of the tiers gives. -/
theorem foldl_max_tiers {Item : Type} (tier : Item → Tier) (items : List Item) :
    (items.map fun item => tierImpact (tier item)).foldl ImpactLevel.max .none =
      if items.any fun item => tier item = .primary then ImpactLevel.significant
      else if items.isEmpty then .none else .moderate := by
  obtain ⟨member, above⟩ :=
    foldl_max_spec (items.map fun item => tierImpact (tier item)) .none
  split
  · next some =>
      obtain ⟨item, among, first⟩ := List.any_eq_true.1 some
      refine eq_significant_of_rank (above .significant ?_)
      refine List.mem_cons_of_mem _ (List.mem_map.2 ⟨item, among, ?_⟩)
      rw [of_decide_eq_true first]
      rfl
  · next none =>
      cases items with
      | nil => rfl
      | cons item rest =>
          have secondary : ∀ other ∈ item :: rest, tierImpact (tier other) = .moderate := by
            intro other among
            cases found : tier other with
            | primary => exact absurd (List.any_eq_true.2 ⟨other, among, by simp [found]⟩) none
            | secondary => rfl
          have heavy := above _ (List.mem_cons_of_mem _
            (List.mem_map_of_mem (List.mem_cons_self : item ∈ item :: rest)))
          rw [secondary item List.mem_cons_self] at heavy
          rcases List.mem_cons.1 member with nothing | among
          · rw [nothing] at heavy
            exact absurd heavy (by decide)
          · obtain ⟨other, listed, same⟩ := List.mem_map.1 among
            rw [← same]
            exact secondary other listed

end ImpactLevel

/-- **The impact of a diagnostic** is that of the first tier when it concerns a subsystem of
that tier, else moderate when it concerns any, else minimal when it is of the domain. -/
theorem impactLevel_eq (subsystems : List (Subsystem Number)) (diagnostic : Diagnostic) :
    impactLevel subsystems diagnostic =
      if subsystems.any fun subsystem =>
          subsystem.concernedBy diagnostic.message diagnostic.file && subsystem.tier = .primary
      then ImpactLevel.significant
      else if subsystems.any fun subsystem =>
          subsystem.concernedBy diagnostic.message diagnostic.file
      then ImpactLevel.moderate
      else if diagnostic.category = .domain then ImpactLevel.minimal
      else ImpactLevel.none := by
  have occupied : (subsystems.filter fun subsystem =>
      subsystem.concernedBy diagnostic.message diagnostic.file).isEmpty =
        !subsystems.any fun subsystem =>
          subsystem.concernedBy diagnostic.message diagnostic.file := by
    rw [Bool.eq_iff_iff]
    simp [List.isEmpty_iff]
  unfold impactLevel
  simp only [ImpactLevel.foldl_max_tiers, List.any_filter, occupied]
  split
  · simp
  · split <;> simp_all

/-- The impact is moderate or significant exactly when a subsystem is concerned. -/
theorem impactLevel_concerned_iff (subsystems : List (Subsystem Number))
    (diagnostic : Diagnostic) :
    impactLevel subsystems diagnostic = .moderate ∨
        impactLevel subsystems diagnostic = .significant ↔
      ∃ subsystem ∈ subsystems,
        subsystem.concernedBy diagnostic.message diagnostic.file = true := by
  rw [impactLevel_eq, ← List.any_eq_true]
  split
  · next primary =>
      obtain ⟨subsystem, member, both⟩ := List.any_eq_true.1 primary
      have concerned := (Bool.and_eq_true_iff.1 both).1
      exact iff_of_true (.inr rfl) (List.any_eq_true.2 ⟨subsystem, member, concerned⟩)
  · split
    · next concerned => exact iff_of_true (.inl rfl) concerned
    · next spared =>
        refine iff_of_false ?_ spared
        split <;> simp

/-- Only a diagnostic of the domain that concerns no subsystem has a minimal impact. -/
theorem domain_of_impactLevel_eq_minimal {subsystems : List (Subsystem Number)}
    {diagnostic : Diagnostic} (minimal : impactLevel subsystems diagnostic = .minimal) :
    diagnostic.category = .domain ∧ ¬ ∃ subsystem ∈ subsystems,
      subsystem.concernedBy diagnostic.message diagnostic.file = true := by
  refine ⟨?_, fun concerned => ?_⟩
  · rw [impactLevel_eq] at minimal
    split at minimal
    · cases minimal
    · split at minimal
      · cases minimal
      · split at minimal
        · assumption
        · cases minimal
  · rw [← impactLevel_concerned_iff, minimal] at concerned
    simp at concerned

end Triage
