import Mathlib.Algebra.GroupWithZero.Nat
import Mathlib.Data.List.Perm.Subperm
import Triage.Pattern.Recognition
import Triage.Proofs.Pattern.Identifier

/-!
# The pattern of the subsystems

The pattern that gathers the diagnostics of subsystems is told by its identifier, which no
other pattern is given, because it is taken from the start
(`filter_identifier_findPatterns`).  It is there when some diagnostic concerns a subsystem,
and its frequency is the number of such diagnostics, each counted once, however many
subsystems it concerns (`concernCount_le`, `countP_concernsAny_le_sum`).
-/

namespace Triage

set_option autoImplicit false

variable {Number : Type}

/-! ## Telling the pattern by its identifier -/

/-- The pattern of a group has an identifier that was not taken. -/
theorem not_contains_of_mem_patternsOfGroups {subsystems : List (Subsystem Number)}
    {taken : TakenIdentifiers} (sound : taken.Sound) {groups : List (String × List Diagnostic)}
    {pattern : ErrorPattern} (member : pattern ∈ patternsOfGroups subsystems taken groups) :
    taken.contains pattern.identifier = false := by
  induction groups generalizing taken with
  | nil => cases member
  | cons group rest ih =>
      obtain ⟨said, group⟩ := group
      rw [patternsOfGroups] at member
      split at member
      · exact ih sound member
      · rcases List.mem_cons.1 member with rfl | further
        · exact sound.not_contains_fresh _
        · have behind := ih (sound.fresh _) further
          rw [sound.contains_fresh, Bool.or_eq_false_iff] at behind
          exact behind.2

/-- The table in which only the identifier of the gathering pattern is taken. -/
theorem sound_reserved : TakenIdentifiers.Sound (.ofList [(gatheringIdentifier, 1)]) := by
  intro identifier count found
  change (if gatheringIdentifier == identifier then some 1 else none) = some count at found
  split at found
  · exact Int.le_of_eq (Option.some.inj found)
  · cases found

/-- No pattern of a group has the identifier of the gathering pattern. -/
theorem identifier_ne_gatheringIdentifier {subsystems : List (Subsystem Number)}
    {groups : List (String × List Diagnostic)} {pattern : ErrorPattern}
    (member : pattern ∈ patternsOfGroups subsystems (.ofList [(gatheringIdentifier, 1)]) groups) :
    pattern.identifier ≠ gatheringIdentifier := by
  intro same
  have free := not_contains_of_mem_patternsOfGroups sound_reserved member
  rw [same] at free
  exact absurd free (by decide)

theorem identifier_of_gatheringPattern {subsystems : List (Subsystem Number)}
    {diagnostics : List Diagnostic} {pattern : ErrorPattern}
    (gathered : gatheringPattern subsystems diagnostics = some pattern) :
    pattern.identifier = gatheringIdentifier := by
  obtain ⟨_, made⟩ := Option.ite_none_left_eq_some.1 gathered
  rw [← Option.some.inj made]

/-- **The identifier tells the gathering pattern from all others.** -/
theorem filter_identifier_findPatterns (subsystems : List (Subsystem Number))
    (diagnostics : List Diagnostic) :
    (findPatterns subsystems diagnostics).filter
        (fun pattern => pattern.identifier = gatheringIdentifier) =
      (gatheringPattern subsystems diagnostics).toList := by
  have others : (patternsOfGroups subsystems (.ofList [(gatheringIdentifier, 1)])
      (groupByMessage diagnostics).bindings).filter
        (fun pattern => pattern.identifier = gatheringIdentifier) = [] := by
    rw [List.filter_eq_nil_iff]
    intro pattern member
    simpa using identifier_ne_gatheringIdentifier member
  have sorted : ((findPatterns subsystems diagnostics).filter
      fun pattern => pattern.identifier = gatheringIdentifier).Perm
        (((gatheringPattern subsystems diagnostics).toList).filter
          fun pattern => pattern.identifier = gatheringIdentifier) := by
    have permuted := (List.mergeSort_perm _ _ :
      (findPatterns subsystems diagnostics).Perm _).filter
        fun pattern => decide (pattern.identifier = gatheringIdentifier)
    rwa [List.filter_append, others, List.nil_append] at permuted
  cases gathered : gatheringPattern subsystems diagnostics with
  | none =>
      rw [gathered] at sorted
      exact List.perm_nil.1 sorted
  | some pattern =>
      have told := identifier_of_gatheringPattern gathered
      rw [gathered, Option.toList_some, List.filter_cons_of_pos (by simpa using told),
        List.filter_nil] at sorted
      exact List.perm_singleton.1 sorted

/-! ## Counting the diagnostics of subsystems -/

/-- A diagnostic concerns one of the subsystems. -/
theorem concernsAny_iff {subsystems : List (Subsystem Number)} {diagnostic : Diagnostic} :
    concernsAny subsystems diagnostic = true ↔ ∃ subsystem ∈ subsystems,
      subsystem.concernedBy diagnostic.message diagnostic.file = true :=
  List.any_eq_true

/-- The frequency of the gathering pattern is the number of diagnostics of subsystems, and
without any there is no such pattern. -/
theorem frequencies_gatheringPattern (subsystems : List (Subsystem Number))
    (diagnostics : List Diagnostic) :
    (gatheringPattern subsystems diagnostics).toList.map ErrorPattern.frequency =
      if diagnostics.countP (concernsAny subsystems) = 0 then []
      else [(diagnostics.countP (concernsAny subsystems) : Int)] := by
  unfold gatheringPattern
  rw [List.countP_eq_length_filter]
  cases diagnostics.filter (concernsAny subsystems) with
  | nil => rfl
  | cons diagnostic rest => simp

/-- The diagnostics of one subsystem are among those of all. -/
theorem concernCount_le {subsystems : List (Subsystem Number)} {subsystem : Subsystem Number}
    (member : subsystem ∈ subsystems) (diagnostics : List Diagnostic) :
    concernCount subsystem diagnostics ≤ diagnostics.countP (concernsAny subsystems) :=
  List.countP_mono_left fun _ _ concerned => concernsAny_iff.2 ⟨subsystem, member, concerned⟩

/-- Among further diagnostics those of a subsystem are not fewer. -/
theorem concernCount_le_of_subperm {fewer more : List Diagnostic} (further : fewer.Subperm more)
    (subsystem : Subsystem Number) :
    concernCount subsystem fewer ≤ concernCount subsystem more :=
  further.countP_le _

theorem countP_or_le {Item : Type} (first second : Item → Bool) (items : List Item) :
    items.countP (fun item => first item || second item) ≤
      items.countP first + items.countP second := by
  induction items with
  | nil => simp
  | cons item rest ih =>
      simp only [List.countP_cons]
      cases first item <;> cases second item <;> simp <;> omega

/-- Every diagnostic of subsystems is counted for one of them at least. -/
theorem countP_concernsAny_le_sum (subsystems : List (Subsystem Number))
    (diagnostics : List Diagnostic) :
    diagnostics.countP (concernsAny subsystems) ≤
      (subsystems.map fun subsystem => concernCount subsystem diagnostics).sum := by
  induction subsystems with
  | nil => simp [concernsAny]
  | cons subsystem rest ih =>
      rw [List.map_cons, List.sum_cons]
      exact Nat.le_trans (countP_or_le _ (concernsAny rest) diagnostics)
        (Nat.add_le_add_left ih _)

end Triage
