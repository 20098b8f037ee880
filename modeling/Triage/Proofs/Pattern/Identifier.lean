import Triage.Pattern.Identifier
import Triage.Proofs.Numerals
import Triage.Proofs.Table

/-!
# Fresh identifiers are free

Among more numbered candidates than there are taken identifiers one is free, so the search
for a free number ends at one (`not_contains_firstFree`).  A table of taken identifiers is
sound when each of them has been asked for at least once.  From a sound table a base comes
back as an identifier that was not taken (`Sound.not_contains_fresh`), and the table behind
it is sound and holds that identifier beside those before (`Sound.fresh`,
`contains_fresh`).
-/

namespace Triage

set_option autoImplicit false

namespace TakenIdentifiers

variable {taken : TakenIdentifiers} {base : String}

theorem numbered_injective {first second : Int}
    (same : numbered base first = numbered base second) : first = second := by
  unfold numbered at same
  exact toString_int_injective (String.append_right_inj _ |>.1 same)

/-- The search for a free number ends at one, or else all candidates were taken. -/
theorem firstFree_spec (taken : TakenIdentifiers) (base : String) (fuel : Nat) (number : Int) :
    taken.contains (numbered base (taken.firstFree base fuel number)) = false ∨
      ∀ index < fuel, taken.contains (numbered base (number + index)) = true := by
  induction fuel generalizing number with
  | zero => exact .inr fun index below => absurd below (Nat.not_lt_zero _)
  | succ fuel ih =>
      rw [firstFree]
      cases here : taken.contains (numbered base number) with
      | false => exact .inl (by simpa using here)
      | true =>
          simp only [if_true]
          refine (ih (number + 1)).imp_right fun further index below => ?_
          cases index with
          | zero => simpa using here
          | succ index =>
              have next := further index (by omega)
              rwa [Int.add_assoc, Int.add_comm 1] at next

/-- Candidates that are all taken are no more than the taken identifiers. -/
theorem le_size_of_contains {count : Nat} {number : Int}
    (all : ∀ index < count, taken.contains (numbered base (number + index)) = true) :
    count ≤ taken.size := by
  have distinct : ((List.range count).map fun index : Nat =>
      numbered base (number + index)).Nodup := by
    refine List.pairwise_map.2 (List.nodup_range.imp fun differ same => differ ?_)
    have numbers := numbered_injective same
    omega
  have among : ((List.range count).map fun index : Nat => numbered base (number + index)) ⊆
      taken.keys := by
    intro candidate member
    obtain ⟨index, below, rfl⟩ := List.mem_map.1 member
    exact OrderedMap.contains_iff_mem_keys.1 (all index (List.mem_range.1 below))
  simpa [OrderedMap.keys, OrderedMap.size] using distinct.length_le_of_subset among

/-- The first free number is free. -/
theorem not_contains_firstFree (taken : TakenIdentifiers) (base : String) (number : Int) :
    taken.contains (numbered base (taken.firstFree base (taken.size + 1) number)) = false := by
  refine (firstFree_spec taken base (taken.size + 1) number).resolve_right fun all => ?_
  have few := le_size_of_contains all
  omega

theorem le_firstFree (taken : TakenIdentifiers) (base : String) (fuel : Nat) (number : Int) :
    number ≤ taken.firstFree base fuel number := by
  induction fuel generalizing number with
  | zero => exact Int.le_refl _
  | succ fuel ih =>
      rw [firstFree]
      have further := ih (number + 1)
      split <;> omega

/-- Every taken identifier has been asked for. -/
def Sound (taken : TakenIdentifiers) : Prop :=
  ∀ identifier count, taken.find? identifier = some count → 1 ≤ count

theorem Sound.insert (sound : taken.Sound) {identifier : String} {count : Int}
    (asked : 1 ≤ count) : Sound (OrderedMap.insert taken identifier count) := by
  intro other number found
  rw [OrderedMap.find?_insert] at found
  split at found
  · rwa [← Option.some.inj found]
  · exact sound other number found

theorem contains_insert (taken : TakenIdentifiers) (identifier other : String) (count : Int) :
    OrderedMap.contains (OrderedMap.insert taken identifier count) other =
      (identifier == other || taken.contains other) := by
  rw [OrderedMap.contains, OrderedMap.find?_insert]
  split
  · next same => simp [same]
  · next differs => simp [differs, OrderedMap.contains]

/-- A base that has been asked for once is taken. -/
theorem Sound.one_le_count (sound : taken.Sound) (base : String) :
    1 ≤ (taken.find? base).getD 0 + 1 := by
  cases found : taken.find? base with
  | none => decide
  | some count =>
      have asked := sound base count found
      simp only [Option.getD_some]
      omega

/-- The count of a base is one exactly when the base is free. -/
theorem Sound.count_eq_one_iff (sound : taken.Sound) (base : String) :
    (taken.find? base).getD 0 + 1 = 1 ↔ taken.contains base = false := by
  rw [OrderedMap.contains]
  cases found : taken.find? base with
  | none => simp
  | some count =>
      have asked := sound base count found
      simp only [Option.getD_some, Option.isSome_some, Bool.true_eq_false, iff_false]
      omega

/-- **A fresh identifier was not taken.** -/
theorem Sound.not_contains_fresh (sound : taken.Sound) (base : String) :
    taken.contains (taken.fresh base).1 = false := by
  unfold fresh
  by_cases first : (taken.find? base).getD 0 + 1 = 1
  · rw [if_pos first]
    exact (sound.count_eq_one_iff base).1 first
  · rw [if_neg first]
    have free := not_contains_firstFree
      (OrderedMap.insert taken base ((taken.find? base).getD 0 + 1)) base
      ((taken.find? base).getD 0 + 1)
    rw [contains_insert, Bool.or_eq_false_iff] at free
    exact free.2

/-- A fresh identifier is taken afterwards, and nothing else is beside what was taken. -/
theorem Sound.contains_fresh (sound : taken.Sound) (base other : String) :
    OrderedMap.contains (taken.fresh base).2 other =
      ((taken.fresh base).1 == other || taken.contains other) := by
  unfold fresh
  by_cases first : (taken.find? base).getD 0 + 1 = 1
  · rw [if_pos first, contains_insert]
  · rw [if_neg first, contains_insert, contains_insert, contains_insert]
    have known : taken.contains base = true := by
      rwa [sound.count_eq_one_iff, Bool.not_eq_false] at first
    by_cases same : base = other
    · subst same
      simp [known]
    · rw [beq_false_of_ne same, Bool.false_or, Bool.false_or]

theorem Sound.fresh (sound : taken.Sound) (base : String) : Sound (taken.fresh base).2 := by
  have asked := sound.one_le_count base
  unfold TakenIdentifiers.fresh
  by_cases first : (taken.find? base).getD 0 + 1 = 1
  · rw [if_pos first]
    exact sound.insert asked
  · rw [if_neg first]
    have further := le_firstFree (OrderedMap.insert taken base ((taken.find? base).getD 0 + 1)) base
      (OrderedMap.size (OrderedMap.insert taken base ((taken.find? base).getD 0 + 1)) + 1)
      ((taken.find? base).getD 0 + 1)
    exact ((sound.insert asked).insert (Int.le_trans asked further)).insert (by decide)

end TakenIdentifiers

end Triage
