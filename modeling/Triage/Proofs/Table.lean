import Mathlib.Data.List.Forall2
import Mathlib.Data.List.Pairwise
import Triage.Proofs.Grouping

/-!
# Tables that are filled from a list

A table that is filled item by item keeps one entry for each key.  A lookup sees the last item
with its key (`OrderedMap.find?_ofList`), while the keys stand in the order in which they first
occur (`OrderedMap.keys_ofList`), so the whole table is told by the two
(`OrderedMap.bindings_ofList`).  When no two items have one key, nothing is overwritten and the
table is the list itself (`OrderedMap.bindings_ofList_of_apart`).  Tables that are filled from two
lists of pairs, pair by pair in the same relation, stand entry by entry in that relation
(`OrderedMap.forall₂_ofList`).  A table that keeps the first entry of each key instead only grows
at its end (`OrderedMap.bindings_bindNew`).
-/

namespace Triage.OrderedMap

set_option autoImplicit false

variable {Item Key Entry : Type} [BEq Key]

theorem ofList_concat (pairs : List (Key × Entry)) (pair : Key × Entry) :
    ofList (pairs ++ [pair]) = (ofList pairs).insert pair.1 pair.2 := by
  rw [ofList, List.foldl_append]
  rfl

/-- A new key is bound behind all others. -/
theorem insertInto_of_new {key : Key} (entry : Entry) {bindings : List (Key × Entry)}
    (new : ∀ binding ∈ bindings, (binding.1 == key) = false) :
    insertInto key entry bindings = bindings ++ [(key, entry)] := by
  induction bindings with
  | nil => rfl
  | cons binding rest ih =>
      rw [insertInto, new binding List.mem_cons_self,
        ih fun other member => new other (List.mem_cons_of_mem _ member)]
      rfl

/-- **Where no two pairs have one key, nothing is overwritten.** -/
theorem bindings_ofList_of_apart {pairs : List (Key × Entry)}
    (apart : pairs.Pairwise fun first second => (first.1 == second.1) = false) :
    (ofList pairs).bindings = pairs := by
  induction pairs using List.reverseRecOn with
  | nil => rfl
  | append_singleton pairs pair ih =>
      obtain ⟨before, _, across⟩ := List.pairwise_append.1 apart
      rw [ofList_concat, insert, ih before]
      exact insertInto_of_new _ fun other member => across other member pair (by simp)

/-! ## Tables that are filled side by side -/

section SideBySide

variable {Other : Type} {related : Entry → Other → Prop}

theorem forall₂_insertInto {key : Key} {entry : Entry} {other : Other} (here : related entry other)
    {bindings : List (Key × Entry)} {others : List (Key × Other)}
    (filled : List.Forall₂ (fun left right => left.1 = right.1 ∧ related left.2 right.2)
      bindings others) :
    List.Forall₂ (fun left right => left.1 = right.1 ∧ related left.2 right.2)
      (insertInto key entry bindings) (insertInto key other others) := by
  induction filled with
  | nil => exact .cons ⟨rfl, here⟩ .nil
  | @cons left right rest further both behind ih =>
      obtain ⟨known, first⟩ := left
      obtain ⟨_, second⟩ := right
      obtain ⟨rfl, both⟩ := both
      simp only [insertInto]
      split
      · exact .cons ⟨rfl, here⟩ behind
      · exact .cons ⟨rfl, both⟩ ih

variable (related) in
/-- Tables that are filled side by side have the same keys, with related entries under them. -/
theorem forall₂_ofList {pairs : List (Key × Entry)} {others : List (Key × Other)}
    (side : List.Forall₂ (fun left right => left.1 = right.1 ∧ related left.2 right.2)
      pairs others) :
    List.Forall₂ (fun left right => left.1 = right.1 ∧ related left.2 right.2)
      (ofList pairs).bindings (ofList others).bindings := by
  -- The pairs are bound one by one, so what holds of the tables so far is carried along.
  have carried : ∀ (table : OrderedMap Key Entry) (beside : OrderedMap Key Other),
      List.Forall₂ (fun left right => left.1 = right.1 ∧ related left.2 right.2)
        table.bindings beside.bindings →
      List.Forall₂ (fun left right => left.1 = right.1 ∧ related left.2 right.2)
        (pairs.foldl (fun table pair => table.insert pair.1 pair.2) table).bindings
        (others.foldl (fun table pair => table.insert pair.1 pair.2) beside).bindings := by
    induction side with
    | nil => exact fun _ _ filled => filled
    | cons both _ ih =>
        intro table beside filled
        obtain ⟨same, here⟩ := both
        rw [List.foldl_cons, List.foldl_cons, same]
        exact ih _ _ (forall₂_insertInto here filled)
  exact carried empty empty .nil

/-- What holds of all entries of a list of pairs holds of all entries of its table. -/
theorem forall_mem_values_ofList {holds : Entry → Prop} {pairs : List (Key × Entry)}
    (each : ∀ pair ∈ pairs, holds pair.2) : ∀ entry ∈ (ofList pairs).values, holds entry := by
  intro entry member
  obtain ⟨pair, bound, rfl⟩ := List.mem_map.1 member
  have filled := forall₂_ofList (fun left _ => holds left)
    (List.forall₂_same.2 fun pair among => ⟨rfl, each pair among⟩)
  exact (List.forall₂_same.1 filled pair bound).2

end SideBySide

/-! ## Keys that are bound once -/

/-- The table with those of the keys bound to an entry that were not bound before. -/
def bindNew (table : OrderedMap Key Entry) (entry : Entry) (keys : List Key) :
    OrderedMap Key Entry :=
  keys.foldl (fun found key => if found.contains key then found else found.insert key entry) table

section BoundOnce

variable [LawfulBEq Key]

theorem isSome_findIn_iff {key : Key} {bindings : List (Key × Entry)} :
    (findIn key bindings).isSome = true ↔ key ∈ bindings.map Prod.fst := by
  induction bindings with
  | nil => simp [findIn]
  | cons binding rest ih =>
      obtain ⟨other, entry⟩ := binding
      by_cases same : other = key
      · simp [findIn, same]
      · simp [findIn, same, ih, Ne.symm same]

/-- A key is bound when it is one of the keys. -/
theorem contains_iff_mem_keys {table : OrderedMap Key Entry} {key : Key} :
    table.contains key = true ↔ key ∈ table.keys := isSome_findIn_iff

/-- Where no key is bound twice, the bindings are told by the lookups. -/
theorem mem_bindings_iff {bindings : List (Key × Entry)} (once : (bindings.map Prod.fst).Nodup)
    {key : Key} {entry : Entry} : (key, entry) ∈ bindings ↔ findIn key bindings = some entry := by
  induction bindings with
  | nil => simp [findIn]
  | cons binding rest ih =>
      obtain ⟨other, old⟩ := binding
      obtain ⟨new, apart⟩ := List.nodup_cons.1 once
      by_cases same : other = key
      · subst same
        have absent : (other, entry) ∉ rest := fun member => new (List.mem_map.2 ⟨_, member, rfl⟩)
        simp [findIn, absent, eq_comm]
      · simp [findIn, same, ih apart, Ne.symm same]

/-- **New keys are bound behind all others**, in the order in which they first occur. -/
theorem bindings_bindNew (table : OrderedMap Key Entry) (entry : Entry) (keys : List Key) :
    (table.bindNew entry keys).bindings = table.bindings ++
      (keys.filter fun key => !table.contains key).eraseDups.map fun key => (key, entry) := by
  induction keys using List.reverseRecOn with
  | nil => simp [bindNew]
  | append_singleton keys key ih =>
      have step : table.bindNew entry (keys ++ [key]) =
          if (table.bindNew entry keys).contains key then table.bindNew entry keys
          else (table.bindNew entry keys).insert key entry := by
        rw [bindNew, List.foldl_append]
        rfl
      have bound : (table.bindNew entry keys).contains key = true ↔
          table.contains key = true ∨ key ∈ keys ∧ table.contains key = false := by
        rw [contains_iff_mem_keys, contains_iff_mem_keys, OrderedMap.keys, ih, List.map_append,
          List.mem_append, List.map_map]
        simp [OrderedMap.keys]
      rw [step, List.filter_append]
      by_cases known : table.contains key = true
      · rw [if_pos (bound.2 (.inl known)), ih]
        simp [known]
      · rw [Bool.not_eq_true] at known
        rw [List.filter_singleton, known, Bool.not_false, cond_true, eraseDups_concat]
        by_cases again : key ∈ keys
        · rw [if_pos (bound.2 (.inr ⟨again, known⟩)), ih, if_pos (by simp [again, known])]
        · have new : ¬ (table.bindNew entry keys).contains key = true := by
            rw [bound]
            simp [again, known]
          rw [if_neg new, if_neg (by simp [again]), List.map_append, ← List.append_assoc, ← ih]
          refine insertInto_of_new entry fun binding member => beq_false_of_ne fun same => ?_
          exact new (contains_iff_mem_keys.2 (List.mem_map.2 ⟨binding, member, same⟩))

end BoundOnce

/-! ## What a table holds -/

variable [EquivBEq Key]

/-- There is a last item with the key of an item. -/
theorem exists_findRev?_of_mem (key : Item → Key) {items : List Item} {item : Item}
    (member : item ∈ items) :
    ∃ last ∈ items, (key last == key item) = true ∧
      items.findRev? (fun other => key other == key item) = some last := by
  rw [List.findRev?_eq_find?_reverse]
  cases found : items.reverse.find? (fun other => key other == key item) with
  | none => exact absurd BEq.rfl (List.find?_eq_none.1 found item (List.mem_reverse.2 member))
  | some last =>
      have same := List.find?_some found
      exact ⟨last, List.mem_reverse.1 (List.mem_of_find?_eq_some found), same, rfl⟩

/-- Where no two items have one key, a key tells which item it is. -/
theorem eq_of_key_beq (key : Item → Key) {items : List Item}
    (apart : items.Pairwise fun first second => (key first == key second) = false)
    {first second : Item} (listed : first ∈ items) (member : second ∈ items)
    (same : (key first == key second) = true) : first = second := by
  by_contra different
  have symmetric : Std.Symm fun first second : Item => (key first == key second) = false :=
    ⟨fun first second differs => BEq.symm_false differs⟩
  exact absurd same (ne_true_of_eq_false (apart.forall listed member different))

/-- Where no two items have one key, every item is the last one with its key. -/
theorem findRev?_of_apart (key : Item → Key) {items : List Item}
    (apart : items.Pairwise fun first second => (key first == key second) = false) {item : Item}
    (member : item ∈ items) : items.findRev? (fun other => key other == key item) = some item := by
  obtain ⟨last, among, same, found⟩ := exists_findRev?_of_mem key member
  rw [found, eq_of_key_beq key apart among member same]

/-- **A lookup sees the last item with its key.** -/
theorem find?_ofList (key : Item → Key) (entry : Item → Entry) (items : List Item)
    (sought : Key) :
    (ofList (items.map fun item => (key item, entry item))).find? sought =
      (items.findRev? fun item => key item == sought).map entry := by
  induction items using List.reverseRecOn with
  | nil => rfl
  | append_singleton items item ih =>
      rw [List.map_append, List.map_singleton, ofList_concat, find?_insert, ih,
        List.findRev?_eq_find?_reverse, List.findRev?_eq_find?_reverse, List.reverse_append,
        List.reverse_singleton, List.singleton_append, List.find?_cons]
      cases key item == sought <;> rfl

/-- The keys stand in the order in which they first occur. -/
theorem keys_ofList (pairs : List (Key × Entry)) :
    (ofList pairs).keys = (pairs.map Prod.fst).eraseDups := by
  induction pairs using List.reverseRecOn with
  | nil => rfl
  | append_singleton pairs pair ih =>
      rw [ofList_concat, keys_insert, ih, List.map_append, List.map_singleton, eraseDups_concat,
        contains_eraseDups]

/-- A table whose keys are told apart is told by its keys and its lookups. -/
theorem bindings_eq_filterMap {bindings : List (Key × Entry)}
    (apart : (bindings.map Prod.fst).Pairwise fun first second => (first == second) = false) :
    bindings = (bindings.map Prod.fst).filterMap fun key =>
      (findIn key bindings).map fun entry => (key, entry) := by
  induction bindings with
  | nil => rfl
  | cons binding rest ih =>
      obtain ⟨key, entry⟩ := binding
      obtain ⟨new, apart⟩ := List.pairwise_cons.1 apart
      have behind : (rest.map Prod.fst).filterMap (fun known =>
            (findIn known ((key, entry) :: rest)).map fun found => (known, found)) =
          (rest.map Prod.fst).filterMap fun known =>
            (findIn known rest).map fun found => (known, found) := by
        refine List.filterMap_congr fun known member => ?_
        rw [findIn, new known member]
        rfl
      rw [List.map_cons, List.filterMap_cons, behind, ← ih apart, findIn, BEq.rfl]
      rfl

/-- **A filled table** has the keys in the order in which they first occur, and under each the
entry of the last item with that key. -/
theorem bindings_ofList (key : Item → Key) (entry : Item → Entry) (items : List Item) :
    (ofList (items.map fun item => (key item, entry item))).bindings =
      (items.map key).eraseDups.filterMap fun known =>
        (items.findRev? fun item => key item == known).map fun item => (known, entry item) := by
  have keys : (ofList (items.map fun item => (key item, entry item))).keys =
      (items.map key).eraseDups := by
    rw [keys_ofList, List.map_map]
    rfl
  have apart : (ofList (items.map fun item => (key item, entry item))).keys.Pairwise
      fun first second => (first == second) = false := by
    rw [keys]
    exact pairwise_eraseDups _
  rw [bindings_eq_filterMap apart, ← OrderedMap.keys, keys]
  refine List.filterMap_congr fun known _ => ?_
  rw [← find?, find?_ofList, Option.map_map]
  rfl

end Triage.OrderedMap
