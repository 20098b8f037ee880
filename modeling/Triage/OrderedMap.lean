/-!
# Maps that remember insertion order

Every report of this library lists its entries in the order in which they were
first recorded.  An `OrderedMap` is that order made into a value: a list of
bindings, where binding a key a second time replaces the value and leaves the
key as it was first written, at its first place.  Keys are told apart by `==`,
which has to be an equivalence and need not be equality.

The statements beside the definitions say what a lookup sees after an insertion
and that insertion never makes a key occur twice.
-/

namespace Triage

set_option autoImplicit false

/-- A finite map together with the order in which its keys were first bound. -/
structure OrderedMap (Key Entry : Type) where
  /-- The bindings, first bound key first. -/
  bindings : List (Key × Entry)
deriving Repr, Inhabited, DecidableEq, BEq

namespace OrderedMap

variable {Key Entry : Type}

/-- The map without bindings. -/
def empty : OrderedMap Key Entry := ⟨[]⟩

/-- The keys, first bound key first. -/
def keys (table : OrderedMap Key Entry) : List Key := table.bindings.map Prod.fst

/-- The values in the order of their keys. -/
def values (table : OrderedMap Key Entry) : List Entry := table.bindings.map Prod.snd

/-- How many keys are bound. -/
def size (table : OrderedMap Key Entry) : Nat := table.bindings.length

variable [BEq Key]

/-- Replace the value of the first binding of `key`, or bind it at the end. -/
def insertInto (key : Key) (entry : Entry) : List (Key × Entry) → List (Key × Entry)
  | [] => [(key, entry)]
  | (other, old) :: rest =>
      if other == key then (other, entry) :: rest else (other, old) :: insertInto key entry rest

/-- The value of the first binding of `key`. -/
def findIn (key : Key) : List (Key × Entry) → Option Entry
  | [] => none
  | (other, entry) :: rest => if other == key then some entry else findIn key rest

/-- Bind `key`; a key that is bound already keeps its place. -/
def insert (table : OrderedMap Key Entry) (key : Key) (entry : Entry) : OrderedMap Key Entry :=
  ⟨insertInto key entry table.bindings⟩

/-- The value bound to `key`. -/
def find? (table : OrderedMap Key Entry) (key : Key) : Option Entry := findIn key table.bindings

/-- Whether `key` is bound. -/
def contains (table : OrderedMap Key Entry) (key : Key) : Bool := (table.find? key).isSome

/-- Bind the pairs one after the other. -/
def ofList (pairs : List (Key × Entry)) : OrderedMap Key Entry :=
  pairs.foldl (fun table pair => table.insert pair.1 pair.2) empty

@[simp] theorem find?_empty (key : Key) : (empty : OrderedMap Key Entry).find? key = none := rfl

/-! ## Lookups after an insertion -/

theorem findIn_insertInto [EquivBEq Key] (key other : Key) (entry : Entry)
    (bindings : List (Key × Entry)) :
    findIn other (insertInto key entry bindings) =
      if key == other then some entry else findIn other bindings := by
  induction bindings with
  | nil => rfl
  | cons binding rest ih =>
      obtain ⟨first, old⟩ := binding
      by_cases same : first == key
      · simp only [insertInto, same, if_true, findIn, BEq.congr_left same]
        split <;> rfl
      · by_cases found : key == other
        · have differs : (first == other) = false := by
            rw [← BEq.congr_right found]; simpa using same
          simp [insertInto, findIn, same, differs, ih, found]
        · simp [insertInto, findIn, same, ih, found]

/-- A lookup sees the last value bound to its key. -/
@[simp] theorem find?_insert [EquivBEq Key] (table : OrderedMap Key Entry) (key other : Key)
    (entry : Entry) :
    (table.insert key entry).find? other =
      if key == other then some entry else table.find? other :=
  findIn_insertInto key other entry table.bindings

/-! ## Keys after an insertion -/

theorem keys_insertInto [EquivBEq Key] (key : Key) (entry : Entry)
    (bindings : List (Key × Entry)) :
    (insertInto key entry bindings).map Prod.fst =
      if (bindings.map Prod.fst).contains key then bindings.map Prod.fst
      else bindings.map Prod.fst ++ [key] := by
  induction bindings with
  | nil => rfl
  | cons binding rest ih =>
      obtain ⟨first, old⟩ := binding
      by_cases same : first == key
      · simp [insertInto, same, BEq.symm same]
      · have differs : (key == first) = false := by rw [BEq.comm]; simpa using same
        simp only [insertInto, same, List.map_cons, ih, List.contains_cons, differs,
          Bool.false_or, Bool.false_eq_true, if_false]
        split <;> rfl

/-- Binding a new key puts it last; binding a known key moves nothing. -/
theorem keys_insert [EquivBEq Key] (table : OrderedMap Key Entry) (key : Key) (entry : Entry) :
    (table.insert key entry).keys =
      if table.keys.contains key then table.keys else table.keys ++ [key] :=
  keys_insertInto key entry table.bindings

end OrderedMap

end Triage
