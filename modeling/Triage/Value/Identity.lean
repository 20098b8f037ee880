import Triage.Decimal.Binary
import Triage.Value

/-!
# When two values are the same

Two values are the same when no look at what they stand for tells them apart: a truth
value is the number one or zero, and a floating-point number is the number that it is,
so that `true`, `1` and `1.0` are one value.  Moments are the same when universal time is
the same at both; of tables the order of their keys does not count.  An undefined number is
the same only as itself.

The identity of a value is what is left of it when only that counts: the traits of its
parts in order, those of a list or a table between two marks.  Sameness is equality of
identities, and so an equivalence; values can therefore be the keys of an `OrderedMap`,
which files an entry under a value and writes that value as it was first given.  A list or
a table names no entry.
-/

namespace Triage

set_option autoImplicit false

/-- What a value, or a mark around its parts, is apart from the way in which it is
written. -/
inductive Trait where
  | nothing
  | number (size : Rat)
  | infinite (negative : Bool)
  /-- An undefined number with its place. -/
  | undefined (place : Nat)
  | text (content : String)
  /-- A moment that has no distance from universal time. -/
  | moment (moment : Moment)
  /-- A moment of universal time. -/
  | instant (microseconds : Int)
  | key (name : String)
  | listStart
  | listEnd
  | tableStart
  | tableEnd
deriving DecidableEq

/-- The exact size of a floating-point number that is finite. -/
def Decimal.Binary.size (value : Decimal.Binary) : Rat :=
  let size : Rat := (value.numerator : Rat) / (value.denominator : Rat)
  if value.negative then -size else size

/-- The trait of a floating-point number.  An undefined one has no place in a file. -/
def Trait.ofFloat (number : Float) : Trait :=
  match Decimal.meaning number with
  | .undefined => .undefined 0
  | .infinite negative => .infinite negative
  | .finite value => .number value.size

/-- The trait of a moment. -/
def Trait.ofMoment (moment : Moment) : Trait :=
  match moment.universal? with
  | some microseconds => .instant microseconds
  | none => .moment moment

/-- Fields in the order of their keys, each key before its entry. -/
def Trait.ofFields (fields : List (String × List Trait)) : List Trait :=
  (fields.mergeSort fun first second => !(second.1 < first.1)).flatMap fun field =>
    .key field.1 :: field.2

namespace Value

mutual
/-- What a value is apart from the way in which it is written. -/
def identity : Value → List Trait
  | .null => [.nothing]
  | .bool truth => [.number (if truth then 1 else 0)]
  | .int number => [.number number]
  | .float number => [.ofFloat number]
  | .undefined place => [.undefined place]
  | .text content => [.text content]
  | .moment instant => [.ofMoment instant]
  | .list items => .listStart :: (itemTraits items ++ [.listEnd])
  | .table fields => .tableStart :: (Trait.ofFields (fieldTraits fields) ++ [.tableEnd])

/-- The traits of the items of a list. -/
def itemTraits : List Value → List Trait
  | [] => []
  | item :: rest => item.identity ++ itemTraits rest

/-- The fields of a table, each with the traits of its entry. -/
def fieldTraits : List (String × Value) → List (String × List Trait)
  | [] => []
  | (key, entry) :: rest => (key, entry.identity) :: fieldTraits rest
end

instance : BEq Value := ⟨fun first second => first.identity = second.identity⟩

theorem beq_iff (first second : Value) :
    (first == second) = true ↔ first.identity = second.identity := decide_eq_true_iff

instance : EquivBEq Value where
  rfl := (beq_iff _ _).2 rfl
  symm same := (beq_iff _ _).2 ((beq_iff _ _).1 same).symm
  trans same other := (beq_iff _ _).2 (((beq_iff _ _).1 same).trans ((beq_iff _ _).1 other))

/-- Texts are the same when they are equal. -/
@[simp] theorem text_beq_text (first second : String) :
    (Value.text first == Value.text second) = (first == second) := by
  rw [Bool.eq_iff_iff, beq_iff]
  simp [identity]

/-- Undefined numbers are the same when they stand in one place. -/
theorem undefined_beq_undefined (first second : Nat) :
    (Value.undefined first == Value.undefined second) = (first == second) := by
  rw [Bool.eq_iff_iff, beq_iff]
  simp [identity]

/-- Whether an entry can be filed under a value. -/
def namesEntry : Value → Bool
  | .list _ | .table _ => false
  | _ => true

/-- A value as the name of an entry in a report. -/
def entryName : Value → String
  | .null => "null"
  | .bool truth => if truth then "true" else "false"
  | .float number =>
      match Decimal.meaning number with
      | .undefined => "NaN"
      | .infinite negative => if negative then "-Infinity" else "Infinity"
      | .finite _ => Decimal.shortest number
  | .undefined _ => "NaN"
  | other => other.display

end Value

end Triage
