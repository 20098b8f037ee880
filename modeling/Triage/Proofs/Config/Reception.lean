import Triage.Config.Loading
import Triage.Proofs.Verdict

/-!
# How the settings of a configuration are received

A configuration is accepted, or a fault of it is reported, or loading ends in a failure that
nobody reports.  Which of the three it is depends on the settings one by one, in the order in
which they are read: the first that is not accepted decides (`Reception.first`).

This module says for every kind of value that a setting may be how it is received, as a rule on
values, and shows that reading follows the rule (`received_toInt` and its kind).  Of these rules
only the one for ranges reports anything; a number that is none and a list that is none are
unreported.
-/

namespace Triage

set_option autoImplicit false

/-- How a setting, a section or a whole configuration is received. -/
inductive Reception where
  | accepted
  /-- A fault of the configuration is reported. -/
  | reported
  /-- It fails with no text to report. -/
  | unreported
deriving Repr, DecidableEq

namespace Reception

/-- What comes of several settings: the first that is not accepted decides. -/
def first : List Reception → Reception
  | [] => accepted
  | accepted :: rest => first rest
  | refused :: _ => refused

@[simp] theorem first_nil : first [] = accepted := rfl

@[simp] theorem first_accepted (rest : List Reception) :
    first (accepted :: rest) = first rest := rfl

@[simp] theorem first_reported (rest : List Reception) :
    first (reported :: rest) = reported := rfl

@[simp] theorem first_unreported (rest : List Reception) :
    first (unreported :: rest) = unreported := rfl

theorem first_singleton (reception : Reception) : first [reception] = reception := by
  cases reception <;> rfl

/-- Settings that belong together can be taken as one. -/
theorem first_cons_first (receptions rest : List Reception) :
    first (first receptions :: rest) = first (receptions ++ rest) := by
  induction receptions with
  | nil => rfl
  | cons reception others ih => cases reception <;> simp [ih]

/-- All is accepted when each is. -/
theorem first_eq_accepted_iff {receptions : List Reception} :
    first receptions = accepted ↔ ∀ reception ∈ receptions, reception = accepted := by
  induction receptions with
  | nil => simp
  | cons reception rest ih => cases reception <;> simp [ih]

/-- What decides is the first that is not accepted. -/
theorem first_eq_iff {receptions : List Reception} {refused : Reception}
    (refuses : refused ≠ accepted) :
    first receptions = refused ↔ ∃ before behind, receptions = before ++ refused :: behind ∧
      ∀ reception ∈ before, reception = accepted := by
  induction receptions with
  | nil => simp [refuses.symm]
  | cons reception rest ih =>
      cases reception with
      | accepted =>
          rw [first_accepted, ih]
          constructor
          · rintro ⟨before, behind, rfl, fine⟩
            exact ⟨accepted :: before, behind, rfl, List.forall_mem_cons.2 ⟨rfl, fine⟩⟩
          · rintro ⟨before, behind, parts, fine⟩
            cases before with
            | nil => exact absurd (List.head_eq_of_cons_eq parts).symm refuses
            | cons head before =>
                exact ⟨before, behind, List.tail_eq_of_cons_eq parts,
                  (List.forall_mem_cons.1 fine).2⟩
      | reported | unreported =>
          constructor
          · rintro rfl
            exact ⟨[], rest, rfl, nofun⟩
          · rintro ⟨before, behind, parts, fine⟩
            cases before with
            | nil => exact List.head_eq_of_cons_eq parts
            | cons head before =>
                have same := List.head_eq_of_cons_eq parts
                exact absurd (same.trans (List.forall_mem_cons.1 fine).1) nofun

end Reception

/-! ## How a computation is received -/

/-- What a computation comes to is received in one of three ways. -/
inductive Received {Result : Type} : Except Failure Result → Reception → Prop
  | accepted (result : Result) : Received (.ok result) .accepted
  | reported (fault : ConfigurationFault) : Received (.error (.configuration fault)) .reported
  | unreported {failure : Failure} (silent : failure.message? = none) :
      Received (.error failure) .unreported

namespace Received

variable {Item First Second Result : Type} {reception : Reception}

/-- Two steps are received one after the other. -/
theorem bind {computed : Except Failure First} {next : First → Except Failure Second}
    {rest : List Reception} (here : Received computed reception)
    (behind : ∀ value, computed = .ok value → Received (next value) (Reception.first rest)) :
    Received (computed >>= next) (Reception.first (reception :: rest)) := by
  cases here with
  | accepted value => exact behind value rfl
  | reported fault => exact .reported fault
  | unreported silent => exact .unreported silent

/-- A value that is only put in its place is received as it is. -/
theorem map {computed : Except Failure First} (here : Received computed reception)
    (change : First → Second) :
    Received (computed >>= fun value => pure (change value)) reception := by
  cases here with
  | accepted value => exact .accepted _
  | reported fault => exact .reported fault
  | unreported silent => exact .unreported silent

/-- The items of a list are received one after the other. -/
theorem mapM {read : Item → Except Failure Result} {received : Item → Reception}
    (each : ∀ item, Received (read item) (received item)) (items : List Item) :
    Received (items.mapM read) (Reception.first (items.map received)) := by
  induction items with
  | nil => exact .accepted []
  | cons item rest ih =>
      rw [List.mapM_cons, List.map_cons]
      exact (each item).bind fun image _ => ih.map _

variable {computed : Except Failure Result} (here : Received computed reception)
include here

/-- A computation is accepted when it has a result. -/
theorem accepted_iff : reception = .accepted ↔ ∃ result, computed = .ok result := by
  cases here <;> simp

/-- A computation is reported when it fails by a fault of the configuration. -/
theorem reported_iff :
    reception = .reported ↔ ∃ fault, computed = .error (.configuration fault) := by
  cases here with
  | accepted | reported => simp
  | unreported silent =>
      refine iff_of_false nofun ?_
      rintro ⟨fault, same⟩
      rw [Except.error.inj same] at silent
      cases silent

/-- A computation is unreported when it fails with no text. -/
theorem unreported_iff :
    reception = .unreported ↔ ∃ failure, failure.message? = none ∧ computed = .error failure := by
  cases here with
  | accepted => simp
  | reported fault =>
      refine iff_of_false nofun ?_
      rintro ⟨failure, silent, same⟩
      rw [← Except.error.inj same] at silent
      cases silent
  | unreported silent => exact iff_of_true rfl ⟨_, silent, rfl⟩

end Received

/-! ## Values -/

namespace Value

open Reception

/-- A whole number is given by a truth value, a number that is defined and finite, or a text
that is a numeral. -/
def wholeReception : Value → Reception
  | .bool _ | .int _ => accepted
  | .float number =>
      match Decimal.meaning number with
      | .finite _ => accepted
      | .infinite _ | .undefined => unreported
  | .text content => if (Decimal.readInt? content).isSome then accepted else unreported
  | .null | .undefined _ | .list _ | .table _ | .moment _ => unreported

/-- A number is given by a truth value, a number that is not too large, or a text that is a
numeral. -/
def numberReception : Value → Reception
  | .bool _ | .float _ | .undefined _ => accepted
  | .int number => if (Decimal.ofInt? number).isSome then accepted else unreported
  | .text content => if (Decimal.readFloat? content).isSome then accepted else unreported
  | .null | .list _ | .table _ | .moment _ => unreported

/-- What is received item by item is a list, a text or a table. -/
def eachReception (read : Value → Reception) : Value → Reception
  | .list items => first (items.map read)
  | .text content => first (content.toList.map fun c => read (.text (String.singleton c)))
  | .table fields => first (fields.map fun field => read (.text field.1))
  | .null | .bool _ | .int _ | .float _ | .undefined _ | .moment _ => unreported

/-- Where any items will do, a list, a text or a table will. -/
def itemsReception : Value → Reception
  | .list _ | .text _ | .table _ => accepted
  | .null | .bool _ | .int _ | .float _ | .undefined _ | .moment _ => unreported

/-- A value that is shown in a report needs a text. -/
def shownReception (value : Value) (received : Reception) : Reception :=
  if value.hasText then received else unreported

/-- A range is a pair of whole numbers; anything that is no pair is reported. -/
def rangeReception : Value → Reception
  | .list [low, high] => first [low.wholeReception, high.wholeReception]
  | other => other.shownReception reported

theorem received_toInt (value : Value) : Received value.toInt value.wholeReception := by
  cases value with
  | bool | int => exact .accepted _
  | float number =>
      simp only [toInt, wholeReception]
      cases Decimal.meaning number with
      | finite size => exact .accepted _
      | infinite | undefined => exact .unreported rfl
  | text content =>
      simp only [toInt, wholeReception]
      cases Decimal.readInt? content with
      | some number => exact .accepted _
      | none => exact .unreported rfl
  | null | undefined | list | table | moment => exact .unreported rfl

theorem received_toFloat (value : Value) : Received value.toFloat value.numberReception := by
  cases value with
  | bool | float | undefined => exact .accepted _
  | int number =>
      simp only [toFloat, numberReception]
      cases Decimal.ofInt? number with
      | some size => exact .accepted _
      | none => exact .unreported rfl
  | text content =>
      simp only [toFloat, numberReception]
      cases Decimal.readFloat? content with
      | some number => exact .accepted _
      | none => exact .unreported rfl
  | null | list | table | moment => exact .unreported rfl

theorem received_toItems (value : Value) : Received value.toItems value.itemsReception := by
  cases value with
  | list | text | table => exact .accepted _
  | null | bool | int | float | undefined | moment => exact .unreported rfl

theorem received_commandOfValue (value : Value) :
    Received (commandOfValue value) value.itemsReception := by
  cases value with
  | list | text | table => exact .accepted _
  | null | bool | int | float | undefined | moment => exact .unreported rfl

/-- What is read behind a check that a value can be shown. -/
theorem received_checkShown_bind {Result : Type} (value : Value)
    {next : Unit → Except Failure Result} {reception : Reception}
    (behind : Received (next ()) reception) :
    Received (value.checkShown >>= next) (value.shownReception reception) := by
  unfold checkShown shownReception
  split
  · exact behind
  · exact .unreported rfl

/-- Items that are read one by one. -/
theorem received_each {Result : Type} {read : Value → Except Failure Result}
    {received : Value → Reception} (each : ∀ item, Received (read item) (received item))
    (value : Value) :
    Received (value.toItems >>= fun items => items.mapM read) (value.eachReception received) := by
  cases value with
  | list items => exact Received.mapM each items
  | text content =>
      have images := Received.mapM each (content.toList.map fun c => text (String.singleton c))
      rw [List.map_map] at images
      exact images
  | table fields =>
      have images := Received.mapM each (fields.map fun field => text field.1)
      rw [List.map_map] at images
      exact images
  | null | bool | int | float | undefined | moment => exact .unreported rfl

theorem received_codeRange (setting : String) (value : Value) :
    Received (CodeRange.ofValue setting value) value.rangeReception := by
  unfold CodeRange.ofValue
  split
  · next low high =>
      refine (received_toInt low).bind fun first _ => ?_
      rw [first_singleton]
      exact (received_toInt high).map _
  · next noPair =>
      have rule : value.rangeReception = value.shownReception reported := by
        unfold rangeReception
        split
        · exact absurd rfl (noPair _ _)
        · rfl
      rw [rule]
      exact received_checkShown_bind value (.reported _)

end Value

end Triage
