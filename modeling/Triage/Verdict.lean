import Triage.Failure

/-!
# Tests that may fail

Settings and records are kept as they were written, so a test on them may come upon a
value that it is not defined on.  The answer of such a test is a verdict: it passes, it
does not pass, or it fails.  Tests are tried in order and no further than needed, so a
value of the wrong kind does no harm behind a test that has passed.

Reports are computed by total functions, in which a test that fails counts as one that
does not pass; the run that makes a report has asked beforehand whether a test fails.
`anyM_eq_ok` and `any_passed_of_anyM` say that this changes no answer: without failures
the tests of a list are the plain ones, and a list of tests that did not fail is decided
by those that passed.
-/

namespace Triage

set_option autoImplicit false

/-- The answer of a test that may fail. -/
abbrev Verdict := Except Failure Bool

namespace Verdict

/-- Whether a test has passed; one that fails has not. -/
def passed : Verdict → Bool
  | .ok answer => answer
  | .error _ => false

/-- Fail if a test fails, whatever it answers otherwise. -/
def check : Verdict → Except Failure Unit
  | .ok _ => .ok ()
  | .error failure => .error failure

@[simp] theorem passed_ok (answer : Bool) : passed (.ok answer) = answer := rfl

@[simp] theorem passed_error (failure : Failure) : passed (.error failure) = false := rfl

variable {Item : Type}

/-- Tests that do not fail are plain tests. -/
theorem anyM_eq_ok (test : Item → Verdict) (plain : Item → Bool) (items : List Item)
    (agree : ∀ item ∈ items, test item = .ok (plain item)) :
    items.anyM test = .ok (items.any plain) := by
  induction items with
  | nil => rfl
  | cons item rest ih =>
      have here := agree item (by simp)
      have below := ih fun other member => agree other (by simp [member])
      simp only [List.anyM, here, bind, Except.bind, List.any_cons]
      cases plain item <;> simp [below, pure, Except.pure]

/-- Whether some test of a list passes, once none before it has failed. -/
theorem any_passed_of_anyM (test : Item → Verdict) (items : List Item) (answer : Bool)
    (decided : items.anyM test = .ok answer) :
    items.any (fun item => passed (test item)) = answer := by
  induction items with
  | nil => cases decided; rfl
  | cons item rest ih =>
      simp only [List.anyM, bind, Except.bind] at decided
      cases found : test item with
      | error failure => simp [found] at decided
      | ok here =>
          cases here with
          | true =>
              simp only [found, pure, Except.pure, Except.ok.injEq] at decided
              simp [found, ← decided]
          | false =>
              simp only [found] at decided
              simp [found, ih decided]

end Verdict

end Triage
