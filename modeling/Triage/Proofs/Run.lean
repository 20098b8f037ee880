import Triage.Journal

/-!
# What runs return

A run passes its notes on and never looks at them, so what it returns can be followed
step by step.  `Run.outcome` is a run from given notes on, and its equation for two steps
says how a run is put together: a step that returns hands its value and its notes to the
next one, and a step that fails ends the run (`outcome_bind`).

`Run.Returns` forgets the notes: it says what a run comes to, whatever was noted before.
It is read backwards with `ok_of_bind`: a run that came to a value did so from a value of
its first step.

A run that settles comes to one result, whatever was noted before, so its steps are taken as
those of a plain computation (`result_bind`).
-/

namespace Triage

set_option autoImplicit false

namespace Run

variable {First Second Result : Type} {attention : Attention} {notes : List Note}

/-- What a run comes to and the notes after it, from the notes before it. -/
def outcome (run : Run Result) (attention : Attention) (notes : List Note) :
    Except Failure Result × List Note := (run.run attention).run notes

/-- A run comes to a result, whatever has been noted before. -/
def Returns (run : Run Result) (attention : Attention) (result : Except Failure Result) : Prop :=
  ∀ notes, (run.outcome attention notes).1 = result

/-- Two steps of a run: the second one goes on with the value and the notes of the first. -/
theorem outcome_bind (run : Run First) (next : First → Run Second) (attention : Attention)
    (notes : List Note) :
    (run >>= next).outcome attention notes =
      match run.outcome attention notes with
      | (.ok value, noted) => (next value).outcome attention noted
      | (.error failure, noted) => (.error failure, noted) := by
  change (run >>= next) attention notes = match run attention notes with
    | (.ok value, noted) => next value attention noted
    | (.error failure, noted) => (.error failure, noted)
  simp only [bind, ReaderT.bind, ExceptT.bind, ExceptT.mk, StateT.bind, ExceptT.bindCont]
  cases run attention notes with
  | mk result noted => cases result <;> rfl

/-- The performance of a run starts without notes. -/
theorem perform_fst (run : Run Result) (attention : Attention) :
    (run.perform attention).1 = (run.outcome attention []).1 := rfl

/-- What follows a choice follows on either side. -/
theorem ite_bind (condition : Prop) [Decidable condition] (first second : Run First)
    (next : First → Run Second) :
    (if condition then first else second) >>= next =
      if condition then first >>= next else second >>= next := by
  split <;> rfl

/-- Behind a plain computation that succeeds, a run goes on with what it computed. -/
theorem lift_ok_bind (value : First) (next : First → Run Second) :
    (liftM (.ok value : Except Failure First) : Run First) >>= next = next value := rfl

/-! ## Forwards -/

/-- The performance of a run shows what the run comes to. -/
theorem Returns.perform {run : Run Result} {result : Except Failure Result}
    (returns : run.Returns attention result) : (run.perform attention).1 = result := returns []

theorem returns_pure (result : Result) :
    (pure result : Run Result).Returns attention (.ok result) :=
  fun _ => rfl

/-- A plain computation comes to what it computes. -/
theorem returns_lift (computed : Except Failure Result) :
    (liftM computed : Run Result).Returns attention computed := fun _ => rfl

/-- Making a note never ends a run. -/
theorem returns_note (importance : Importance) (message : String) :
    (note importance (.ok message)).Returns attention (.ok ()) := by
  intro notes
  unfold note
  rw [outcome_bind]
  change Prod.fst ((if attention.wants importance then _ else _ : Run Unit).outcome _ notes) = _
  split <;> rfl

theorem Returns.bind {run : Run First} {next : First → Run Second} {value : First}
    {result : Except Failure Second} (first : run.Returns attention (.ok value))
    (second : (next value).Returns attention result) :
    (run >>= next).Returns attention result := by
  intro notes
  have here := first notes
  rw [outcome_bind]
  cases found : run.outcome attention notes with
  | mk answer noted =>
      rw [found] at here
      subst here
      exact second noted

/-- A step that is taken on a condition only. -/
theorem Returns.bind_ite {condition : Prop} [Decidable condition] {step : Run PUnit}
    {next : PUnit → Run Result} {result : Except Failure Result}
    (taken : step.Returns attention (.ok PUnit.unit))
    (behind : (next PUnit.unit).Returns attention result) :
    (if condition then step >>= next else next PUnit.unit).Returns attention result := by
  split
  · exact taken.bind behind
  · exact behind

theorem Returns.discard {run : Run Result} {value : Result}
    (returns : run.Returns attention (.ok value)) :
    (Functor.discard run).Returns attention (.ok PUnit.unit) :=
  returns.bind (returns_pure PUnit.unit)

/-- A step for every item of a list comes to an end when each of the steps does. -/
theorem returns_forIn {Item : Type} (items : List Item) (step : Item → Run Unit)
    (each : ∀ item, (step item).Returns attention (.ok ())) :
    (forIn items PUnit.unit fun item _ => do step item; pure (ForInStep.yield PUnit.unit) :
      Run PUnit).Returns attention (.ok PUnit.unit) := by
  induction items with
  | nil => exact returns_pure _
  | cons item rest ih =>
      rw [List.forIn_cons]
      have first : (do step item; pure (ForInStep.yield PUnit.unit) : Run _).Returns attention
          (.ok (ForInStep.yield PUnit.unit)) := (each item).bind (returns_pure _)
      exact first.bind ih

theorem returns_forM {Item : Type} {items : List Item} {step : Item → Run PUnit}
    (each : ∀ item ∈ items, (step item).Returns attention (.ok PUnit.unit)) :
    (items.forM step).Returns attention (.ok PUnit.unit) := by
  induction items with
  | nil => exact returns_pure PUnit.unit
  | cons item rest ih =>
      obtain ⟨here, behind⟩ := List.forall_mem_cons.1 each
      exact here.bind (ih behind)

/-! ## Backwards -/

/-- A run of two steps that came to a value did so from a value of its first step. -/
theorem ok_of_bind {run : Run First} {next : First → Run Second} {result : Second}
    (returned : ((run >>= next).outcome attention notes).1 = .ok result) :
    ∃ value noted, (run.outcome attention notes).1 = .ok value ∧
      ((next value).outcome attention noted).1 = .ok result := by
  rw [outcome_bind] at returned
  cases found : run.outcome attention notes with
  | mk answer noted =>
      rw [found] at returned
      cases answer with
      | error failure => cases returned
      | ok value => exact ⟨value, noted, rfl, returned⟩

/-- A run that came to a value behind a plain computation has the value of that. -/
theorem ok_of_lift_bind {computed : Except Failure First} {next : First → Run Second}
    {result : Second}
    (returned : (((liftM computed : Run First) >>= next).outcome attention notes).1 = .ok result) :
    ∃ value noted, computed = .ok value ∧
      ((next value).outcome attention noted).1 = .ok result :=
  ok_of_bind returned

/-- Behind a step that was taken on a condition only, a run goes on in one way. -/
theorem ok_of_bind_ite {condition : Prop} [Decidable condition] {step : Run PUnit}
    {next : PUnit → Run Result} {result : Result}
    (returned : ((if condition then step >>= next else next PUnit.unit).outcome attention
      notes).1 = .ok result) :
    ∃ noted, ((next PUnit.unit).outcome attention noted).1 = .ok result := by
  split at returned
  · obtain ⟨_, noted, _, behind⟩ := ok_of_bind returned
    exact ⟨noted, behind⟩
  · exact ⟨notes, returned⟩

theorem ok_of_pure {value result : Result}
    (returned : ((pure value : Run Result).outcome attention notes).1 = .ok result) :
    value = result := Except.ok.inj returned

/-! ## Results -/

/-- The result of a run for a reader of its journal. -/
def result (run : Run Result) (attention : Attention) : Except Failure Result :=
  (run.perform attention).1

/-- What a run comes to does not depend on what has been noted before. -/
def Settles (run : Run Result) (attention : Attention) : Prop :=
  run.Returns attention (run.result attention)

theorem Returns.result_eq {run : Run Result} {result : Except Failure Result}
    (returns : run.Returns attention result) : run.result attention = result := returns []

theorem Returns.settles {run : Run Result} {result : Except Failure Result}
    (returns : run.Returns attention result) : run.Settles attention := by
  rw [Settles, returns.result_eq]
  exact returns

theorem settles_pure (value : Result) : (pure value : Run Result).Settles attention :=
  (returns_pure value).settles

theorem settles_lift (computed : Except Failure Result) :
    (liftM computed : Run Result).Settles attention := (returns_lift computed).settles

/-- The words of a note may not be found, but that depends on the reader alone. -/
theorem settles_note (importance : Importance) (words : Except Failure String) :
    (note importance words).Settles attention := by
  intro notes
  cases words with
  | ok message => rw [returns_note, (returns_note importance message).result_eq]
  | error failure =>
      change ((note importance (.error failure)).outcome attention notes).1 =
        ((note importance (.error failure)).outcome attention []).1
      unfold note
      rw [outcome_bind, outcome_bind]
      change Prod.fst ((if attention.wants importance then _ else _ : Run Unit).outcome _ notes) =
        Prod.fst ((if attention.wants importance then _ else _ : Run Unit).outcome _ [])
      split <;> rfl

/-- Two steps come to what they come to one after the other. -/
theorem returns_bind {run : Run First} {next : First → Run Second} {first : Except Failure First}
    {second : First → Except Failure Second} (here : run.Returns attention first)
    (behind : ∀ value, (next value).Returns attention (second value)) :
    (run >>= next).Returns attention (first >>= second) := by
  intro notes
  have came := here notes
  rw [outcome_bind]
  cases found : run.outcome attention notes with
  | mk answer noted =>
      rw [found] at came
      subst came
      cases answer with
      | ok value => exact behind value noted
      | error failure => rfl

theorem Settles.bind {run : Run First} {next : First → Run Second}
    (first : run.Settles attention) (second : ∀ value, (next value).Settles attention) :
    (run >>= next).Settles attention := (returns_bind first second).settles

/-- **The result of two steps**, of which only the second has to settle: a performance starts
without notes. -/
theorem result_bind {run : Run First} {next : First → Run Second}
    {second : First → Except Failure Second}
    (behind : ∀ value, (next value).Returns attention (second value)) :
    (run >>= next).result attention = run.result attention >>= second := by
  change ((run >>= next).outcome attention []).1 = (run.outcome attention []).1 >>= second
  rw [outcome_bind]
  cases run.outcome attention [] with
  | mk answer noted =>
      cases answer with
      | ok value => exact behind value noted
      | error failure => rfl

/-- A plain computation makes no notes, so what follows it starts without notes. -/
theorem result_lift_bind (computed : Except Failure First) (next : First → Run Second) :
    ((liftM computed : Run First) >>= next).result attention =
      computed >>= fun value => (next value).result attention := by
  cases computed <;> rfl

theorem ok_of_result_bind {run : Run First} {next : First → Run Second} {result : Second}
    (returned : (run >>= next).result attention = .ok result) :
    ∃ value noted, run.result attention = .ok value ∧
      ((next value).outcome attention noted).1 = .ok result :=
  ok_of_bind returned

/-- A step that is taken on a condition only. -/
theorem Settles.bind_ite {condition : Prop} [Decidable condition] {step : Run PUnit}
    {next : PUnit → Run Result} (taken : step.Settles attention)
    (behind : (next PUnit.unit).Settles attention) :
    (if condition then step >>= next else next PUnit.unit).Settles attention := by
  split
  · exact taken.bind fun _ => behind
  · exact behind

/-- A step for every item of a list. -/
theorem settles_forM {Item : Type} (items : List Item) {step : Item → Run PUnit}
    (each : ∀ item, (step item).Settles attention) : (items.forM step).Settles attention := by
  induction items with
  | nil => exact settles_pure PUnit.unit
  | cons item rest ih => exact (each item).bind fun _ => ih

theorem settles_forIn {Item : Type} (items : List Item) {step : Item → Run Unit}
    (each : ∀ item, (step item).Settles attention) :
    (forIn items PUnit.unit fun item _ => do step item; pure (ForInStep.yield PUnit.unit) :
      Run PUnit).Settles attention := by
  induction items with
  | nil => exact settles_pure _
  | cons item rest ih =>
      rw [List.forIn_cons]
      exact ((each item).bind fun _ => settles_pure (ForInStep.yield PUnit.unit)).bind fun next =>
        match next with
        | .done _ => settles_pure _
        | .yield _ => ih

end Run

end Triage
