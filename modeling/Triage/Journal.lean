import Triage.Failure

/-!
# The journal of a run

While an analysis runs it notes what it does and what it had to pass over.  A run is
a computation that may fail and that keeps a journal; the notes made before a failure
stay.  What a stage computes is a pure function everywhere in this library, and runs
only add the notes.

A journal has a reader, who may want to know everything, or only what went wrong, or
nothing.  A note that nobody wants to know is not made, and its words are not looked for.
So words that cannot be found fail a run only when somebody would have read them.
-/

namespace Triage

set_option autoImplicit false

/-- How important a note is. -/
inductive Importance where
  | info
  | warning
deriving Repr, DecidableEq, Inhabited

/-- The word for an importance. -/
def Importance.word : Importance → String
  | .info => "INFO"
  | .warning => "WARNING"

/-- A note in the journal. -/
structure Note where
  importance : Importance
  message : String
deriving Repr, DecidableEq, Inhabited

/-- What the reader of a journal wants to know. -/
inductive Attention where
  | nothing
  | warnings
  | everything
deriving Repr, DecidableEq, Inhabited

/-- Whether notes of an importance are wanted. -/
def Attention.wants : Attention → Importance → Bool
  | .nothing, _ => false
  | .warnings, importance => importance = .warning
  | .everything, _ => true

/-- A computation that may fail and that keeps a journal for a reader, last note first. -/
abbrev Run := ReaderT Attention (ExceptT Failure (StateM (List Note)))

namespace Run

/-- Note words that may not be found; they are looked for when the note is wanted. -/
def note (importance : Importance) (words : Except Failure String) : Run Unit := do
  if (← read).wants importance then
    let message ← words
    modify fun notes => ⟨importance, message⟩ :: notes

/-- Note what is being done. -/
def info (message : String) : Run Unit := note .info (.ok message)

/-- Note what had to be passed over. -/
def warn (message : String) : Run Unit := note .warning (.ok message)

/-- The result of a run and its journal for a reader, first note first. -/
def perform {Result : Type} (run : Run Result) (attention : Attention) :
    Except Failure Result × List Note :=
  let (result, notes) := (run.run attention).run []
  (result, notes.reverse)

end Run

end Triage
