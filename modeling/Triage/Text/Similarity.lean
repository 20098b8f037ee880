/-!
# How similar two texts are

Two texts are similar when much of both lies in runs of characters that they share.  The
longest such run is taken first; of several it is the one that starts earliest in the first
text, and then earliest in the second.  What stands before the run in both texts, and what
stands behind it in both, is compared in the same way.

A candidate is close to a text when at least three fifths of the characters of both lie in
shared runs.  `closest` is what is suggested to someone who has written the text and must
have meant something else.
-/

namespace Triage.Text

set_option autoImplicit false

/-- A run of characters in two texts: where it starts in each of them, and its length. -/
structure SharedRun where
  first : Nat
  second : Nat
  length : Nat
deriving Repr, DecidableEq, Inhabited

/-- The longer of two runs, the first one when they are of one length. -/
def SharedRun.longer (run other : SharedRun) : SharedRun :=
  if run.length < other.length then other else run

/-- The length of the longest text that two texts start with. -/
def commonStart : List Char → List Char → Nat
  | c :: first, d :: second => if c = d then commonStart first second + 1 else 0
  | _, _ => 0

/-- The longest of a run and of those between the start of `first`, which stands at
`place`, and any place of the second text from `other` on. -/
def longestAt (first : List Char) (place other : Nat) (run : SharedRun) :
    List Char → SharedRun
  | [] => run
  | c :: rest =>
      longestAt first place (other + 1)
        (run.longer ⟨place, other, commonStart first (c :: rest)⟩) rest

/-- The longest of a run and of those between any place of the first text, from `place`
on, and any place of the second. -/
def longestFrom (second : List Char) (place : Nat) (run : SharedRun) : List Char → SharedRun
  | [] => run
  | c :: rest =>
      longestFrom second (place + 1) (longestAt (c :: rest) place 0 run second) rest

/-- The longest run that two texts share; it is empty when they share no character. -/
def longestRun (first second : List Char) : SharedRun := longestFrom second 0 ⟨0, 0, 0⟩ first

/-- How many characters of each of two texts lie in shared runs. -/
def sharedLength (first second : List Char) : Nat :=
  let run := longestRun first second
  if _ : 0 < run.length ∧ run.first < first.length then
    sharedLength (first.take run.first) (second.take run.second) + run.length +
      sharedLength (first.drop (run.first + run.length)) (second.drop (run.second + run.length))
  else 0
termination_by first.length
decreasing_by
  · simp +zetaDelta only [List.length_take] at *; omega
  · simp +zetaDelta only [List.length_drop] at *; omega

/-- A candidate, the number of its characters that it shares with a text, and the number
of characters that the two have together. -/
structure Likeness where
  candidate : String
  shared : Nat
  together : Nat
deriving Repr, DecidableEq, Inhabited

namespace Likeness

/-- How a candidate is like a text. -/
def of (text candidate : String) : Likeness where
  candidate := candidate
  shared := sharedLength candidate.toList text.toList
  together := candidate.length + text.length

/-- Whether the candidate is close: twice what it shares is at least three fifths of what
there is. -/
def isClose (likeness : Likeness) : Bool := 3 * likeness.together ≤ 10 * likeness.shared

/-- Whether a candidate comes before another one or at its place: the one that shares the
greater part does, and of two that share the same part the later in the alphabet. -/
def le (likeness other : Likeness) : Bool :=
  let part := likeness.shared * other.together
  let otherPart := other.shared * likeness.together
  otherPart < part || (part = otherPart && !(likeness.candidate < other.candidate))

end Likeness

/-- How many candidates are suggested. -/
def maxSuggestions : Nat := 3

/-- The candidates that are closest to a text, in alphabetical order. -/
def closest (text : String) (candidates : List String) : List String :=
  let close := (candidates.map (Likeness.of text)).filter Likeness.isClose
  (((close.mergeSort Likeness.le).take maxSuggestions).map Likeness.candidate).mergeSort
    fun candidate other => !(other < candidate)

end Triage.Text
