import Triage.Text.WordChar
import Triage.Value.Conversion
import Triage.Value.Holding

/-!
# Markers

A marker is a text whose mention in a message or a source file means something, such
as the name of a permissive type.  A marker that is a word is mentioned where it
stands as a whole word; every other marker is mentioned wherever it occurs.  A line
feed at the end of a word does not keep it from being one.

Markers are settings and messages are reported, so neither is sure to be a text;
`mention?_text` says that a mention fails only if one of them is not.
-/

namespace Triage.Marker

set_option autoImplicit false

open Triage.Text

/-- Whether a marker is a word. -/
def isWord (marker : List Char) : Bool :=
  let body := if marker.getLast? = some '\n' then marker.dropLast else marker
  !body.isEmpty && body.all isWordChar

/-- Whether a text starts with a word character. -/
def startsInWord : List Char → Bool
  | [] => false
  | c :: _ => isWordChar c

/-- Whether `word` stands at the start of a text with no word character behind it. -/
def endsWholeAt (word text : List Char) : Bool :=
  word.isPrefixOf text && !startsInWord (text.drop word.length)

/-- Whether `word` occurs with no word character on either side; `afterWord` tells
whether a word character comes before the text. -/
def occursWhole (word : List Char) (afterWord : Bool) : List Char → Bool
  | [] => !afterWord && endsWholeAt word []
  | c :: rest =>
      (!afterWord && endsWholeAt word (c :: rest)) || occursWhole word (isWordChar c) rest

/-- Whether a text mentions a marker. -/
def mentionedIn (marker text : List Char) : Bool :=
  if isWord marker then occursWhole marker false text else occursIn marker text

/-- Whether a value mentions a marker.  The marker has to be a text, and only a text can
mention a word; any other marker is mentioned by whatever holds it. -/
def mention? (marker text : Value) : Verdict := do
  let written ← marker.toText
  if isWord written.toList then return occursWhole written.toList false (← text.toText).toList
  else text.holds? marker

/-- Whether a value mentions one of the markers. -/
def mentionAny? (markers : List Value) (text : Value) : Verdict :=
  markers.anyM fun marker => mention? marker text

/-- Fail if it cannot be told how often texts mention markers. -/
def checkHits (markers texts : List Value) : Except Failure Unit :=
  markers.forM fun marker => texts.forM fun text => (mention? marker text).check

/-- The number of pairs of a marker and a text that mentions it. -/
def hits (markers texts : List Value) : Nat :=
  let counts := markers.map fun marker => texts.countP fun text => (mention? marker text).passed
  counts.foldl (· + ·) 0

/-- Whether one text mentions another never fails. -/
theorem mention?_text (marker text : String) :
    mention? (.text marker) (.text text) = .ok (mentionedIn marker.toList text.toList) := by
  by_cases word : isWord marker.toList <;>
    simp [mention?, mentionedIn, word, Value.toText, Value.textOr, bind, Except.bind, pure,
      Except.pure, Text.occurs]

end Triage.Marker
