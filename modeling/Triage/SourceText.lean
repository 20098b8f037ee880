import Triage.Marker
import Triage.Text.Blank

/-!
# What a source file says

Source files are not parsed.  Three simple signs are looked for in their text: words
that introduce a type, points where the flow of control branches, and annotations
with a permissive type.  Words count only as whole words.
-/

namespace Triage.SourceText

set_option autoImplicit false

open Triage.Text
open Triage.Marker (startsInWord endsWholeAt occursWhole)

/-! ## Types -/

/-- The words that introduce a type. -/
def typeWords : List (List Char) := ["interface".toList, "type".toList, "class".toList]

/-- Whether a word that introduces a type occurs. -/
def hasTypeWord (text : List Char) : Bool := typeWords.any fun word => occursWhole word false text

/-- Whether an identifier may start with `c`. -/
def startsIdentifier (c : Char) : Bool :=
  let code := c.toNat
  (65 ≤ code && code ≤ 90) || (97 ≤ code && code ≤ 122) || c == '_' || c == '$'

/-- Whether a text goes on with blanks and then an identifier. -/
def namesSomething (text : List Char) : Bool :=
  match text with
  | [] => false
  | c :: rest =>
      isBlank c &&
        match rest.dropWhile isBlank with
        | [] => false
        | next :: _ => startsIdentifier next

/-- Whether a declaration stands at the start of a text. -/
def declaresHere (text : List Char) : Bool :=
  typeWords.any fun word => word.isPrefixOf text && namesSomething (text.drop word.length)

/-- Whether a type is declared; `afterWord` tells whether a word character comes before
the text. -/
def declaresTypeFrom (afterWord : Bool) : List Char → Bool
  | [] => false
  | c :: rest =>
      (!afterWord && declaresHere (c :: rest)) || declaresTypeFrom (isWordChar c) rest

/-- Whether a text declares a type: a word that introduces one, then a name. -/
def declaresType (text : List Char) : Bool := declaresTypeFrom false text

/-! ## Branches -/

/-- The words after which control branches. -/
def branchWords : List (List Char) :=
  ["if".toList, "for".toList, "while".toList, "case".toList, "catch".toList]

/-- Whether a branching word stands at the start of a text. -/
def branchesHere (text : List Char) : Bool := branchWords.any fun word => endsWholeAt word text

/-- The number of branching words and of the operators made of two bars or two
ampersands, which do not overlap. -/
def branchesFrom (afterWord : Bool) : List Char → Nat
  | [] => 0
  | '&' :: '&' :: rest => branchesFrom false rest + 1
  | '|' :: '|' :: rest => branchesFrom false rest + 1
  | c :: rest =>
      (if !afterWord && branchesHere (c :: rest) then 1 else 0) + branchesFrom (isWordChar c) rest

/-- The number of points in a text where control branches. -/
def branches (text : List Char) : Nat := branchesFrom false text

/-! ## Permissive annotations -/

/-- The length of the first of the markers that stands at the start of a text with no
word character behind it. -/
def markerLength? (markers : List (List Char)) (text : List Char) : Option Nat :=
  (markers.find? fun marker => endsWholeAt marker text).map List.length

/-- The length of a permissive annotation behind its colon: a marker, after one blank
if that is possible. -/
def annotationLength? (markers : List (List Char)) (text : List Char) : Option Nat :=
  let afterBlank := match text with
    | c :: rest => if isBlank c then (markerLength? markers rest).map (· + 1) else none
    | [] => none
  match afterBlank with
  | some length => some length
  | none => markerLength? markers text

/-- The number of permissive annotations that do not overlap; the first `skipped`
characters belong to an annotation that has been counted. -/
def annotationsFrom (markers : List (List Char)) (skipped : Nat) : List Char → Nat
  | [] => 0
  | c :: rest =>
      if 0 < skipped then annotationsFrom markers (skipped - 1) rest
      else if c = ':' then
        match annotationLength? markers rest with
        | some length => annotationsFrom markers length rest + 1
        | none => annotationsFrom markers 0 rest
      else annotationsFrom markers 0 rest

/-- The number of annotations with a permissive type. -/
def annotations (markers : List String) (text : List Char) : Nat :=
  annotationsFrom (markers.map String.toList) 0 text

/-! ## Notes -/

/-- The notes that mark unfinished work. -/
def unfinishedNotes : List (List Char) := ["TODO".toList, "FIXME".toList]

/-- Whether a text holds a note that marks unfinished work. -/
def isUnfinished (text : List Char) : Bool := unfinishedNotes.any fun note => occursIn note text

end Triage.SourceText
