import Triage.Glob
import Triage.Text.LowerCase
import Triage.Value.Conversion
import Triage.Value.Holding

/-!
# Designated subsystems

A subsystem is an area of a code base that is scored by itself and mended first.  It
is recognised in two ways: one of its keywords occurs in a message or a path, or one
of its globs selects a path.  A subsystem that is given by its name alone has its
name as its keyword, and as its glob every path that holds the name.

All settings that would be texts are kept as they were written, and only looking at one
that is no text fails.  Keywords and globs are looked at in order and no further than
needed, so one of the wrong kind may never come up.  `concerns?` is the test with all its
failures; `concernedBy` says whether it passes.

Scores, and so the thresholds that scores are held against, may be floating-point
numbers or exact ones; `Number` is the kind of number in use.
-/

namespace Triage

set_option autoImplicit false

/-- How much weight a subsystem has when plans are ordered. -/
inductive Tier where
  | primary
  | secondary
deriving Repr, DecidableEq, Inhabited

/-- The word for a tier. -/
def Tier.word : Tier → String
  | .primary => "primary"
  | .secondary => "secondary"

/-- The tier that a word stands for. -/
def Tier.ofWord? (word : String) : Option Tier :=
  [Tier.primary, .secondary].find? fun tier => tier.word = word

/-- An area of the code base that is scored and mended with priority. -/
structure Subsystem (Number : Type) where
  name : Value
  /-- What is looked up in messages and paths, case counting. -/
  keywords : List Value
  /-- What selects the files of the subsystem, relative to the project. -/
  globs : List Value
  tier : Tier
  /-- A score below this one is worth a recommendation. -/
  healthThreshold : Number
  /-- More diagnostics than this are critical. -/
  criticalThreshold : Int
  /-- What to recommend; nothing, or nothing to speak of, for the standard text. -/
  recommendation : Value
  /-- Steps to take after a fix, on top of the standard ones. -/
  validationSteps : List Value
deriving Inhabited

namespace Subsystem

variable {Number : Type}

/-- The name as it is shown inside a text. -/
def title (subsystem : Subsystem Number) : String := subsystem.name.display

/-- What a leading pair of stars with its slash may stand for at any depth. -/
def anyDepth : String := "**/"

/-- The glob of a subsystem that is given by its name alone. -/
def defaultGlob (name : String) : String := "**/*" ++ name ++ "*"

/-- Fill in the keywords and globs that follow from the name. -/
def withDefaults (subsystem : Subsystem Number) : Subsystem Number :=
  { subsystem with
    keywords := if subsystem.keywords.isEmpty then [subsystem.name] else subsystem.keywords
    globs :=
      if subsystem.globs.isEmpty then [.text (defaultGlob subsystem.title)]
      else subsystem.globs }

/-! ## What a subsystem is concerned by -/

/-- Whether something that was reported holds a keyword. -/
def matchesText? (subsystem : Subsystem Number) (reported : Value) : Verdict :=
  subsystem.keywords.anyM reported.holds?

/-- Whether a glob selects a path written with slashes: as it is, or, when it starts
with the any-depth mark, without that mark. -/
def globSelects (path : List Char) (glob : List Char) : Bool :=
  Glob.matchesChars glob path ||
    (anyDepth.toList.isPrefixOf glob && Glob.matchesChars (glob.drop anyDepth.length) path)

/-- Whether a glob, which has to be a text, selects a path written with slashes. -/
def globSelects? (path : List Char) (glob : Value) : Verdict := do
  return globSelects path (← glob.toText).toList

/-- Whether a glob selects a path; backslashes in the path count as slashes. -/
def matchesPath? (subsystem : Subsystem Number) (path : Value) : Verdict := do
  let slashed := Text.substitute '\\' '/' (← path.textOr .notATable).toList
  subsystem.globs.anyM (globSelects? slashed)

/-- Whether the subsystem is concerned by a file. -/
def concernsFile? (subsystem : Subsystem Number) (file : Value) : Verdict := do
  if ← subsystem.matchesText? file then return true
  subsystem.matchesPath? file

/-- Whether the subsystem is concerned by a diagnostic with this message in this file. -/
def concerns? (subsystem : Subsystem Number) (message file : Value) : Verdict := do
  if ← subsystem.matchesText? message then return true
  subsystem.concernsFile? file

/-- Whether something that was reported holds a keyword. -/
def matchesText (subsystem : Subsystem Number) (reported : Value) : Bool :=
  (subsystem.matchesText? reported).passed

/-- Whether a glob selects a path. -/
def matchesPath (subsystem : Subsystem Number) (path : Value) : Bool :=
  (subsystem.matchesPath? path).passed

/-- Whether the subsystem is concerned by a diagnostic with this message in this file. -/
def concernedBy (subsystem : Subsystem Number) (message file : Value) : Bool :=
  (subsystem.concerns? message file).passed

/-- Fail unless entries of a report can be filed under the name. -/
def checkEntry (subsystem : Subsystem Number) : Except Failure Unit :=
  if subsystem.name.namesEntry then .ok () else .error .wrongKind

/-! ## The name inside a report key -/

/-- Whether `c` may stand in an attribute name. -/
def isAttributeChar (c : Char) : Bool :=
  let code := c.toNat
  (48 ≤ code && code ≤ 57) || (65 ≤ code && code ≤ 90) || (97 ≤ code && code ≤ 122)

/-- Keep the ASCII letters and digits of a name, each run of them starting with a
capital; `inRun` tells whether a run is being read. -/
def attributeFrom (inRun : Bool) : List Char → List Char
  | [] => []
  | c :: rest =>
      if isAttributeChar c then
        (if inRun then c else Text.upperAscii c) :: attributeFrom true rest
      else attributeFrom false rest

/-- The form of a name that is part of a report key. -/
def attributeNameOf (name : String) : String := String.ofList (attributeFrom false name.toList)

/-- The form of the name that is part of a report key. -/
def attributeName (subsystem : Subsystem Number) : String := attributeNameOf subsystem.title

end Subsystem

end Triage
