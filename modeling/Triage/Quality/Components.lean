import Triage.Collection.Report
import Triage.Config
import Triage.Journal
import Triage.SourceText
import Triage.SourceTree

/-!
# The health of components

Every source file of a designated subsystem is a component with a score of its own.
The score starts at a hundred and loses points for a file without a word that
introduces a type, for every annotation with a permissive type, and for notes of
unfinished work; it never falls below zero.  Beside it stands the alignment: whether
enough of the terms of the subsystem occur in the file.  A file that several
subsystems select belongs to the first of them.

Terms and permissive types have to be texts.  `checkMarkers` fails before the scan when a
permissive type is none; a term that is none fails for the first readable file of its
subsystem.
-/

namespace Triage

set_option autoImplicit false

variable {Number : Type}

/-- The health of a file of a subsystem. -/
structure ComponentHealth where
  name : String
  path : String
  score : Int
  issues : List String
  alignment : Int
  recommendations : List String
deriving Repr, DecidableEq, Inhabited

/-- The record of a component in a report. -/
def ComponentHealth.toValue (component : ComponentHealth) : Value :=
  .table
    [("name", .text component.name), ("path", .text component.path),
      ("health_score", .int component.score), ("issues", textList component.issues),
      ("domain_alignment", .int component.alignment),
      ("recommendations", textList component.recommendations)]

/-- What a file without a type loses. -/
def untypedPenalty : Int := 20

/-- What every permissive annotation costs. -/
def permissivePenalty : Int := 5

/-- What notes of unfinished work cost. -/
def unfinishedPenalty : Int := 10

/-- What a file that says too little about its subsystem loses of its alignment. -/
def alignmentPenalty : Int := 30

/-- How many terms of its subsystem a file has to hold. -/
def alignmentTerms : Nat := 3

/-- Scores and alignments below this one are worth a recommendation. -/
def componentFloor : Int := 80

/-- The terms of a subsystem in lower case, each once. -/
def subsystemTerms (subsystem : Subsystem Number) : List String :=
  ((subsystem.name :: subsystem.keywords).map fun term => Text.lower term.display).eraseDups

/-- Fail unless the terms of a subsystem are texts. -/
def checkTerms (subsystem : Subsystem Number) : Except Failure Unit :=
  (subsystem.name :: subsystem.keywords).forM fun term => discard (term.textOr .notATable)

/-- Fail unless the permissive types are texts. -/
def checkMarkers (profile : Profile) : Except Failure Unit :=
  profile.permissiveMarkers.forM fun marker => discard marker.toText

/-- How well a text fits a subsystem: it has to hold three of its terms, or all of them
when there are fewer. -/
def alignmentOf (subsystem : Subsystem Number) (text : String) : Int :=
  let terms := subsystemTerms subsystem
  let lowered := Text.lower text
  let found := terms.countP fun term => Text.occurs term lowered
  if found < min alignmentTerms terms.length then 100 - alignmentPenalty else 100

/-- The issues of a text and its score before it is cut at zero. -/
def inspectText (profile : Profile) (text : String) : List String × Int :=
  let chars := text.toList
  let untyped := !SourceText.hasTypeWord chars
  let permissive := SourceText.annotations (profile.permissiveMarkers.map Value.display) chars
  let unfinished := SourceText.isUnfinished chars
  ((if untyped then ["No type definitions found"] else []) ++
    (if permissive = 0 then []
      else [toString permissive ++ " permissive type annotations found"]) ++
    (if unfinished then ["Contains TODO/FIXME comments"] else []),
   100 - (if untyped then untypedPenalty else 0) - permissive * permissivePenalty -
    (if unfinished then unfinishedPenalty else 0))

/-- The health of a file with a name, a path and a text. -/
def assessComponent (profile : Profile) (subsystem : Subsystem Number) (name path text : String) :
    ComponentHealth :=
  let (issues, score) := inspectText profile text
  let alignment := alignmentOf subsystem text
  { name := Path.stem name
    path
    score := max 0 score
    issues
    alignment
    recommendations :=
      (if score < componentFloor then ["Review and improve type definitions"] else []) ++
      (if alignment < componentFloor then
        ["Make the " ++ subsystem.title ++ " concepts explicit in this file"] else []) }

/-- The components of the subsystems, and the files that cannot be read. -/
structure ComponentScan where
  components : List ComponentHealth
  unreadable : List String
deriving Repr, DecidableEq, Inhabited

/-- The files of the subsystems, each with the first subsystem that selects it, in the
order of the subsystems and of the tree. -/
def componentFiles (disk : Disk) (tree : SourceTree) (subsystems : List (Subsystem Number)) :
    List (Place × Subsystem Number) :=
  (OrderedMap.bindings
    (subsystems.foldl
      (fun found subsystem =>
        (tree.filesFor disk subsystem).foldl
          (fun found place =>
            if found.contains place then found else found.insert place subsystem)
          found)
      (OrderedMap.empty : OrderedMap Place (Subsystem Number))))

/-- Assess the file at a place. -/
def assessPlace (disk : Disk) (tree : SourceTree) (profile : Profile) (place : Place)
    (subsystem : Subsystem Number) : Option ComponentHealth :=
  match disk.readSource place with
  | .ok text =>
      some (assessComponent profile subsystem (place.getLast?.getD "") (tree.relative place) text)
  | .error _ => none

/-- Scan the files of the subsystems; the healthiest components come first. -/
def scanComponents (disk : Disk) (tree : SourceTree) (profile : Profile)
    (subsystems : List (Subsystem Number)) : ComponentScan :=
  let files := componentFiles disk tree subsystems
  let components := files.filterMap fun (place, subsystem) =>
    assessPlace disk tree profile place subsystem
  let unreadable := files.filter fun (place, subsystem) =>
    (assessPlace disk tree profile place subsystem).isNone
  { components := components.mergeSort fun first second => second.score ≤ first.score
    unreadable := unreadable.map fun file => tree.relative file.1 }

/-- Look at the files that a subsystem selects and no subsystem before it has, and note
those that cannot be read. -/
def noteComponents (disk : Disk) (tree : SourceTree) (subsystem : Subsystem Number) :
    List Place → Run Unit
  | [] => pure ()
  | place :: rest => do
      match disk.readSource place with
      | .ok _ => checkTerms subsystem
      | .error failure =>
          Run.warn ("Excluding unreadable component " ++ (Path.ofPlace place).text ++ ": " ++
            disk.unreadableText place failure)
      noteComponents disk tree subsystem rest

/-- Look at the files of subsystems one after the other; those at `seen` have been looked
at already. -/
def noteScan (disk : Disk) (tree : SourceTree) (seen : List Place) :
    List (Subsystem Number) → Run Unit
  | [] => pure ()
  | subsystem :: rest => do
      tree.checkFilesFor disk subsystem
      let found := (tree.filesFor disk subsystem).filter fun place => !seen.contains place
      noteComponents disk tree subsystem found
      noteScan disk tree (seen ++ found) rest

/-- Scan the files of the subsystems and note those that cannot be read. -/
def reportComponents (disk : Disk) (tree : SourceTree) (profile : Profile)
    (subsystems : List (Subsystem Number)) : Run ComponentScan := do
  checkMarkers profile
  noteScan disk tree [] subsystems
  return scanComponents disk tree profile subsystems

end Triage
