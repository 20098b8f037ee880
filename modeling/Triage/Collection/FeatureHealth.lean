import Triage.Journal
import Triage.OrderedMap
import Triage.SourceText
import Triage.SourceTree

/-!
# Feature health

A subsystem is healthy as a feature when one of its readable files declares a type, and
also when none of its files can be read.  Files that cannot be read are left out of
the decision and listed once each, in the order in which the subsystems come to them.
Of two subsystems with one name the later one decides.  An answer is filed under the name
of its subsystem, which therefore has to name an entry.

A file may belong to several subsystems.  It is looked into when the first of them comes to
it, and what was found out is kept in a survey for the others.
-/

namespace Triage

set_option autoImplicit false

variable {Number : Type}

/-- Whether the file at a place declares a type; nothing when it cannot be read. -/
def declaresTypeAt (disk : Disk) (place : Place) : Option Bool :=
  match disk.readSource place with
  | .ok text => some (SourceText.declaresType text.toList)
  | .error _ => none

/-- What has been found out while subsystems are gone through. -/
structure FeatureSurvey where
  /-- Whether the files that were looked into declare a type; nothing for those that cannot
  be read. -/
  declares : OrderedMap Place (Option Bool)
  /-- The files that cannot be read, in the order in which they were come to. -/
  unreadable : List Place
  /-- The health of the subsystems. -/
  health : OrderedMap Value Bool

namespace FeatureSurvey

/-- The survey that nothing has been looked into for. -/
def empty : FeatureSurvey := ⟨.empty, [], .empty⟩

/-- Look into a file that has not been looked into yet. -/
def lookInto (disk : Disk) (survey : FeatureSurvey) (place : Place) : FeatureSurvey :=
  if survey.declares.contains place then survey
  else
    let declared := declaresTypeAt disk place
    { survey with
      declares := survey.declares.insert place declared
      unreadable := survey.unreadable ++ if declared.isNone then [place] else [] }

/-- Look into files one after the other, and tell of each that can be read whether it
declares a type. -/
def lookThrough (disk : Disk) (survey : FeatureSurvey) :
    List Place → FeatureSurvey × List Bool
  | [] => (survey, [])
  | place :: rest =>
      let looked := survey.lookInto disk place
      let (behind, answers) := looked.lookThrough disk rest
      (behind, (looked.declares.find? place).join.toList ++ answers)

/-- Look through the files of a subsystem and decide whether it is healthy. -/
def decideOn (disk : Disk) (tree : SourceTree) (survey : FeatureSurvey)
    (subsystem : Subsystem Number) : FeatureSurvey :=
  let (looked, answers) := survey.lookThrough disk (tree.filesFor disk subsystem)
  { looked with
    health := looked.health.insert subsystem.name (answers.isEmpty || answers.any id) }

end FeatureSurvey

/-- The survey of subsystems, one after the other. -/
def surveyFeatures (disk : Disk) (tree : SourceTree) (subsystems : List (Subsystem Number)) :
    FeatureSurvey :=
  subsystems.foldl (FeatureSurvey.decideOn disk tree) .empty

/-- The health of every subsystem. -/
def featureHealth (disk : Disk) (tree : SourceTree) (subsystems : List (Subsystem Number)) :
    OrderedMap Value Bool :=
  (surveyFeatures disk tree subsystems).health

/-- The files of the subsystems that cannot be read, each once. -/
def unreadableFeatures (disk : Disk) (tree : SourceTree)
    (subsystems : List (Subsystem Number)) : List Place :=
  (surveyFeatures disk tree subsystems).unreadable

/-- Ask for the health of subsystems one after the other, and note the files that are found
to be unreadable on the way. -/
def noteFeatures (disk : Disk) (tree : SourceTree) (survey : FeatureSurvey) :
    List (Subsystem Number) → Run Unit
  | [] => pure ()
  | subsystem :: rest => do
      tree.checkFilesFor disk subsystem
      let later := survey.decideOn disk tree subsystem
      for place in later.unreadable.drop survey.unreadable.length do
        Run.warn ("Could not read " ++ (Path.ofPlace place).text ++ " for feature detection")
      subsystem.checkEntry
      noteFeatures disk tree later rest

end Triage
