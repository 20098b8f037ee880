import Triage.Project

/-!
# Repeated runs

A session analyses one project again and again.  It keeps the listing of the source
files that the first run has made, and the overall score of the last run, which the
next trend is measured against.  A run that fails late leaves its listing behind, and a
run that fails leaves no score.
-/

namespace Triage

set_option autoImplicit false

/-- A project that is analysed repeatedly. -/
structure Session where
  project : Project
  /-- The overall score of the last run. -/
  previous : Option Float

/-- Run all stages, and what the session is afterwards. -/
def Session.run (session : Session) (disk : Disk) (observedAt : String)
    (withComponents : Bool) : Run (Analysis × Session) := do
  let analysis ← session.project.analyze disk session.previous observedAt withComponents
  return (analysis,
    { project := session.project.listed (session.project.diskAfter disk)
      previous := some analysis.quality.metrics.overall.score })

/-- What the session is after a run that has failed. -/
def Session.afterFailure (session : Session) (disk : Disk) : Session :=
  if session.project.listsFiles disk then
    { session with project := session.project.listed (session.project.diskAfter disk) }
  else session

end Triage
