import Triage.Config
import Triage.Failure
import Triage.Text.Blank

/-!
# Designating a subsystem in one text

A subsystem can be designated in a single text: its name, and after an equals sign
its keywords with commas in between.  Blanks around the name and the keywords do not
count, and neither do keywords that are blank.
-/

namespace Triage

set_option autoImplicit false

/-- The keywords that are written with commas in between. -/
def readKeywords (written : List Char) : List String :=
  ((Text.cutAt ',' written).map Text.trimChars).filterMap fun keyword =>
    if keyword.isEmpty then none else some (String.ofList keyword)

/-- Read a subsystem from a text. -/
def Subsystem.ofText {Number : Type} [Scalar Number] (written : String) (tier : Tier) :
    Except Failure (Subsystem Number) :=
  let (before, after) := Text.cutFirst '=' written.toList
  let name := Text.trimChars before
  if name.isEmpty then .error (.configuration (.invalidSubsystemOption written))
  else .ok (Subsystem.designate (String.ofList name) (readKeywords after) tier)

end Triage
