import Triage.CommandLine.Response
import Triage.Compiler.Replay

/-!
# A host that replays

The plain host takes the compiler from the programs that replay one.  Its terminal makes nothing of
markup, so there is nothing that it cannot show.
-/

namespace Triage.CommandLine

set_option autoImplicit false

/-- The host that replays compilers and shows everything. -/
def Host.plain : Host := { programs := .replaying, shows := fun _ => true }

@[simp] theorem Host.show_plain (items : List Display.Item) : Host.plain.show items = .ok () :=
  if_pos (List.all_eq_true.2 fun _ _ => rfl)

end Triage.CommandLine
