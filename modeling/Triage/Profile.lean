import Triage.Value.Identity
import Triage.Verdict

/-!
# The profile of a compiler

How a compiler is run and how its answers are read: the command, the file that
configures the compiler, the time it may take, the ranges of its codes, and the
markers in its messages and in paths.  The standard profile is that of a compiler
that reports parse errors with codes from 1000 on, typing errors from 2000 on, and
unresolved modules with a few codes among the latter.

The command, the file and the markers are kept as they were written, and codes as they
were reported; a code that is no number lies in no range and cannot be compared with one.
-/

namespace Triage

set_option autoImplicit false

/-- A closed range of codes. -/
structure CodeRange where
  low : Int
  high : Int
deriving Repr, DecidableEq, Inhabited

/-- Whether a code lies in a range. -/
def CodeRange.holds? (range : CodeRange) (code : Value) : Verdict :=
  match code.identity with
  | [.number size] => .ok ((range.low : Rat) ≤ size && size ≤ (range.high : Rat))
  | [.infinite _] | [.undefined _] => .ok false
  | _ => .error .wrongKind

/-- A whole number is compared with the ends of a range. -/
@[simp] theorem CodeRange.holds?_int (range : CodeRange) (code : Int) :
    range.holds? (.int code) = .ok (range.low ≤ code && code ≤ range.high) := by
  simp only [CodeRange.holds?, Value.identity, Rat.intCast_le_intCast]

/-- How a compiler is run and how its answers are read. -/
structure Profile where
  /-- The command and its first arguments. -/
  command : List Value := [.text "npx", .text "--no-install", .text "tsc"]
  /-- The file that configures the compiler, seen from the project. -/
  settingsFile : Value := .text "tsconfig.json"
  timeoutSeconds : Int := 600
  parseRange : CodeRange := ⟨1000, 1999⟩
  typeRange : CodeRange := ⟨2000, 2999⟩
  moduleResolutionCodes : List CodeRange := [⟨2304, 2307⟩, ⟨2792, 2792⟩]
  /-- Types that switch checking off. -/
  permissiveMarkers : List Value := [.text "any", .text "unknown"]
  /-- Ways to run text as code. -/
  dynamicEvalMarkers : List Value := [.text "eval", .text "Function("]
  /-- Parts of the paths of sensitive files. -/
  infrastructureMarkers : List Value := [.text "auth", .text "server"]
deriving Inhabited

namespace Profile

/-- Whether a code reports a parse error. -/
def isParseCode? (profile : Profile) (code : Value) : Verdict := profile.parseRange.holds? code

/-- Whether a code reports a typing error. -/
def isTypeCode? (profile : Profile) (code : Value) : Verdict := profile.typeRange.holds? code

/-- Whether a code reports an unresolved module. -/
def isModuleResolutionCode? (profile : Profile) (code : Value) : Verdict :=
  profile.moduleResolutionCodes.anyM fun range => range.holds? code

end Profile

end Triage
