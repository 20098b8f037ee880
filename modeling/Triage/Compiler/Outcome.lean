import Triage.Collection.CompilerOutput
import Triage.Disk
import Triage.Profile

/-!
# The outcome of a compiler run

A compiler that has run ends with a status, negative when a signal has ended it, and
has written an output and a complaint.  Its diagnostics are those of the output.  A
run that ends badly without a single diagnostic but with a complaint is a failure of
the compiler itself.

Which programs there are and what they do is given (`Programs`): what is said about
compilers holds whatever a command comes to, and whatever it does to the disk.
-/

namespace Triage

set_option autoImplicit false

/-- How the run of a command has ended. -/
inductive Outcome where
  | notFound
  /-- The program could not be started, for a reason other than that it was not found. -/
  | refused (reason : Failure)
  | tooSlow
  /-- The run was given more time than can be waited for. -/
  | endless
  | finished (status : Int) (output complaint : ByteArray)

/-- The programs of a machine.  A command is run on a disk, in a directory, with some seconds to
spare; it comes to an outcome and to the disk that it leaves, which depend on nothing else. -/
structure Programs where
  run : Disk → Place → Int → List String → Outcome × Disk

/-- The text that a command has written, its line ends unified. -/
def writtenText (bytes : ByteArray) : Except Failure String := do
  let text ← Disk.decode bytes
  return String.ofList (Text.unifyLineEnds text.toList)

/-- The records of a compiler that has ended with this status, output and complaint. -/
def recordsOfRun (status : Int) (output complaint : String) :
    Except Failure (List RawDiagnostic) := do
  let records ← CompilerOutput.parse output
  let said := Text.trim complaint
  if status ≠ 0 ∧ records = [] ∧ said ≠ "" then throw (.compiler (.failed status said))
  return records.map CompilerOutput.Record.toRaw

/-- How a compiler is run: the command and its first arguments, and the file that
configures the compiler. -/
structure Invocation where
  command : List String
  settings : Path

/-- The whole command that is run. -/
def Invocation.words (invocation : Invocation) : List String :=
  invocation.command ++ ["--noEmit", "--pretty", "false", "-p", invocation.settings.text]

/-- Fail if a word of the command holds a null character, which no program can be given. -/
def Invocation.checkWords (invocation : Invocation) : Except Failure Unit :=
  if invocation.words.any fun word => word.toList.contains '\x00' then .error .invalidValue
  else .ok ()

/-- The records of a compiler run that was given some time. -/
def Outcome.records (invocation : Invocation) (seconds : Int) :
    Outcome → Except Failure (List RawDiagnostic)
  | .notFound =>
      match invocation.command with
      | [] => .error .emptyCommand
      | command :: _ => .error (.compiler (.notFound command))
  | .refused reason => .error reason
  | .tooSlow => .error (.compiler (.tooSlow seconds))
  | .endless => .error .infiniteNumber
  | .finished status output complaint => do
      let output ← writtenText output
      let complaint ← writtenText complaint
      recordsOfRun status output complaint

/-- How the compiler of the project at `root` is run.  The file that configures it has to
stand on the disk before the command matters. -/
def Profile.invocation (profile : Profile) (disk : Disk) (root : Path) :
    Except Failure Invocation := do
  let settings := root.join (Path.parse (← profile.settingsFile.toText))
  if !(← disk.isFile? settings) then
    throw (.configuration (.compilerSettingsMissing settings.text))
  return { command := ← profile.command.mapM Value.toText, settings }

end Triage
