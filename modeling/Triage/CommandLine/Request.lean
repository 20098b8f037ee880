import Triage.CommandLine.Switch
import Triage.Decimal.Numeral
import Triage.Decimal.Shortest
import Triage.Disk

/-!
# Requests

Arguments that make sense ask for the version, for help, or for a command with its
parameters.  Of a switch that is given several times the last value counts, except
that every subsystem counts.  Values are checked in the order in which the switches
first occur, then the directory of the project, and what is left over last of all.
-/

namespace Triage.CommandLine

set_option autoImplicit false

/-- The commands. -/
inductive Command where
  | analyze
  | patterns
  | fixes
  | quality
  | components
deriving Repr, DecidableEq, Inhabited

namespace Command

/-- The name of a command. -/
def word : Command → String
  | .analyze => "analyze"
  | .patterns => "patterns"
  | .fixes => "fixes"
  | .quality => "quality"
  | .components => "components"

/-- All commands. -/
def all : List Command := [.analyze, .patterns, .fixes, .quality, .components]

/-- The command that a word stands for. -/
def ofWord? (word : String) : Option Command := all.find? fun command => command.word = word

/-- The switches that every command that collects diagnostics knows. -/
def collectionSwitches : List Switch :=
  [.maxDiagnostics, .includeDependencies, .subsystem, .diagnosticsFile, .verbose]

/-- The switches of a command. -/
def switches : Command → List Switch
  | .analyze | .quality => collectionSwitches ++ [.exportTo, .failUnder, .help]
  | .patterns => collectionSwitches ++ [.exportTo, .help]
  | .fixes => collectionSwitches ++ [.limit, .exportTo, .help]
  | .components => [.subsystem, .exportTo, .verbose, .help]

end Command

/-- How many suggestions are printed unless another number is given. -/
def standardLimit : Int := 20

/-- The parameters of a command. -/
structure Parameters where
  /-- The directory of the project. -/
  root : Path := ⟨0, []⟩
  maxDiagnostics : Option Int := none
  includeDependencies : Bool := false
  /-- Subsystems as they were written. -/
  subsystems : List String := []
  diagnosticsFile : Option Path := none
  verbose : Bool := false
  exportTo : Option Path := none
  /-- The lowest score that passes; zero lets every score pass. -/
  failUnder : Float := 0
  limit : Int := standardLimit

/-- What is asked for. -/
inductive Request where
  | version
  | help
  | run (command : Command) (parameters : Parameters)

/-! ## Checking values -/

/-- A whole number that is not below a bound. -/
def wholeFrom (bound : Int) (written : String) : Except ValueFault Int :=
  match Decimal.readInt? written with
  | none => .error (.notWhole written)
  | some number =>
      if number < bound then .error (.outOfRange (toString number) ("x>=" ++ toString bound))
      else .ok number

/-- A score from zero to a hundred. -/
def scoreWithin (written : String) : Except ValueFault Float :=
  match Decimal.readFloat? written with
  | none => .error (.notNumber written)
  | some number =>
      if number < 0 || 100 < number then
        .error (.outOfRange (Decimal.shortest number) "0<=x<=100")
      else .ok number

/-- What stands at a path that is written as seen from a working directory. -/
def nodeWritten (disk : Disk) (directory : Place) (written : String) : Option Node :=
  if written = "" then none
  else
    match disk.nodeOf ((Path.ofPlace directory).join (Path.parse written)) with
    | some (.file bytes) => if Path.asksForDirectory written then none else some (.file bytes)
    | other => other

/-- Read a path that is written on the command line. -/
def writtenPath (written : String) : Except ValueFault Path :=
  let path := Path.parse written
  if path.hasNul then .error (.notAPath written) else .ok path

/-- A path of a directory, which need not exist. -/
def directoryPath (disk : Disk) (directory : Place) (written : String) :
    Except ValueFault Path := do
  let path ← writtenPath written
  match nodeWritten disk directory written with
  | some (.file _) => throw (.directoryIsFile written)
  | _ => return path

/-- A path of a directory that exists. -/
def existingDirectory (disk : Disk) (directory : Place) (written : String) :
    Except ValueFault Path := do
  let path ← directoryPath disk directory written
  match nodeWritten disk directory written with
  | none => throw (.noSuchDirectory written)
  | some _ => return path

/-- A path of a file, which need not exist. -/
def filePath (disk : Disk) (directory : Place) (written : String) : Except ValueFault Path := do
  let path ← writtenPath written
  match nodeWritten disk directory written with
  | some .directory => throw (.fileIsDirectory written)
  | _ => return path

/-! ## From arguments to a request -/

/-- Set the parameter of a switch to its value, or to all values that were given. -/
def Parameters.set (parameters : Parameters) (disk : Disk) (directory : Place)
    (command : Command) (switch : Switch) (value : String) (values : List String) :
    Except ValueFault Parameters :=
  match switch with
  | .version | .help => .ok parameters
  | .maxDiagnostics => do
      return { parameters with maxDiagnostics := some (← wholeFrom 0 value) }
  | .includeDependencies => .ok { parameters with includeDependencies := true }
  | .subsystem => .ok { parameters with subsystems := values }
  | .diagnosticsFile => do
      return { parameters with diagnosticsFile := some (← filePath disk directory value) }
  | .verbose => .ok { parameters with verbose := true }
  | .exportTo => do
      let path ← match command with
        | .analyze => directoryPath disk directory value
        | _ => filePath disk directory value
      return { parameters with exportTo := some path }
  | .failUnder => do return { parameters with failUnder := ← scoreWithin value }
  | .limit => do return { parameters with limit := ← wholeFrom 1 value }

/-- Name the parameter that a fault of a value belongs to. -/
def atParameter {Result : Type} (name : String) :
    Except ValueFault Result → Except UsageFault Result
  | .ok result => .ok result
  | .error fault => .error (.badValue name fault)

/-- Set the parameters of switches, each from all its values. -/
def Parameters.setAll (disk : Disk) (directory : Place) (command : Command)
    (given : List (Switch × String)) : List Switch → Parameters → Except UsageFault Parameters
  | [], parameters => .ok parameters
  | switch :: rest, parameters => do
      let values := (given.filter fun entry => entry.1 = switch).map Prod.snd
      let value := values.getLast?.getD ""
      let changed ← atParameter switch.word
        (parameters.set disk directory command switch value values)
      changed.setAll disk directory command given rest

/-- The name of the positional argument. -/
def rootName : String := "[ROOT]"

/-- Read the arguments of a command. -/
def Command.request (command : Command) (disk : Disk) (directory : Place)
    (written : List String) : Except UsageFault Request := do
  let arguments ← readArguments command.switches false written
  let given := (arguments.switches.map Prod.fst).eraseDups
  if given.contains .help then return .help
  let parameters ← Parameters.setAll disk directory command arguments.switches given {}
  let root ← atParameter rootName
    (existingDirectory disk directory (arguments.positional.head?.getD "."))
  let extra := arguments.positional.drop 1
  if !extra.isEmpty then throw (.extraArguments extra)
  return .run command { parameters with root }

/-- The request that the first of some switches before a command makes. -/
def earlyRequest? (arguments : Arguments) : Option Request :=
  match arguments.switches with
  | (.version, _) :: _ => some .version
  | (.help, _) :: _ => some .help
  | _ => none

/-- The switches that may stand before a command. -/
def earlySwitches : List Switch := [.version, .help]

/-- Read arguments. -/
def Request.ofArguments (disk : Disk) (directory : Place) (written : List String) :
    Except UsageFault Request := do
  let arguments ← readArguments earlySwitches true written
  if let some request := earlyRequest? arguments then return request
  match arguments.positional with
  | [] => throw .missingCommand
  | name :: rest =>
      match Command.ofWord? name with
      | some command => command.request disk directory rest
      | none =>
          let again ← readArguments earlySwitches true (name :: rest)
          match earlyRequest? again with
          | some request => return request
          | none =>
              throw (.noSuchCommand name (Text.closest name (Command.all.map Command.word)))

end Triage.CommandLine
