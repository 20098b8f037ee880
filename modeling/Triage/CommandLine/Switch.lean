import Triage.Text.Quoted
import Triage.Text.Search
import Triage.Text.Similarity

/-!
# Switches on the command line

An argument that starts with a dash names a switch.  A switch with a value takes it
from behind an equals sign or from the next argument; switches of one letter may be
written together after a single dash.  Two dashes end the switches, and every other
argument is positional.

A name that is unknown is answered with the names that come close to it.
-/

namespace Triage.CommandLine

set_option autoImplicit false

/-- The switches of all commands. -/
inductive Switch where
  | version
  | help
  | maxDiagnostics
  | includeDependencies
  | subsystem
  | diagnosticsFile
  | verbose
  | exportTo
  | failUnder
  | limit
deriving Repr, DecidableEq, Inhabited

namespace Switch

/-- The name of a switch. -/
def word : Switch → String
  | .version => "--version"
  | .help => "--help"
  | .maxDiagnostics => "--max-diagnostics"
  | .includeDependencies => "--include-dependencies"
  | .subsystem => "--subsystem"
  | .diagnosticsFile => "--diagnostics-file"
  | .verbose => "--verbose"
  | .exportTo => "--export"
  | .failUnder => "--fail-under"
  | .limit => "--limit"

/-- The single letter that also stands for a switch. -/
def letter? : Switch → Option Char
  | .verbose => some 'v'
  | _ => none

/-- Whether a switch has a value. -/
def takesValue : Switch → Bool
  | .version | .help | .includeDependencies | .verbose => false
  | _ => true

end Switch

/-- What is wrong with a value. -/
inductive ValueFault where
  | notWhole (written : String)
  | notNumber (written : String)
  | outOfRange (number range : String)
  | noSuchDirectory (path : String)
  | directoryIsFile (path : String)
  | fileIsDirectory (path : String)
  /-- A text that can be no path, because it holds a null character. -/
  | notAPath (written : String)
deriving Repr, DecidableEq, Inhabited

/-- What a fault of a value says. -/
def ValueFault.message : ValueFault → String
  | .notWhole written => Text.quoted written ++ " is not a valid integer range."
  | .notNumber written => Text.quoted written ++ " is not a valid float range."
  | .outOfRange number range => number ++ " is not in the range " ++ range ++ "."
  | .noSuchDirectory path => "Directory " ++ Text.quoted path ++ " does not exist."
  | .directoryIsFile path => "Directory " ++ Text.quoted path ++ " is a file."
  | .fileIsDirectory path => "File " ++ Text.quoted path ++ " is a directory."
  | .notAPath written => Text.quoted written ++ " is not a path."

/-- Why arguments make no command. -/
inductive UsageFault where
  /-- An unknown switch, and the names that come close to it. -/
  | noSuchSwitch (name : String) (close : List String)
  /-- An unknown command, and the names that come close to it. -/
  | noSuchCommand (name : String) (close : List String)
  | missingCommand
  | valueMissing (switch : String)
  | valueUnwanted (switch : String)
  | badValue (parameter : String) (fault : ValueFault)
  | extraArguments (arguments : List String)
deriving Repr, DecidableEq, Inhabited

/-- What is said about the names that come close to an unknown one. -/
def suggestion (close : List String) : String :=
  match close.map Text.quoted with
  | [] => ""
  | [name] => " Did you mean " ++ name ++ "?"
  | names => " (Did you mean one of: " ++ ", ".intercalate names ++ "?)"

/-- What a fault of the arguments says. -/
def UsageFault.message : UsageFault → String
  | .noSuchSwitch name close => "No such option " ++ Text.quoted name ++ "." ++ suggestion close
  | .noSuchCommand name close =>
      "No such command " ++ Text.quoted name ++ "." ++ suggestion close
  | .missingCommand => "Missing command."
  | .valueMissing switch => "Option " ++ Text.quoted switch ++ " requires an argument."
  | .valueUnwanted switch => "Option " ++ Text.quoted switch ++ " does not take a value."
  | .badValue parameter fault =>
      "Invalid value for " ++ Text.quoted parameter ++ ": " ++ fault.message
  | .extraArguments arguments =>
      "Got unexpected extra argument" ++ (if arguments.length = 1 then "" else "s") ++ " (" ++
        " ".intercalate arguments ++ ")"

/-- Arguments that have been read: the switches with their values, those without a
value having the empty one, and the positional arguments. -/
structure Arguments where
  switches : List (Switch × String) := []
  positional : List String := []
deriving Repr, DecidableEq, Inhabited

/-- Arguments that start with some switches. -/
def Arguments.withSwitches (arguments : Arguments) (switches : List (Switch × String)) :
    Arguments :=
  { arguments with switches := switches ++ arguments.switches }

/-- Arguments that start with a positional one. -/
def Arguments.withPositional (arguments : Arguments) (argument : String) : Arguments :=
  { arguments with positional := argument :: arguments.positional }

/-- What one argument brings: switches that are complete, and possibly one more that
still needs a value. -/
structure Reading where
  complete : List (Switch × String) := []
  awaiting : Option (String × Switch) := none
deriving Repr, DecidableEq, Inhabited

/-- Read letters that are written together after a dash. -/
def readLetters (known : List Switch) : List Char → Except UsageFault Reading
  | [] => .ok {}
  | c :: rest => do
      let name := String.ofList ['-', c]
      match known.find? fun switch => switch.letter? = some c with
      | none => throw (.noSuchSwitch name [])
      | some switch =>
          if switch.takesValue then
            if rest.isEmpty then return { awaiting := some (name, switch) }
            else return { complete := [(switch, String.ofList rest)] }
          else
            let reading ← readLetters known rest
            return { reading with complete := (switch, "") :: reading.complete }

/-- Read an argument that starts with a dash. -/
def readSwitch (known : List Switch) (argument : List Char) : Except UsageFault Reading :=
  let name := String.ofList (Text.cutFirst '=' argument).1
  let value? := if argument.contains '=' then
      some (String.ofList (Text.cutFirst '=' argument).2)
    else none
  match known.find? fun switch => switch.word = name, argument, value? with
  | some switch, _, some value =>
      if switch.takesValue then .ok { complete := [(switch, value)] }
      else .error (.valueUnwanted name)
  | some switch, _, none =>
      if switch.takesValue then .ok { awaiting := some (name, switch) }
      else .ok { complete := [(switch, "")] }
  | none, '-' :: '-' :: _, _ =>
      .error (.noSuchSwitch name (Text.closest name (known.map Switch.word)))
  | none, _ :: letters, _ => readLetters known letters
  | none, [], _ => .error (.noSuchSwitch name [])

/-- Whether an argument names a switch. -/
def isSwitch : List Char → Bool
  | '-' :: _ :: _ => true
  | _ => false

/-- Read arguments.  When positional arguments end the switches, everything from the
first one on is positional. -/
def readArguments (known : List Switch) (positionalEnds : Bool) :
    List String → Except UsageFault Arguments
  | [] => .ok {}
  | argument :: rest =>
      if argument = "--" then .ok { positional := rest }
      else if isSwitch argument.toList then
        match readSwitch known argument.toList with
        | .error fault => .error fault
        | .ok reading =>
            match reading.awaiting with
            | none => do
                let arguments ← readArguments known positionalEnds rest
                return arguments.withSwitches reading.complete
            | some (name, switch) =>
                match rest with
                | [] => .error (.valueMissing name)
                | value :: more => do
                    let arguments ← readArguments known positionalEnds more
                    return arguments.withSwitches (reading.complete ++ [(switch, value)])
      else if positionalEnds then .ok { positional := argument :: rest }
      else do
        let arguments ← readArguments known positionalEnds rest
        return arguments.withPositional argument

end Triage.CommandLine
