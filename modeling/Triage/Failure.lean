import Triage.Value

/-!
# Why an analysis fails

Three kinds of failure belong to the analysis itself: the project is configured in a
way that cannot be analysed, the compiler gave no usable answer, or a single record
of the compiler cannot become a diagnostic.  Each has its causes and one text per
cause.  The remaining failures are values of a data file that have the wrong kind,
and files that are not what they should be; they carry no text.
-/

namespace Triage

set_option autoImplicit false

/-- Why a project cannot be analysed as it is configured. -/
inductive ConfigurationFault where
  /-- The configuration file is no TOML document. -/
  | invalidFile (detail : String)
  | subsystemWithoutName
  | unknownTier (tier name : Value)
  | invalidRange (setting : String) (found : Value)
  | invalidSubsystemOption (option : String)
  | negativeLimit
  | compilerSettingsMissing (path : String)
  | diagnosticsMissing (path : String)
  /-- The diagnostics file is no JSON text. -/
  | diagnosticsInvalid (detail : String)
  | diagnosticsNotAList

/-- The name of the configuration file of a project. -/
def configurationFileName : String := "diaglens.toml"

/-- What a fault of the configuration says. -/
def ConfigurationFault.message : ConfigurationFault → String
  | .invalidFile detail => "Invalid " ++ configurationFileName ++ ": " ++ detail
  | .subsystemWithoutName => "Every [[subsystems]] entry needs a name"
  | .unknownTier tier name =>
      "Unknown tier " ++ tier.inspect ++ " for subsystem " ++ name.inspect
  | .invalidRange setting found =>
      setting ++ " must be a [low, high] pair, got " ++ found.inspect
  | .invalidSubsystemOption option => "Invalid subsystem option: " ++ Text.quoted option
  | .negativeLimit => "max_diagnostics must not be negative"
  | .compilerSettingsMissing path =>
      "No compiler configuration found: " ++ path ++ " does not exist"
  | .diagnosticsMissing path => "Diagnostics file not found: " ++ path
  | .diagnosticsInvalid detail => "Diagnostics file is not valid JSON: " ++ detail
  | .diagnosticsNotAList => "Diagnostics file must contain a list of records"

/-- Why the compiler gave no usable answer. -/
inductive CompilerFault where
  | notFound (command : String)
  | tooSlow (seconds : Int)
  | failed (status : Int) (complaint : String)
deriving Repr, DecidableEq

/-- What a fault of the compiler says. -/
def CompilerFault.message : CompilerFault → String
  | .notFound command => "Compiler not found: " ++ command
  | .tooSlow seconds => "Compiler did not finish within " ++ toString seconds ++ "s"
  | .failed status complaint =>
      "Compiler exited with status " ++ toString status ++ ": " ++ complaint

/-- Why a record of the compiler cannot become a diagnostic. -/
inductive ConversionFault where
  | noFile (message : Value)
  | noPosition (file : Value)
  | noCode (file line : Value)

/-- What a fault of a record says. -/
def ConversionFault.message : ConversionFault → String
  | .noFile message => "diagnostic has no file: " ++ message.inspect
  | .noPosition file => "diagnostic has no position: " ++ file.display
  | .noCode file line => "diagnostic has no code: " ++ file.display ++ ":" ++ line.display

/-- Why an analysis ends without a result. -/
inductive Failure where
  | configuration (fault : ConfigurationFault)
  | compiler (fault : CompilerFault)
  | conversion (fault : ConversionFault)
  /-- A text or number that stands for no value of the required kind. -/
  | invalidValue
  /-- A value of a kind that the operation is not defined on. -/
  | wrongKind
  /-- A value that would have to be a table or a text. -/
  | notATable
  /-- An infinite number where a whole number is required, or one that is too large for its
  purpose. -/
  | infiniteNumber
  /-- A required field is missing. -/
  | fieldMissing
  /-- A file that is no UTF-8 text. -/
  | notText
  | fileMissing
  /-- A name, a path or a word of a command that is longer than any may be. -/
  | tooLong
  /-- Values that stand deeper inside each other than a reader goes. -/
  | nestedTooDeep
  /-- A file stands where a directory should be made. -/
  | fileInTheWay
  /-- A directory stands where a file should be. -/
  | isADirectory
  /-- A path leads through a file. -/
  | notADirectory
  /-- A program that may not be executed. -/
  | notExecutable
  /-- A command without any word. -/
  | emptyCommand
  /-- Output with markup that a terminal cannot make sense of. -/
  | unshown

/-- The text of a failure of the analysis itself. -/
def Failure.message? : Failure → Option String
  | .configuration fault => some fault.message
  | .compiler fault => some fault.message
  | .conversion fault => some fault.message
  | _ => none

end Triage
