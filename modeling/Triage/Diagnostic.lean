import Triage.Path
import Triage.Value.Conversion

/-!
# Diagnostics

A diagnostic is an issue that the compiler has reported, with its place in the
project, how grave the compiler takes it to be, and the category that this library
has given it.  Three scales are shared by all stages: severities, categories and the
levels low, medium and high.

The code, the position and the message are kept as they were reported.  A compiler
reports whole numbers and a text, but a list of records need not come from one, and
whatever stands there appears in reports and identifiers.
-/

namespace Triage

set_option autoImplicit false

/-- How grave the compiler takes an issue to be. -/
inductive Severity where
  | error
  | warning
  | info
deriving Repr, DecidableEq, Inhabited

/-- The word for a severity. -/
def Severity.word : Severity → String
  | .error => "error"
  | .warning => "warning"
  | .info => "info"

/-- The severity that a word stands for. -/
def Severity.ofWord? (word : String) : Option Severity :=
  [Severity.error, .warning, .info].find? fun severity => severity.word = word

/-- What an issue is about. -/
inductive Category where
  | syntactic
  | typing
  | importing
  | security
  | domain
  | other
deriving Repr, DecidableEq, Inhabited

/-- The word for a category. -/
def Category.word : Category → String
  | .syntactic => "syntax"
  | .typing => "type"
  | .importing => "import"
  | .security => "security"
  | .domain => "domain"
  | .other => "other"

/-- All categories, in the order in which reports count them. -/
def Category.all : List Category :=
  [.syntactic, .typing, .importing, .security, .domain, .other]

/-- The category that a word stands for. -/
def Category.ofWord? (word : String) : Option Category :=
  Category.all.find? fun category => category.word = word

/-- The scale of pattern severity, fix priority and risk. -/
inductive Level where
  | low
  | medium
  | high
deriving Repr, DecidableEq, Inhabited

/-- The word for a level. -/
def Level.word : Level → String
  | .low => "low"
  | .medium => "medium"
  | .high => "high"

/-- The level that a word stands for. -/
def Level.ofWord? (word : String) : Option Level :=
  [Level.low, .medium, .high].find? fun level => level.word = word

/-- The place of a level on its scale. -/
def Level.rank : Level → Nat
  | .low => 1
  | .medium => 2
  | .high => 3

/-- An issue that the compiler has reported. -/
structure Diagnostic where
  code : Value
  message : Value
  /-- The file, relative to the project when it lies inside. -/
  file : Value
  line : Value
  column : Value
  severity : Severity
  category : Category
deriving Inhabited

namespace Diagnostic

/-- The message as a text. -/
def said (diagnostic : Diagnostic) : String := diagnostic.message.display

/-- The file as a text, written with slashes. -/
def path (diagnostic : Diagnostic) : String := Text.slashed diagnostic.file.display

/-- The name of the file without its directories. -/
def basename (diagnostic : Diagnostic) : String := (Path.parse diagnostic.path).name

/-- The identifier of a diagnostic: its code, its file written with slashes, its line
and its column. -/
def identifier (diagnostic : Diagnostic) : String :=
  diagnostic.code.display ++ "_" ++ diagnostic.path ++ "_" ++ diagnostic.line.display ++ "_" ++
    diagnostic.column.display

/-- Fail unless the file is a text, which its name and the identifier are made of. -/
def checkFile (diagnostic : Diagnostic) : Except Failure Unit :=
  discard (diagnostic.file.textOr .notATable)

/-- The record of a diagnostic in a report. -/
def toValue (diagnostic : Diagnostic) : Value :=
  .table
    [("code", diagnostic.code), ("message", diagnostic.message), ("file", diagnostic.file),
      ("line", diagnostic.line), ("column", diagnostic.column),
      ("severity", .text diagnostic.severity.word), ("category", .text diagnostic.category.word)]

end Diagnostic

end Triage
