import Triage.Collection.Classification
import Triage.Fix.Safety
import Triage.Marker
import Triage.Value.Showing

/-!
# Suggestions by category

What is suggested for a diagnostic depends on its category, and within a category on
what its message says.  A suggestion for a designated subsystem names the first
subsystem that the diagnostic concerns and ends with that subsystem's own steps, which are
passed on as they were written.

`checkTemplate` fails where a message or a setting that decides between suggestions is of
the wrong kind, and where the subsystem has a name that cannot be shown.
-/

namespace Triage

set_option autoImplicit false

variable {Number : Type}

/-- How much work a fix is. -/
inductive Complexity where
  | simple
  | moderate
  | complex
deriving Repr, DecidableEq, Inhabited

/-- The word for a complexity. -/
def Complexity.word : Complexity → String
  | .simple => "simple"
  | .moderate => "moderate"
  | .complex => "complex"

/-- The part of a suggestion that its category decides. -/
structure SuggestionTemplate where
  title : String
  description : String
  priority : Level
  complexity : Complexity
  steps : List Value
  /-- The name of the subsystem that is mended. -/
  subsystem : Option String
deriving Inhabited

/-- The first subsystem that a diagnostic concerns. -/
def implicatedSubsystem (subsystems : List (Subsystem Number)) (diagnostic : Diagnostic) :
    Option (Subsystem Number) :=
  subsystems.find? fun subsystem => subsystem.concernedBy diagnostic.message diagnostic.file

/-- What to do about something that was not found. -/
def importTemplate (diagnostic : Diagnostic) : SuggestionTemplate :=
  if (diagnostic.message.holds? (.text unresolvedModule)).passed then
    { title := "Fix Missing Module Import"
      description := "Module cannot be found - it may need installation or a path correction"
      priority := .medium, complexity := .simple, subsystem := none
      steps := textValues
        ["Verify the module is declared in package.json",
          "Check the import path spelling and case sensitivity",
          "Ensure the module is installed",
          "Add type definitions for the module if needed"] }
  else if (diagnostic.message.holds? (.text unresolvedName)).passed then
    { title := "Fix Missing Name Import"
      description := "Named import or variable not found"
      priority := .medium, complexity := .simple, subsystem := none
      steps := textValues
        ["Check that the name is exported from its module",
          "Verify the import statement syntax",
          "Use a default import if the module has no named export",
          "Check the imported name for typos"] }
  else
    { title := "Fix Import Issue"
      description := "Import problem requiring investigation"
      priority := .medium, complexity := .moderate, subsystem := none
      steps := textValues ["Review the import statement and module availability"] }

/-- What a message says about types that do not fit. -/
def unassignable : String := "not assignable"

/-- What to do about a typing error. -/
def typeTemplate (profile : Profile) (diagnostic : Diagnostic) : SuggestionTemplate :=
  if (Marker.mentionAny? profile.permissiveMarkers diagnostic.message).passed then
    { title := "Replace Permissive Type Usage"
      description := "Improve type safety by replacing permissive types with specific ones"
      priority := .medium, complexity := .moderate, subsystem := none
      steps := textValues
        ["Identify the expected type for this value",
          "Create a specific interface or type definition",
          "Replace the permissive type with the specific type",
          "Add explicit type annotations"] }
  else if (diagnostic.message.holds? (.text unassignable)).passed then
    { title := "Fix Type Assignment Error"
      description := "Types are not compatible and need alignment"
      priority := .medium, complexity := .moderate, subsystem := none
      steps := textValues
        ["Review the source and target types",
          "Add a type assertion only where it is provably safe",
          "Adjust the type definitions if needed",
          "Consider a union type for values with several shapes"] }
  else
    { title := "Resolve Type Error"
      description := "Type issue requiring analysis of definitions and usage"
      priority := .medium, complexity := .moderate, subsystem := none
      steps := textValues ["Analyze the type definitions and their usage context"] }

/-- What to do about a parse error. -/
def syntaxTemplate : SuggestionTemplate :=
  { title := "Fix Syntax Error"
    description := "Syntax issue requiring correction"
    priority := .high, complexity := .simple, subsystem := none
    steps := textValues
      ["Review the syntax error message",
        "Check for missing semicolons, brackets or quotes",
        "Recompile to confirm the error is gone"] }

/-- How a subsystem is called when none is concerned. -/
def anonymousSubsystem : String := "Designated Subsystem"

/-- What to do about a diagnostic of a subsystem. -/
def domainTemplate (subsystems : List (Subsystem Number)) (diagnostic : Diagnostic) :
    SuggestionTemplate :=
  let implicated := implicatedSubsystem subsystems diagnostic
  let name := (implicated.map Subsystem.title).getD anonymousSubsystem
  { title := "Fix " ++ name ++ " Type Issue"
    description := "Type error affecting the " ++ name ++ " subsystem"
    priority := .high, complexity := .moderate
    subsystem := implicated.map Subsystem.title
    steps :=
      textValues
        ["Review the " ++ name ++ " type definitions",
          "Ensure the " ++ name ++ " modules are imported correctly",
          "Validate data types flowing through " ++ name,
          "Test " ++ name ++ " functionality after the fix"] ++
      (implicated.map Subsystem.validationSteps).getD [] }

/-- What to do about a security issue. -/
def securityTemplate : SuggestionTemplate :=
  { title := "Enhance Type Security"
    description := "Security-related type issue requiring attention"
    priority := .high, complexity := .moderate, subsystem := none
    steps := textValues
      ["Replace permissive and dynamic typing with specific types",
        "Add runtime validation for external inputs",
        "Review the surrounding code for injection risks",
        "Ensure input sanitization where needed"] }

/-- What to do about a diagnostic of no other category. -/
def genericTemplate (diagnostic : Diagnostic) : SuggestionTemplate :=
  { title := "Review Compiler Diagnostic"
    description := "Unclassified diagnostic TS" ++ diagnostic.code.display
    priority := .low, complexity := .moderate, subsystem := none
    steps := textValues ["Review the diagnostic message and the code at the reported position"] }

/-- The template for a diagnostic. -/
def templateFor (profile : Profile) (subsystems : List (Subsystem Number))
    (diagnostic : Diagnostic) : SuggestionTemplate :=
  match diagnostic.category with
  | .importing => importTemplate diagnostic
  | .typing => typeTemplate profile diagnostic
  | .syntactic => syntaxTemplate
  | .domain => domainTemplate subsystems diagnostic
  | .security => securityTemplate
  | .other => genericTemplate diagnostic

/-- Fail if there is no telling which suggestion a diagnostic asks for, or if the suggestion
cannot name its subsystem. -/
def checkTemplate (profile : Profile) (subsystems : List (Subsystem Number))
    (diagnostic : Diagnostic) : Except Failure Unit :=
  let message := diagnostic.message
  match diagnostic.category with
  | .importing =>
      Verdict.check (unresolvedMessages.anyM fun text => message.holds? (.text text))
  | .typing => Verdict.check do
      if ← Marker.mentionAny? profile.permissiveMarkers message then return true
      message.holds? (.text unassignable)
  | .domain => do
      Verdict.check (subsystems.anyM fun subsystem => subsystem.concerns? message diagnostic.file)
      if let some subsystem := implicatedSubsystem subsystems diagnostic then
        subsystem.name.checkShown
  | .syntactic | .security | .other => .ok ()

end Triage
