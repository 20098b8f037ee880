import Triage.Config
import Triage.Diagnostic
import Triage.Marker

/-!
# What a diagnostic is about

The category of a diagnostic is given by the first rule that applies: it concerns a
designated subsystem, a module or a name was not found, its code reports a typing
error, its code reports a parse error, it mentions a permissive type or the running
of text as code.  When no rule applies the category is `other`.

Rules look at values as they were reported and at settings as they were written, and so
may fail; a rule behind the first that applies is not tried.
-/

namespace Triage

set_option autoImplicit false

variable {Number : Type}

/-- What a rule looks at. -/
structure RuleContext (Number : Type) where
  code : Value
  message : Value
  file : Value
  profile : Profile
  subsystems : List (Subsystem Number)

/-- What a message says when a module was not found. -/
def unresolvedModule : String := "Cannot find module"

/-- What a message says when a name was not found. -/
def unresolvedName : String := "Cannot find name"

/-- What a message says when a module or a name was not found. -/
def unresolvedMessages : List String := [unresolvedModule, unresolvedName]

/-- A rule: a category, and the condition under which it is given. -/
structure ClassificationRule (Number : Type) where
  category : Category
  applies? : RuleContext Number → Verdict

/-- Some subsystem is concerned. -/
def concernsSubsystem? (context : RuleContext Number) : Verdict :=
  context.subsystems.anyM fun subsystem => subsystem.concerns? context.message context.file

/-- A module or a name was not found. -/
def concernsImport? (context : RuleContext Number) : Verdict := do
  if ← unresolvedMessages.anyM (fun text => context.message.holds? (.text text)) then return true
  context.profile.isModuleResolutionCode? context.code

/-- A permissive type or the running of text as code is mentioned. -/
def concernsSecurity? (context : RuleContext Number) : Verdict := do
  if ← Marker.mentionAny? context.profile.permissiveMarkers context.message then return true
  Marker.mentionAny? context.profile.dynamicEvalMarkers context.message

/-- The rules in the order in which they are tried. -/
def classificationRules : List (ClassificationRule Number) :=
  [⟨.domain, concernsSubsystem?⟩, ⟨.importing, concernsImport?⟩,
    ⟨.typing, fun context => context.profile.isTypeCode? context.code⟩,
    ⟨.syntactic, fun context => context.profile.isParseCode? context.code⟩,
    ⟨.security, concernsSecurity?⟩]

/-- The category of the first rule that applies. -/
def classifyBy (rules : List (ClassificationRule Number)) (context : RuleContext Number) :
    Except Failure Category := do
  match ← rules.findM? fun rule => rule.applies? context with
  | some rule => return rule.category
  | none => return .other

/-- The category of a diagnostic. -/
def classify (context : RuleContext Number) : Except Failure Category :=
  classifyBy classificationRules context

/-- The severity that the compiler's word for it stands for, case not counting; a word
that is not known stands for an error. -/
def severityOf (word : String) : Severity :=
  let lowered := Text.lower word
  if lowered = "warning" then .warning
  else if lowered = "message" || lowered = "suggestion" || lowered = "info" then .info
  else .error

end Triage
