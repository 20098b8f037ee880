import Triage.Proofs.Marker
import Triage.Quality.Monitor

/-!
# Vulnerabilities

The security assessment counts the security issues among the diagnostics and, for every permissive
marker, the messages that mention it.  What a message mentions is said without the way in which it
is searched: a marker that is a word counts where it stands alone, whatever comes before that place,
and any other marker counts wherever it occurs, taken literally (`Marker.Mentions`).  A message that
mentions a marker more than once counts once, one that mentions two markers counts twice, and so
does one marker that is given twice (`vulnerabilities_are_counted_by_words`).
-/

namespace Triage

set_option autoImplicit false

/-- **Vulnerabilities are counted by whole words**, and it can always be told how many there are. -/
theorem vulnerabilities_are_counted_by_words {Number : Type} [Scalar Number]
    (weights : Weights Number) (profile : Profile) (markers : List String)
    (diagnostics : List Diagnostic) (patterns : List ErrorPattern)
    (given : profile.permissiveMarkers = textValues markers)
    (oneLine : ∀ marker ∈ markers, '\n' ∉ marker.toList)
    (said : ∀ diagnostic ∈ diagnostics, diagnostic.message.IsText) :
    (securityAssessment weights profile diagnostics patterns).vulnerabilities =
        diagnostics.countP (fun diagnostic => diagnostic.category = .security) +
          (markers.map fun marker => diagnostics.countP fun diagnostic =>
            Marker.Mentions diagnostic.said marker).sum ∧
      Marker.checkHits profile.permissiveMarkers (diagnostics.map Diagnostic.message) =
        .ok () := by
  have texts : ∀ text ∈ diagnostics.map Diagnostic.message, text.IsText :=
    List.forall_mem_map.2 said
  rw [given]
  refine ⟨?_, Marker.checkHits_textValues texts⟩
  have hits := Marker.hits_textValues oneLine texts
  simp only [List.countP_map] at hits
  simp only [securityAssessment, categoryCount, given, hits, Int.natCast_add]
  rfl

/-- Diagnostics of one project: the first holds a marker in a longer word only, the second so and
then by itself, and the third is a security issue. -/
def mentioningDiagnostics : List Diagnostic :=
  [⟨.int 7006, .text "Company.", .text "a.ts", .int 1, .int 1, .error, .other⟩,
    ⟨.int 7006, .text "Many 'any'.", .text "a.ts", .int 2, .int 1, .error, .other⟩,
    ⟨.int 9999, .text "any Functions", .text "b.ts", .int 1, .int 1, .error, .security⟩]

/-- A word stands alone twice, a marker that is none occurs literally or not at all. -/
theorem vulnerabilities_of_mentioningDiagnostics :
    (∀ marker ∈ ["any", "Function(", "any"], '\n' ∉ marker.toList) ∧
      (∀ diagnostic ∈ mentioningDiagnostics, diagnostic.message.IsText) ∧
      (securityAssessment (.standard : Weights Rat)
        { permissiveMarkers := textValues ["any", "Function(", "any"] } mentioningDiagnostics
        []).vulnerabilities = 5 := by
  have oneLine : ∀ marker ∈ ["any", "Function(", "any"], '\n' ∉ marker.toList := by
    decide +kernel
  have said : ∀ diagnostic ∈ mentioningDiagnostics, diagnostic.message.IsText := by decide
  have counted := vulnerabilities_are_counted_by_words (.standard : Weights Rat)
    { permissiveMarkers := textValues ["any", "Function(", "any"] } _ mentioningDiagnostics [] rfl
    oneLine said
  have issues : (mentioningDiagnostics.countP fun diagnostic =>
      diagnostic.category = .security) = 1 := by decide
  have alone : (mentioningDiagnostics.countP fun diagnostic =>
      Marker.Mentions diagnostic.said "any") = 2 := by decide +kernel
  have literally : (mentioningDiagnostics.countP fun diagnostic =>
      Marker.Mentions diagnostic.said "Function(") = 0 := by decide +kernel
  refine ⟨oneLine, said, counted.1.trans ?_⟩
  rw [issues, List.map_cons, List.map_cons, List.map_singleton, alone, literally]
  rfl

end Triage
