import Triage.Proofs.Message.Placeholders
import Triage.Proofs.Project.Completion

/-!
# Why a pattern is of the domain

The category of a pattern is decided anew, by the keywords of the subsystems in its text and in the
messages that it stands for, and by its first diagnostic.  A keyword in one of the messages, and a
first diagnostic of the domain, both leave a diagnostic of the domain among those of the pattern,
since a diagnostic was classified by the same keywords.  A keyword in the text of the pattern may
stand in none of the messages, because normalizing writes quotes and placeholders
(`IsOnlyInGist`); then the label has no other reason than this keyword
(`domain_patterns_have_a_reason`), and no diagnostic of the domain need be there
(`placeholder_makes_a_domain_pattern`).
-/

namespace Triage

set_option autoImplicit false

variable {Number : Type} {subsystems : List (Subsystem Number)}

/-! ## Keywords in texts -/

/-- Keywords are looked up one by one. -/
theorem passed_anyM_holds?_cons (keyword said : String) (rest : List Value) :
    Verdict.passed ((Value.text keyword :: rest).anyM (Value.text said).holds?) =
      (Text.occurs keyword said || Verdict.passed (rest.anyM (Value.text said).holds?)) := by
  simp only [List.anyM, Value.holds?_text]
  cases Text.occurs keyword said <;> rfl

namespace Subsystem

/-- **A subsystem that finds a keyword in a text** finds it in every text that it occurs in. -/
theorem exists_keyword_of_matchesText {subsystem : Subsystem Number} {said : String}
    (found : subsystem.matchesText (.text said) = true) :
    ∃ keyword, .text keyword ∈ subsystem.keywords ∧ keyword.toList <:+: said.toList ∧
      ∀ other : String, keyword.toList <:+: other.toList →
        subsystem.matchesText (.text other) = true := by
  unfold matchesText matchesText? at found ⊢
  generalize subsystem.keywords = keywords at found ⊢
  induction keywords with
  | nil => cases found
  | cons first rest ih =>
      cases first with
      | text content =>
          simp only [passed_anyM_holds?_cons, Bool.or_eq_true, Text.occurs_iff] at found ⊢
          rcases found with here | behind
          · exact ⟨content, List.mem_cons_self, here, fun other inside => .inl inside⟩
          · obtain ⟨keyword, member, inside, everywhere⟩ := ih behind
            exact ⟨keyword, List.mem_cons_of_mem _ member, inside,
              fun other held => .inr (everywhere other held)⟩
      | _ => cases found

/-- A keyword in the message is enough for a diagnostic to concern a subsystem. -/
theorem concernedBy_of_matchesText {subsystem : Subsystem Number} {message : Value}
    (found : subsystem.matchesText message = true) (file : Value) :
    subsystem.concernedBy message file = true := by
  rw [matchesText] at found
  rw [concernedBy, concerns?]
  cases answer : subsystem.matchesText? message with
  | error failure => rw [answer] at found; cases found
  | ok holds =>
      rw [answer, Verdict.passed_ok] at found
      rw [found]
      rfl

end Subsystem

/-! ## The category of a group -/

/-- A pattern is of the domain by a keyword in its text, by one in a message, or by its first
diagnostic. -/
theorem patternCategory_eq_domain_iff {said : String} {group : List Diagnostic} :
    patternCategory subsystems said group = .domain ↔
      (∃ subsystem ∈ subsystems, subsystem.matchesText (.text said) = true) ∨
      (∃ subsystem ∈ subsystems, ∃ diagnostic ∈ group,
        subsystem.matchesText diagnostic.message = true) ∨
      ∃ first ∈ group.head?, first.category = .domain := by
  have either : (subsystems.any fun subsystem =>
      (Value.text said :: group.map Diagnostic.message).any subsystem.matchesText) = true ↔
        (∃ subsystem ∈ subsystems, subsystem.matchesText (.text said) = true) ∨
        ∃ subsystem ∈ subsystems, ∃ diagnostic ∈ group,
          subsystem.matchesText diagnostic.message = true := by
    simp only [List.any_eq_true, List.mem_cons, List.mem_map, exists_eq_or_imp,
      exists_exists_and_eq_and, and_or_left, exists_or]
  rw [patternCategory, ← or_assoc, ← either]
  split
  · next matched => exact iff_of_true rfl (.inl matched)
  · next unmatched =>
      rw [or_iff_right unmatched]
      cases group with
      | nil => simp
      | cons first rest => simp

/-- A keyword stands in the text of a pattern, but in none of the messages that the pattern stands
for; so normalizing has written something of it. -/
structure IsOnlyInGist (subsystems : List (Subsystem Number)) (group : List Diagnostic)
    (said keyword : String) : Prop where
  listed : ∃ subsystem ∈ subsystems, .text keyword ∈ subsystem.keywords
  inside : keyword.toList <:+: said.toList
  unsaid : ∀ diagnostic ∈ group, ¬ keyword.toList <:+: diagnostic.said.toList
  written : Message.MayBeWritten keyword.toList

/-- **A group of the domain has a reason**: a diagnostic of the domain, or a keyword that only
normalizing has brought about. -/
theorem exists_domain_or_isOnlyInGist {said : String} {group : List Diagnostic}
    (some : group ≠ []) (same : ∀ diagnostic ∈ group, diagnostic.gist = said)
    (texts : ∀ diagnostic ∈ group, diagnostic.message.IsText)
    (told : ∀ diagnostic ∈ group, diagnostic.category = .domain ↔ ∃ subsystem ∈ subsystems,
      subsystem.concernedBy diagnostic.message diagnostic.file = true)
    (domain : patternCategory subsystems said group = .domain) :
    (∃ diagnostic ∈ group, diagnostic.category = .domain) ∨
      ∃ keyword, IsOnlyInGist subsystems group said keyword := by
  -- A keyword in a message has already decided the category of the diagnostic.
  have decided {subsystem : Subsystem Number} (among : subsystem ∈ subsystems)
      {diagnostic : Diagnostic} (member : diagnostic ∈ group)
      (found : subsystem.matchesText diagnostic.message = true) : diagnostic.category = .domain :=
    (told diagnostic member).2
      ⟨subsystem, among, Subsystem.concernedBy_of_matchesText found diagnostic.file⟩
  rcases patternCategory_eq_domain_iff.1 domain with
    ⟨subsystem, among, found⟩ | ⟨subsystem, among, diagnostic, member, found⟩ | ⟨first, is, domain⟩
  · obtain ⟨keyword, listed, inside, everywhere⟩ := Subsystem.exists_keyword_of_matchesText found
    by_cases unsaid : ∀ diagnostic ∈ group, ¬ keyword.toList <:+: diagnostic.said.toList
    · obtain ⟨diagnostic, member⟩ := List.exists_mem_of_ne_nil group some
      rw [← same diagnostic member] at inside ⊢
      exact .inr ⟨keyword, ⟨subsystem, among, listed⟩, inside, unsaid,
        Message.mayBeWritten_of_not_infix inside (unsaid diagnostic member)⟩
    · obtain ⟨diagnostic, member, held⟩ : ∃ diagnostic ∈ group,
          keyword.toList <:+: diagnostic.said.toList := by
        simpa using unsaid
      obtain ⟨content, written⟩ := texts diagnostic member
      rw [Diagnostic.said, written] at held
      exact .inl ⟨diagnostic, member, decided among member (written ▸ everywhere content held)⟩
  · exact .inl ⟨diagnostic, member, decided among member found⟩
  · exact .inl ⟨first, List.mem_of_head? is, domain⟩

/-- Patterns are found only in messages that are texts. -/
theorem isText_message_of_checkPatterns {diagnostics : List Diagnostic}
    (checked : checkPatterns subsystems diagnostics = .ok ()) :
    ∀ diagnostic ∈ diagnostics, diagnostic.message.IsText := by
  intro diagnostic member
  obtain ⟨_, texts, _⟩ := bind_eq_ok.1 checked
  have asked := forM_eq_ok_iff.1 texts diagnostic member
  cases written : diagnostic.message with
  | text content => exact Value.isText_text content
  | _ => rw [written] at asked; cases asked

/-- **Patterns are labelled domain for a reason.** Every pattern of the domain in a returned
analysis, but for the gathering one, stands for a diagnostic of the domain, or a keyword stands in
its text that none of its messages has and that normalizing can write.  A keyword in its text or in
one of its messages is enough. -/
theorem domain_patterns_have_a_reason (project : Project) (disk : Disk) (previous : Option Float)
    (observedAt : String) (withComponents : Bool) (attention : Attention) (analysis : Analysis)
    (returned : ((project.analyze disk previous observedAt withComponents).perform attention).1 =
      .ok analysis) :
    ∀ pattern ∈ analysis.patterns.patterns, pattern.identifier ≠ gatheringIdentifier →
      (pattern.category = .domain →
        (∃ diagnostic ∈ sayers analysis.collection.diagnostics pattern.matcher,
          diagnostic.category = .domain) ∨
        ∃ keyword, IsOnlyInGist project.subsystems
          (sayers analysis.collection.diagnostics pattern.matcher) pattern.matcher keyword) ∧
      ∀ subsystem ∈ project.subsystems, (subsystem.matchesText (.text pattern.matcher) = true ∨
        ∃ diagnostic ∈ sayers analysis.collection.diagnostics pattern.matcher,
          subsystem.matchesText diagnostic.message = true) → pattern.category = .domain := by
  intro pattern member ofGist
  obtain ⟨_, reported, _⟩ := Project.result_analyze_eq_ok_iff.1 returned
  obtain ⟨checked, _, made⟩ := result_reportPatterns_eq_ok_iff.1 reported
  rw [← made] at member
  obtain ⟨said, recurs, identifier, rfl⟩ := exists_patternOfGroup_of_mem_findPatterns member ofGist
  refine ⟨fun domain => ?_, fun subsystem among found => ?_⟩
  · have some : sayers analysis.collection.diagnostics said ≠ [] :=
      List.ne_nil_of_length_pos (Nat.lt_of_lt_of_le Nat.two_pos (mem_recurringGists.1 recurs))
    refine exists_domain_or_isOnlyInGist some ?_ ?_ ?_ domain
    · exact fun diagnostic among => (mem_sayers.1 among).2
    · exact fun diagnostic among =>
        isText_message_of_checkPatterns checked diagnostic (mem_sayers.1 among).1
    · exact fun diagnostic among =>
        category_eq_domain_iff_of_analyze returned (mem_sayers.1 among).1
  · refine patternCategory_eq_domain_iff.2 ?_
    rcases found with text | ⟨diagnostic, here, message⟩
    · exact .inl ⟨subsystem, among, text⟩
    · exact .inr (.inl ⟨subsystem, among, diagnostic, here, message⟩)

/-- A project with a subsystem of texts, and two records that a module was not found. -/
def placeholderProject : Project :=
  let texts : Subsystem Float :=
    { name := .text "texts", keywords := [.text "STRING"], globs := [.text "texts/*"]
      tier := .secondary, healthThreshold := 90, criticalThreshold := 5, recommendation := .null
      validationSteps := [] }
  let record (message file : String) : RawDiagnostic :=
    { message := .text message, severity := .text "error", file := .text file
      line := .int 1, column := .int 1, code := .int 2307 }
  .openAt [] { Config.standard with analysis := { subsystems := [texts] } }
    (.records [record "Cannot find module './a'." "a.ts",
      record "Cannot find module './b'." "b.ts"])

/-- The analysis of the project finds a pattern of the domain among imports. -/
theorem exists_pattern_of_placeholderProject : ∃ analysis,
    ((placeholderProject.analyze .empty none "" false).perform .nothing).1 = .ok analysis ∧
      (∀ diagnostic ∈ analysis.collection.diagnostics, diagnostic.category = .importing) ∧
      ∃ pattern ∈ analysis.patterns.patterns, pattern.identifier ≠ gatheringIdentifier ∧
        pattern.category = .domain := by
  have computed : (match ((placeholderProject.analyze .empty none "" false).perform .nothing).1 with
      | .ok analysis =>
          let diagnostics := analysis.collection.diagnostics
          let said := "Cannot find module \"STRING\"."
          diagnostics.all (fun diagnostic => diagnostic.category = .importing) &&
            (recurringGists diagnostics).contains said &&
            patternCategory placeholderProject.subsystems said (sayers diagnostics said) = .domain
      | .error _ => false) = true := by decide +kernel
  cases returned : ((placeholderProject.analyze .empty none "" false).perform .nothing).1 with
  | error failure => rw [returned] at computed; cases computed
  | ok analysis =>
      rw [returned] at computed
      simp only [Bool.and_eq_true, List.all_eq_true, decide_eq_true_iff, List.contains_iff_mem]
        at computed
      obtain ⟨⟨importing, recurs⟩, domain⟩ := computed
      obtain ⟨pattern, among, identifier, rfl⟩ :=
        exists_mem_right (forall₂_recurringGists placeholderProject.subsystems _) recurs
      obtain ⟨_, recognized, _⟩ :=
        reports_of_analyze ((Run.perform_fst _ _).symm.trans returned)
      refine ⟨analysis, rfl, importing, _, ?_, identifier_ne_gatheringIdentifier among, domain⟩
      rw [recognized]
      exact (perm_findPatterns _ _).mem_iff.2 (List.mem_append_left _ among)

/-- The pattern of the project has no reason but a keyword that its messages do not have. -/
theorem placeholderProject_has_a_keyword_only_in_its_gist : ∃ analysis,
    ((placeholderProject.analyze .empty none "" false).perform .nothing).1 = .ok analysis ∧
      ∃ pattern ∈ analysis.patterns.patterns, pattern.identifier ≠ gatheringIdentifier ∧
        pattern.category = .domain ∧ ∃ keyword, IsOnlyInGist placeholderProject.subsystems
          (sayers analysis.collection.diagnostics pattern.matcher) pattern.matcher keyword := by
  obtain ⟨analysis, returned, importing, pattern, member, ofGist, domain⟩ :=
    exists_pattern_of_placeholderProject
  refine ⟨analysis, returned, pattern, member, ofGist, domain, ?_⟩
  obtain ⟨reason, _⟩ := domain_patterns_have_a_reason placeholderProject .empty none "" false
    .nothing analysis returned pattern member ofGist
  rcases reason domain with ⟨diagnostic, among, same⟩ | only
  · rw [importing diagnostic (mem_sayers.1 among).1] at same
    cases same
  · exact only

/-- **A pattern of the domain need not stand for a diagnostic of the domain**: a keyword that is a
placeholder makes one of imports. -/
theorem placeholder_makes_a_domain_pattern :
    ¬ ∀ analysis,
      ((placeholderProject.analyze .empty none "" false).perform .nothing).1 = .ok analysis →
        ∀ pattern ∈ analysis.patterns.patterns, pattern.identifier ≠ gatheringIdentifier →
          pattern.category = .domain →
            ∃ diagnostic ∈ sayers analysis.collection.diagnostics pattern.matcher,
              diagnostic.category = .domain := by
  intro always
  obtain ⟨analysis, returned, importing, pattern, member, ofGist, domain⟩ :=
    exists_pattern_of_placeholderProject
  obtain ⟨diagnostic, among, same⟩ := always analysis returned pattern member ofGist domain
  rw [importing diagnostic (mem_sayers.1 among).1] at same
  cases same

end Triage
