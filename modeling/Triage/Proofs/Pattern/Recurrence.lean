import Mathlib.Data.List.Forall2
import Mathlib.Data.List.Sort
import Mathlib.Data.String.Basic
import Triage.Proofs.Grouping
import Triage.Proofs.Ordering
import Triage.Proofs.Pattern.Gathering
import Triage.Proofs.Textual

/-!
# Patterns are what recurs

Diagnostics say the same when their messages have the same gist, which is the message with its
names and numbers forgotten.  Among diagnostics and subsystems that are given by texts, patterns
are always found, and they are exactly the gists that recur (`findPatterns_lists_what_recurs`):
one pattern for every gist that two diagnostics share (`Recurs`), none for any other, and the
gathering pattern when a diagnostic concerns a subsystem.  The patterns stand in falling order
of frequency, and among patterns of one frequency in the order in which their gists first
occur, the gathering pattern last (`placeAmong`).
-/

namespace Triage

set_option autoImplicit false

variable {Number : Type} {subsystems : List (Subsystem Number)} {diagnostics : List Diagnostic}

/-- What a diagnostic says when names and numbers are forgotten. -/
def Diagnostic.gist (diagnostic : Diagnostic) : String := Message.normalize diagnostic.said

/-- The diagnostics with a gist. -/
def sayers (diagnostics : List Diagnostic) (said : String) : List Diagnostic :=
  diagnostics.filter fun diagnostic => diagnostic.gist = said

theorem mem_sayers {said : String} {diagnostic : Diagnostic} :
    diagnostic ∈ sayers diagnostics said ↔ diagnostic ∈ diagnostics ∧ diagnostic.gist = said := by
  rw [sayers, List.mem_filter, decide_eq_true_eq]

/-- The group of a gist are the diagnostics with that gist. -/
theorem bindings_groupByMessage (diagnostics : List Diagnostic) :
    (groupByMessage diagnostics).bindings =
      (diagnostics.map Diagnostic.gist).eraseDups.map fun said =>
        (said, sayers diagnostics said) :=
  OrderedMap.bindings_grouping Diagnostic.gist diagnostics

/-! ## The pattern of a gist -/

/-- A pattern stands for the diagnostics with a gist: it has their number, the names of their
files in order and each once, and admits their messages and no others. -/
structure Recurs (diagnostics : List Diagnostic) (said : String) (pattern : ErrorPattern) :
    Prop where
  matcher : pattern.matcher = said
  frequency : pattern.frequency = (sayers diagnostics said).length
  increasing : pattern.affectedFiles.Pairwise fun first second => first < second
  files : ∀ name, name ∈ pattern.affectedFiles ↔
    ∃ diagnostic ∈ sayers diagnostics said, diagnostic.basename = name
  /-- Whether it admits a message is always known. -/
  decided : ∀ diagnostic ∈ diagnostics, Decided (pattern.admits? diagnostic.message)
  admits : ∀ diagnostic ∈ diagnostics,
    pattern.admits diagnostic.message = true ↔ diagnostic ∈ sayers diagnostics said

theorem mem_sortedTexts {texts : List String} {text : String} :
    text ∈ sortedTexts texts ↔ text ∈ texts := by
  rw [sortedTexts, List.mem_mergeSort, List.mem_eraseDups]

/-- Sorted texts stand in strictly increasing order. -/
theorem pairwise_sortedTexts (texts : List String) :
    (sortedTexts texts).Pairwise fun first second => first < second := by
  refine pairwise_lt_mergeSort (fun first second => ?_) (nodup_eraseDups texts)
  rw [Bool.not_eq_true', decide_eq_false_iff_not, not_lt]

/-- The pattern of a group of diagnostics stands for them. -/
theorem recurs_patternOfGroup (textual : ∀ diagnostic ∈ diagnostics, diagnostic.Textual)
    (identifier said : String) :
    Recurs diagnostics said
      (patternOfGroup subsystems identifier said (sayers diagnostics said)) where
  matcher := rfl
  frequency := rfl
  increasing := pairwise_sortedTexts _
  files name := by
    change name ∈ sortedTexts ((sayers diagnostics said).map Diagnostic.basename) ↔ _
    rw [mem_sortedTexts, List.mem_map]
  decided diagnostic member := by
    obtain ⟨content, written⟩ := (textual diagnostic member).message
    rw [written]
    exact decided_ok _
  admits diagnostic member := by
    obtain ⟨content, written⟩ := (textual diagnostic member).message
    have same : diagnostic.gist = Message.normalize content := by
      rw [Diagnostic.gist, Diagnostic.said, written]
      rfl
    rw [mem_sayers, same, written]
    simp [ErrorPattern.admits, ErrorPattern.admits?, patternOfGroup, Value.textOr, bind,
      Except.bind, pure, Except.pure, member]

/-! ## The patterns of all gists -/

/-- Groups become patterns in their order, but for groups of a single diagnostic. -/
theorem forall₂_patternsOfGroups (subsystems : List (Subsystem Number)) (taken : TakenIdentifiers)
    (groups : List (String × List Diagnostic)) :
    List.Forall₂
      (fun group pattern => ∃ identifier,
        pattern = patternOfGroup subsystems identifier group.1 group.2)
      (groups.filter fun group => 2 ≤ group.2.length)
      (patternsOfGroups subsystems taken groups) := by
  induction groups generalizing taken with
  | nil => exact .nil
  | cons group rest ih =>
      obtain ⟨said, group⟩ := group
      rw [patternsOfGroups]
      by_cases single : group.length < 2
      · rw [if_pos single, List.filter_cons_of_neg (by simp only [decide_eq_true_eq]; omega)]
        exact ih taken
      · rw [if_neg single, List.filter_cons_of_pos (by simp only [decide_eq_true_eq]; omega)]
        exact .cons ⟨_, rfl⟩ (ih _)

/-- The gists that recur, in the order in which they first occur. -/
def recurringGists (diagnostics : List Diagnostic) : List String :=
  (diagnostics.map Diagnostic.gist).eraseDups.filter fun said =>
    2 ≤ (sayers diagnostics said).length

theorem mem_recurringGists {said : String} :
    said ∈ recurringGists diagnostics ↔ 2 ≤ (sayers diagnostics said).length := by
  rw [recurringGists, List.mem_filter, decide_eq_true_eq, List.mem_eraseDups]
  refine and_iff_right_of_imp fun several => ?_
  obtain ⟨diagnostic, member⟩ :=
    List.exists_mem_of_length_pos (Nat.lt_of_lt_of_le Nat.two_pos several)
  obtain ⟨among, same⟩ := mem_sayers.1 member
  exact List.mem_map.2 ⟨diagnostic, among, same⟩

/-- The patterns of gists, before the gathering pattern joins them. -/
def recurringPatterns (subsystems : List (Subsystem Number)) (diagnostics : List Diagnostic) :
    List ErrorPattern :=
  patternsOfGroups subsystems (.ofList [(gatheringIdentifier, 1)])
    (groupByMessage diagnostics).bindings

theorem perm_findPatterns (subsystems : List (Subsystem Number)) (diagnostics : List Diagnostic) :
    (findPatterns subsystems diagnostics).Perm
      (recurringPatterns subsystems diagnostics ++
        (gatheringPattern subsystems diagnostics).toList) :=
  List.mergeSort_perm _ _

/-- The patterns of gists are made of the gists that recur, one by one. -/
theorem forall₂_recurringGists (subsystems : List (Subsystem Number))
    (diagnostics : List Diagnostic) :
    List.Forall₂
      (fun said pattern => ∃ identifier,
        pattern = patternOfGroup subsystems identifier said (sayers diagnostics said))
      (recurringGists diagnostics) (recurringPatterns subsystems diagnostics) := by
  have made := forall₂_patternsOfGroups subsystems (.ofList [(gatheringIdentifier, 1)])
    (groupByMessage diagnostics).bindings
  rwa [bindings_groupByMessage, List.filter_map, List.forall₂_map_left_iff,
    ← bindings_groupByMessage] at made

/-- A pattern that does not gather the subsystems is that of a gist that recurs. -/
theorem exists_patternOfGroup_of_mem_findPatterns {pattern : ErrorPattern}
    (member : pattern ∈ findPatterns subsystems diagnostics)
    (ofGist : pattern.identifier ≠ gatheringIdentifier) :
    ∃ said ∈ recurringGists diagnostics, ∃ identifier,
      pattern = patternOfGroup subsystems identifier said (sayers diagnostics said) := by
  have listed := (perm_findPatterns subsystems diagnostics).mem_iff.1 member
  rcases List.mem_append.1 listed with recurring | gathered
  · exact exists_mem_left (forall₂_recurringGists subsystems diagnostics) recurring
  · exact absurd (identifier_of_gatheringPattern (Option.mem_toList.1 gathered)) ofGist

/-- **The patterns of gists stand for the gists that recur**, one by one. -/
theorem forall₂_recurringPatterns (subsystems : List (Subsystem Number))
    (textual : ∀ diagnostic ∈ diagnostics, diagnostic.Textual) :
    List.Forall₂ (Recurs diagnostics) (recurringGists diagnostics)
      (recurringPatterns subsystems diagnostics) := by
  refine (forall₂_recurringGists subsystems diagnostics).imp fun {said pattern} becomes => ?_
  obtain ⟨identifier, rfl⟩ := becomes
  exact recurs_patternOfGroup textual identifier said

theorem map_matcher_recurringPatterns (subsystems : List (Subsystem Number))
    (textual : ∀ diagnostic ∈ diagnostics, diagnostic.Textual) :
    (recurringPatterns subsystems diagnostics).map ErrorPattern.matcher =
      recurringGists diagnostics := by
  rw [eq_comm, ← List.forall₂_eq_eq_eq, List.forall₂_map_right_iff]
  exact (forall₂_recurringPatterns subsystems textual).imp fun _ _ recurs => recurs.matcher.symm

/-- A gist has one pattern if it recurs, and else none. -/
theorem forall₂_filter_matcher (subsystems : List (Subsystem Number))
    (textual : ∀ diagnostic ∈ diagnostics, diagnostic.Textual) (said : String) :
    List.Forall₂ (Recurs diagnostics)
      (if 2 ≤ (sayers diagnostics said).length then [said] else [])
      ((recurringPatterns subsystems diagnostics).filter fun pattern =>
        pattern.matcher = said) := by
  have distinct : (recurringGists diagnostics).Nodup := (nodup_eraseDups _).filter _
  have listed : (recurringGists diagnostics).filter (fun other => other = said) =
      if 2 ≤ (sayers diagnostics said).length then [said] else [] := by
    rw [List.filter_eq, distinct.count]
    simp only [mem_recurringGists]
    split <;> rfl
  rw [← listed]
  refine List.rel_filter (fun {other pattern} recurs => ?_)
    (forall₂_recurringPatterns subsystems textual)
  simp only [recurs.matcher]

/-! ## The order of the patterns -/

/-- Where a pattern comes among those of its frequency: at the first diagnostic with its gist,
and the gathering pattern behind all diagnostics. -/
def placeAmong (diagnostics : List Diagnostic) (pattern : ErrorPattern) : Nat :=
  if pattern.identifier = gatheringIdentifier then diagnostics.length
  else (diagnostics.map Diagnostic.gist).idxOf pattern.matcher

theorem placeAmong_of_mem_recurringPatterns {pattern : ErrorPattern}
    (member : pattern ∈ recurringPatterns subsystems diagnostics) :
    placeAmong diagnostics pattern = (diagnostics.map Diagnostic.gist).idxOf pattern.matcher :=
  if_neg (identifier_ne_gatheringIdentifier member)

/-- Before they are sorted, the patterns stand in the order of their places. -/
theorem pairwise_placeAmong (subsystems : List (Subsystem Number))
    (textual : ∀ diagnostic ∈ diagnostics, diagnostic.Textual) :
    (recurringPatterns subsystems diagnostics ++
      (gatheringPattern subsystems diagnostics).toList).Pairwise fun first second =>
        placeAmong diagnostics first < placeAmong diagnostics second := by
  have matchers := map_matcher_recurringPatterns subsystems textual
  refine List.pairwise_append.2 ⟨?_, ?_, ?_⟩
  · have listed : ((recurringPatterns subsystems diagnostics).map ErrorPattern.matcher).Pairwise
        fun first second => (diagnostics.map Diagnostic.gist).idxOf first <
          (diagnostics.map Diagnostic.gist).idxOf second := by
      rw [matchers]
      exact (pairwise_idxOf_eraseDups _).filter _
    refine (List.pairwise_map.1 listed).imp_of_mem fun {first second} left right before => ?_
    rwa [placeAmong_of_mem_recurringPatterns left, placeAmong_of_mem_recurringPatterns right]
  · cases gatheringPattern subsystems diagnostics with
    | none => exact .nil
    | some pattern => exact List.pairwise_singleton _ _
  · intro pattern member gathering gathered
    have last : placeAmong diagnostics gathering = diagnostics.length :=
      if_pos (identifier_of_gatheringPattern (Option.mem_toList.1 gathered))
    have among : pattern.matcher ∈ diagnostics.map Diagnostic.gist := by
      have recurring := List.mem_map_of_mem (f := ErrorPattern.matcher) member
      rw [matchers] at recurring
      exact List.mem_eraseDups.1 (List.mem_filter.1 recurring).1
    have first := List.idxOf_lt_length_of_mem among
    rw [List.length_map] at first
    rwa [placeAmong_of_mem_recurringPatterns member, last]

/-! ## Whether patterns can be found -/

section Textual

variable (subsystemsTextual : ∀ subsystem ∈ subsystems, subsystem.Textual)
include subsystemsTextual

theorem checkGroup_of_textual (said : String) {group : List Diagnostic}
    (textual : ∀ diagnostic ∈ group, diagnostic.Textual) :
    checkGroup subsystems said group = .ok () := by
  have files : group.forM Diagnostic.checkFile = .ok () :=
    forM_eq_ok_iff.2 fun diagnostic member => (textual diagnostic member).checkFile
  have texts : Decided (subsystems.anyM fun subsystem =>
      (Value.text said :: group.map Diagnostic.message).anyM subsystem.matchesText?) := by
    refine decided_anyM fun subsystem member => decided_anyM fun text among => ?_
    have isText : text.IsText := by
      rcases List.mem_cons.1 among with rfl | reported
      · exact Value.isText_text said
      · obtain ⟨diagnostic, listed, rfl⟩ := List.mem_map.1 reported
        exact (textual diagnostic listed).message
    obtain ⟨content, rfl⟩ := isText
    exact (subsystemsTextual subsystem member).decided_matchesText? content
  have paths : (group.forM fun diagnostic => Verdict.check (subsystems.anyM fun subsystem =>
      subsystem.concernsFile? diagnostic.file)) = .ok () := by
    refine forM_eq_ok_iff.2 fun diagnostic among => Decided.check ?_
    obtain ⟨content, written⟩ := (textual diagnostic among).file
    rw [written]
    exact decided_anyM fun subsystem member =>
      (subsystemsTextual subsystem member).decided_concernsFile? content
  exact bind_eq_ok.2 ⟨(), files, bind_eq_ok.2 ⟨(), texts.check, paths⟩⟩

theorem checkGathering_of_textual (textual : ∀ diagnostic ∈ diagnostics, diagnostic.Textual) :
    checkGathering subsystems diagnostics = .ok () := by
  have concerns : (diagnostics.forM fun diagnostic => Verdict.check (subsystems.anyM
      fun subsystem => subsystem.concerns? diagnostic.message diagnostic.file)) = .ok () := by
    refine forM_eq_ok_iff.2 fun diagnostic among => Decided.check ?_
    exact decided_anyM fun subsystem member =>
      (subsystemsTextual subsystem member).decided_concerns_of_textual (textual diagnostic among)
  have keywords : ((subsystems.flatMap Subsystem.keywords).forM fun keyword =>
      discard keyword.toText : Except Failure Unit) = .ok () := by
    refine forM_eq_ok_iff.2 fun keyword member => ?_
    obtain ⟨subsystem, listed, among⟩ := List.mem_flatMap.1 member
    obtain ⟨content, rfl⟩ := (subsystemsTextual subsystem listed).keywords keyword among
    rfl
  have files : (diagnostics.filter (concernsAny subsystems)).forM Diagnostic.checkFile = .ok () :=
    forM_eq_ok_iff.2 fun diagnostic member =>
      (textual diagnostic (List.mem_filter.1 member).1).checkFile
  refine bind_eq_ok.2 ⟨(), concerns, ?_⟩
  simp only
  split
  · exact bind_eq_ok.2 ⟨(), keywords, files⟩
  · rfl

/-- Patterns can be found in diagnostics that are given by texts. -/
theorem checkPatterns_of_textual (textual : ∀ diagnostic ∈ diagnostics, diagnostic.Textual) :
    checkPatterns subsystems diagnostics = .ok () := by
  have messages : (diagnostics.forM fun diagnostic =>
      discard (diagnostic.message.textOr .notATable) : Except Failure Unit) = .ok () := by
    refine forM_eq_ok_iff.2 fun diagnostic member => ?_
    obtain ⟨content, written⟩ := (textual diagnostic member).message
    rw [written]
    rfl
  refine bind_eq_ok.2 ⟨(), messages, bind_eq_ok.2 ⟨(), ?_, ?_⟩⟩
  · refine forM_eq_ok_iff.2 fun group member => ?_
    rw [bindings_groupByMessage] at member
    obtain ⟨said, _, rfl⟩ := List.mem_map.1 member
    simp only
    split
    · rfl
    · exact checkGroup_of_textual subsystemsTextual said fun diagnostic among =>
        textual diagnostic (mem_sayers.1 among).1
  · exact checkGathering_of_textual subsystemsTextual textual

/-- The diagnostics of textual subsystems can be counted. -/
theorem checkCounts_of_textual (textual : ∀ diagnostic ∈ diagnostics, diagnostic.Textual) :
    checkCounts subsystems diagnostics = .ok () := by
  refine bind_eq_ok.2 ⟨(), forM_eq_ok_iff.2 fun subsystem listed => ?_,
    forM_eq_ok_iff.2 fun name member => ?_⟩
  · have here := subsystemsTextual subsystem listed
    obtain ⟨content, named⟩ := here.name
    rw [here.checkConcerns textual, here.checkEntry, named, Value.checkShown_text]
    simp only [bind, Except.bind]
    split <;> rfl
  · obtain ⟨subsystem, critical, rfl⟩ := List.mem_map.1 member
    obtain ⟨content, named⟩ := (subsystemsTextual subsystem (List.mem_filter.1 critical).1).name
    rw [named]
    rfl

end Textual

/-! ## The patterns of diagnostics -/

/-- A list of patterns says what recurs in diagnostics. -/
structure ListsRecurrences (subsystems : List (Subsystem Number)) (diagnostics : List Diagnostic)
    (patterns : List ErrorPattern) : Prop where
  /-- A gist of several diagnostics has exactly one pattern. -/
  recurring : ∀ said, 2 ≤ (sayers diagnostics said).length → ∃ pattern,
    patterns.filter (fun pattern =>
      pattern.identifier ≠ gatheringIdentifier ∧ pattern.matcher = said) = [pattern] ∧
    Recurs diagnostics said pattern
  /-- No other text has one. -/
  single : ∀ said, (sayers diagnostics said).length < 2 →
    patterns.filter (fun pattern =>
      pattern.identifier ≠ gatheringIdentifier ∧ pattern.matcher = said) = []
  /-- There is a gathering pattern when a diagnostic concerns a subsystem, with the number of
  diagnostics that concern one. -/
  gathering : (∃ diagnostic ∈ diagnostics, ∃ subsystem ∈ subsystems,
      subsystem.concernedBy diagnostic.message diagnostic.file = true) → ∃ pattern,
    patterns.filter (fun pattern => pattern.identifier = gatheringIdentifier) = [pattern] ∧
    pattern.frequency = diagnostics.countP (concernsAny subsystems)
  spared : (¬ ∃ diagnostic ∈ diagnostics, ∃ subsystem ∈ subsystems,
      subsystem.concernedBy diagnostic.message diagnostic.file = true) →
    patterns.filter (fun pattern => pattern.identifier = gatheringIdentifier) = []
  falling : patterns.Pairwise fun first second => second.frequency ≤ first.frequency
  /-- Patterns of one frequency come in the order of the first diagnostics with their gists,
  the gathering pattern last. -/
  placed : ∀ frequency, (patterns.filter fun pattern => pattern.frequency = frequency).Pairwise
    fun first second => placeAmong diagnostics first < placeAmong diagnostics second

/-- The patterns that are found with a gist are those of the gist. -/
theorem perm_filter_findPatterns (subsystems : List (Subsystem Number))
    (diagnostics : List Diagnostic) (said : String) :
    ((findPatterns subsystems diagnostics).filter fun pattern =>
      pattern.identifier ≠ gatheringIdentifier ∧ pattern.matcher = said).Perm
        ((recurringPatterns subsystems diagnostics).filter fun pattern =>
          pattern.matcher = said) := by
  have others : (gatheringPattern subsystems diagnostics).toList.filter (fun pattern =>
      decide (pattern.identifier ≠ gatheringIdentifier ∧ pattern.matcher = said)) = [] := by
    rw [List.filter_eq_nil_iff]
    intro pattern gathered
    have told := identifier_of_gatheringPattern (Option.mem_toList.1 gathered)
    simp [told]
  have recurring : (recurringPatterns subsystems diagnostics).filter (fun pattern =>
      decide (pattern.identifier ≠ gatheringIdentifier ∧ pattern.matcher = said)) =
        (recurringPatterns subsystems diagnostics).filter fun pattern =>
          pattern.matcher = said := by
    refine List.filter_congr fun pattern member => ?_
    have told := identifier_ne_gatheringIdentifier member
    simp [told]
  have permuted := (perm_findPatterns subsystems diagnostics).filter fun pattern =>
    decide (pattern.identifier ≠ gatheringIdentifier ∧ pattern.matcher = said)
  rwa [List.filter_append, others, List.append_nil, recurring] at permuted

/-- **Patterns are what recurs.** Among diagnostics and subsystems that are given by texts, the
patterns are found, and they are one for every gist that two diagnostics share, and the gathering
pattern when a diagnostic concerns a subsystem, from the most frequent on and in the order in
which they first occur. -/
theorem findPatterns_lists_what_recurs (subsystems : List (Subsystem Number))
    (diagnostics : List Diagnostic)
    (subsystemsTextual : ∀ subsystem ∈ subsystems, subsystem.Textual)
    (textual : ∀ diagnostic ∈ diagnostics, diagnostic.Textual) :
    checkPatterns subsystems diagnostics = .ok () ∧
      ListsRecurrences subsystems diagnostics (findPatterns subsystems diagnostics) := by
  refine ⟨checkPatterns_of_textual subsystemsTextual textual, ?_⟩
  have counted : 0 < diagnostics.countP (concernsAny subsystems) ↔
      ∃ diagnostic ∈ diagnostics, ∃ subsystem ∈ subsystems,
        subsystem.concernedBy diagnostic.message diagnostic.file = true := by
    simp only [List.countP_pos_iff, concernsAny_iff]
  have listed := forall₂_filter_matcher subsystems textual
  have permuted := perm_filter_findPatterns subsystems diagnostics
  have gathered := filter_identifier_findPatterns subsystems diagnostics
  have frequencies := frequencies_gatheringPattern subsystems diagnostics
  refine ⟨fun said several => ?_, fun said few => ?_, fun concerned => ?_, fun unconcerned => ?_,
    ?_, fun frequency => ?_⟩
  · have one := listed said
    rw [if_pos several, List.forall₂_cons_left_iff] at one
    obtain ⟨pattern, rest, recurs, none, is⟩ := one
    rw [List.forall₂_nil_left_iff.1 none] at is
    exact ⟨pattern, List.perm_singleton.1 (is ▸ permuted said), recurs⟩
  · have none := listed said
    rw [if_neg (Nat.not_le.2 few), List.forall₂_nil_left_iff] at none
    exact List.perm_nil.1 (none ▸ permuted said)
  · rw [if_neg (counted.2 concerned).ne'] at frequencies
    obtain ⟨pattern, is, number⟩ := List.map_eq_singleton_iff.1 frequencies
    exact ⟨pattern, gathered.trans is, number⟩
  · rw [if_pos (Nat.eq_zero_of_not_pos (mt counted.1 unconcerned)), List.map_eq_nil_iff]
      at frequencies
    exact gathered.trans frequencies
  · exact pairwise_mergeSort_falling ErrorPattern.frequency _
  · have kept : (findPatterns subsystems diagnostics).filter
        (fun pattern => pattern.frequency = frequency) =
      (recurringPatterns subsystems diagnostics ++
        (gatheringPattern subsystems diagnostics).toList).filter
          fun pattern => pattern.frequency = frequency := by
      refine filter_mergeSort_falling ErrorPattern.frequency _ fun first second left right => ?_
      rw [of_decide_eq_true left, of_decide_eq_true right]
    rw [kept]
    exact (pairwise_placeAmong subsystems textual).filter _

/-- Two diagnostics that say the same and one that says something else. -/
def repeatedDiagnostics : List Diagnostic :=
  let diagnostic (message file : String) : Diagnostic :=
    { code := .int 2304, message := .text message, file := .text file, line := .int 1
      column := .int 2, severity := .error, category := .importing }
  [diagnostic "Cannot find name 'a'." "src/b.ts", diagnostic "Payment 3 is missing" "c.ts",
    diagnostic "Cannot find name 'b'." "a.ts"]

theorem findPatterns_repeatedDiagnostics :
    (∀ subsystem ∈ [paymentSubsystem], subsystem.Textual) ∧
      (∀ diagnostic ∈ repeatedDiagnostics, diagnostic.Textual) ∧
      ∃ recurring gathering,
        (findPatterns [paymentSubsystem] repeatedDiagnostics).filter (fun pattern =>
          pattern.identifier ≠ gatheringIdentifier ∧
            pattern.matcher = "Cannot find name \"STRING\".") = [recurring] ∧
        recurring.frequency = 2 ∧ (∀ name, name ∈ recurring.affectedFiles ↔
          name = "b.ts" ∨ name = "a.ts") ∧
        (findPatterns [paymentSubsystem] repeatedDiagnostics).filter (fun pattern =>
          pattern.identifier = gatheringIdentifier) = [gathering] ∧
        gathering.frequency = 1 := by
  have subsystems : ∀ subsystem ∈ [paymentSubsystem], subsystem.Textual :=
    List.forall_mem_singleton.2 textual_paymentSubsystem
  have diagnostics : ∀ diagnostic ∈ repeatedDiagnostics, diagnostic.Textual := by
    intro diagnostic member
    simp only [repeatedDiagnostics, List.mem_cons, List.not_mem_nil, or_false] at member
    rcases member with rfl | rfl | rfl <;> exact ⟨Value.isText_text _, Value.isText_text _⟩
  obtain ⟨_, lists⟩ := findPatterns_lists_what_recurs [paymentSubsystem] repeatedDiagnostics
    subsystems diagnostics
  have sharers : (sayers repeatedDiagnostics "Cannot find name \"STRING\".").map
      Diagnostic.basename = ["b.ts", "a.ts"] := by decide +kernel
  have concerned : repeatedDiagnostics.countP (concernsAny [paymentSubsystem]) = 1 := by
    decide +kernel
  have several : (sayers repeatedDiagnostics "Cannot find name \"STRING\".").length = 2 := by
    rw [← List.length_map (f := Diagnostic.basename), sharers]
    rfl
  obtain ⟨recurring, found, recurs⟩ := lists.recurring _ several.ge
  obtain ⟨diagnostic, member, concerns⟩ := List.countP_pos_iff.1 (concerned ▸ Nat.one_pos)
  obtain ⟨gathering, gathered, frequency⟩ :=
    lists.gathering ⟨diagnostic, member, concernsAny_iff.1 concerns⟩
  refine ⟨subsystems, diagnostics, recurring, gathering, found, ?_, fun name => ?_, gathered, ?_⟩
  · rw [recurs.frequency, several]
    rfl
  · rw [recurs.files, ← List.mem_map, sharers]
    simp
  · rw [frequency, concerned]
    rfl

end Triage
