import Triage.Proofs.Pattern.Recurrence
import Triage.Proofs.Table

/-!
# Patterns grow with the diagnostics

A pattern says how many diagnostics it stands for, in which files they are, how severe it is and
how strongly it touches the subsystems.  None of this looks at the order of the diagnostics, and
with further diagnostics none of it falls: groups only become larger, different files more, and
both ladders are climbed with the counts that they are read off (`rank_impactOfHits_le`,
`rank_patternSeverity_le`).  Only the category of a pattern and its identifier may depend on what
comes first, and so they are left out of its figures (`PatternFigures`).

`findPatterns_grow` puts this together: among more diagnostics, in whatever order, every pattern is
found again with figures that are not lower, no count of a subsystem falls and no critical
subsystem is dropped; and a mere reordering changes none of the figures and counts.
-/

namespace Triage

set_option autoImplicit false

variable {Number : Type} {subsystems : List (Subsystem Number)} {fewer more : List Diagnostic}

/-! ## The two ladders -/

/-- The place of an impact on its scale. -/
def DomainImpact.rank : DomainImpact → Nat
  | .none => 0
  | .low => 1
  | .medium => 2
  | .high => 3

theorem DomainImpact.eq_high_of_rank {impact : DomainImpact} (high : 3 ≤ impact.rank) :
    impact = .high := by
  cases impact with
  | high => rfl
  | _ => exact absurd high (by decide)

theorem Level.rank_le (level : Level) : level.rank ≤ 3 := by
  cases level <;> decide

/-- Whether a file concerns one of the subsystems. -/
def touchesAny (subsystems : List (Subsystem Number)) (file : Value) : Bool :=
  subsystems.any fun subsystem => (subsystem.concernsFile? file).passed

/-- The impact of a number of files that concern a subsystem. -/
def impactOfHits (hits : Nat) : DomainImpact :=
  if 3 < hits then .high else if 1 < hits then .medium else if 0 < hits then .low else .none

theorem impactOfFiles_eq (subsystems : List (Subsystem Number)) (files : List Value) :
    impactOfFiles subsystems files = impactOfHits (files.countP (touchesAny subsystems)) := rfl

theorem rank_impactOfHits_le {hits higher : Nat} (further : hits ≤ higher) :
    (impactOfHits hits).rank ≤ (impactOfHits higher).rank := by
  unfold impactOfHits
  split_ifs <;> simp only [DomainImpact.rank] <;> omega

/-- The severity rises with the frequency and with the impact. -/
theorem rank_patternSeverity_le {frequency higher : Int} {impact stronger : DomainImpact}
    (often : frequency ≤ higher) (strong : impact.rank ≤ stronger.rank) :
    (patternSeverity frequency impact).rank ≤ (patternSeverity higher stronger).rank := by
  by_cases high : highFrequency < higher ∨ stronger = .high
  · have top : patternSeverity higher stronger = .high := if_pos high
    rw [top]
    exact Level.rank_le _
  · have low : ¬ (highFrequency < frequency ∨ impact = .high) := by
      rintro (frequent | rfl)
      · exact high (.inl (lt_of_lt_of_le frequent often))
      · exact high (.inr (DomainImpact.eq_high_of_rank strong))
    rw [patternSeverity, patternSeverity, if_neg low, if_neg high]
    split_ifs <;> simp only [Level.rank] <;> omega

/-! ## Files -/

/-- Different files that pass a test are not fewer among more diagnostics. -/
theorem countP_files_le (known : fewer ⊆ more)
    (textual : ∀ diagnostic ∈ more, diagnostic.Textual) (test : Value → Bool) :
    (fewer.map Diagnostic.file).eraseDups.countP test ≤
      (more.map Diagnostic.file).eraseDups.countP test := by
  -- Files are texts, and different texts are told apart.
  have texts (diagnostics : List Diagnostic)
      (textual : ∀ diagnostic ∈ diagnostics, diagnostic.Textual) :
      (diagnostics.map Diagnostic.file).eraseDups =
        (diagnostics.map fun diagnostic => diagnostic.file.display).eraseDups.map Value.text := by
    rw [map_eraseDups fun first second => (Value.text_beq_text first second).symm, List.map_map]
    refine congrArg List.eraseDups (List.map_congr_left fun diagnostic member => ?_)
    obtain ⟨content, written⟩ := (textual diagnostic member).file
    rw [Function.comp_apply, written]
    rfl
  rw [texts more textual, texts fewer fun diagnostic member => textual diagnostic (known member),
    List.countP_map, List.countP_map]
  exact (subperm_eraseDups (List.map_subset _ known)).countP_le _

theorem sortedTexts_subset {texts others : List String} (known : texts ⊆ others) :
    sortedTexts texts ⊆ sortedTexts others :=
  fun _ member => mem_sortedTexts.2 (known (mem_sortedTexts.1 member))

/-- Sorting forgets the order of the texts. -/
theorem sortedTexts_eq_of_perm {texts others : List String} (reordered : texts.Perm others) :
    sortedTexts texts = sortedTexts others :=
  (pairwise_sortedTexts texts).eq_of_mem_iff (pairwise_sortedTexts others) fun text => by
    rw [mem_sortedTexts, mem_sortedTexts, reordered.mem_iff]

/-! ## Figures -/

/-- What a pattern says of its diagnostics, whichever of them comes first. -/
structure PatternFigures where
  /-- Whether it is the pattern that gathers the diagnostics of subsystems. -/
  gathers : Bool
  matcher : String
  frequency : Int
  severity : Level
  affectedFiles : List String
  domainImpact : DomainImpact
deriving DecidableEq

/-- The figures of a pattern. -/
def ErrorPattern.figures (pattern : ErrorPattern) : PatternFigures where
  gathers := pattern.identifier = gatheringIdentifier
  matcher := pattern.matcher
  frequency := pattern.frequency
  severity := pattern.severity
  affectedFiles := pattern.affectedFiles
  domainImpact := pattern.domainImpact

/-- Figures of the same matcher that are not lower. -/
structure PatternFigures.GrowTo (figures others : PatternFigures) : Prop where
  gathers : others.gathers = figures.gathers
  matcher : others.matcher = figures.matcher
  frequency : figures.frequency ≤ others.frequency
  severity : figures.severity.rank ≤ others.severity.rank
  affectedFiles : figures.affectedFiles ⊆ others.affectedFiles
  domainImpact : figures.domainImpact.rank ≤ others.domainImpact.rank

/-- The figures of the pattern of a group of diagnostics that say the same. -/
def groupFigures (subsystems : List (Subsystem Number)) (said : String)
    (group : List Diagnostic) : PatternFigures :=
  let impact := impactOfFiles subsystems (group.map Diagnostic.file).eraseDups
  { gathers := false
    matcher := said
    frequency := group.length
    severity := patternSeverity group.length impact
    affectedFiles := sortedTexts (group.map Diagnostic.basename)
    domainImpact := impact }

theorem figures_patternOfGroup {identifier : String} (different : identifier ≠ gatheringIdentifier)
    (said : String) (group : List Diagnostic) :
    (patternOfGroup subsystems identifier said group).figures =
      groupFigures subsystems said group := by
  have told : decide (identifier = gatheringIdentifier) = false := decide_eq_false different
  rw [ErrorPattern.figures, patternOfGroup, groupFigures]
  simp only [told]

/-- The figures of a larger group are not lower. -/
theorem groupFigures_growTo (further : fewer.Subperm more)
    (textual : ∀ diagnostic ∈ more, diagnostic.Textual) (said : String) :
    (groupFigures subsystems said fewer).GrowTo (groupFigures subsystems said more) := by
  have often : (fewer.length : Int) ≤ more.length := Int.ofNat_le.2 further.length_le
  have impact := rank_impactOfHits_le
    (countP_files_le further.subset textual (touchesAny subsystems))
  exact ⟨rfl, rfl, often, rank_patternSeverity_le often impact,
    sortedTexts_subset (List.map_subset _ further.subset), impact⟩

/-- The figures of a group do not depend on its order. -/
theorem groupFigures_eq_of_perm (reordered : fewer.Perm more)
    (textual : ∀ diagnostic ∈ more, diagnostic.Textual) (said : String) :
    groupFigures subsystems said fewer = groupFigures subsystems said more := by
  have textualFewer : ∀ diagnostic ∈ fewer, diagnostic.Textual :=
    fun diagnostic member => textual diagnostic (reordered.mem_iff.1 member)
  have hits : (fewer.map Diagnostic.file).eraseDups.countP (touchesAny subsystems) =
      (more.map Diagnostic.file).eraseDups.countP (touchesAny subsystems) :=
    le_antisymm (countP_files_le reordered.subset textual _)
      (countP_files_le reordered.symm.subset textualFewer _)
  have files : sortedTexts (fewer.map Diagnostic.basename) =
      sortedTexts (more.map Diagnostic.basename) := sortedTexts_eq_of_perm (reordered.map _)
  simp only [groupFigures, impactOfFiles_eq, hits, files, reordered.length_eq]

/-! ## Patterns of gists -/

/-- The patterns of gists have the figures of the groups of the gists that recur. -/
theorem map_figures_recurringPatterns (subsystems : List (Subsystem Number))
    (diagnostics : List Diagnostic) :
    (recurringPatterns subsystems diagnostics).map ErrorPattern.figures =
      (recurringGists diagnostics).map fun said =>
        groupFigures subsystems said (sayers diagnostics said) := by
  have told := (List.forall₂_and_left _ _).2
    ⟨fun pattern member => identifier_ne_gatheringIdentifier member,
      (forall₂_recurringGists subsystems diagnostics).flip⟩
  rw [← List.forall₂_eq_eq_eq, List.forall₂_map_left_iff, List.forall₂_map_right_iff]
  refine told.imp fun {pattern said} both => ?_
  obtain ⟨different, identifier, rfl⟩ := both
  exact figures_patternOfGroup different said _

/-- The diagnostics with a gist are further ones among further diagnostics. -/
theorem sayers_subperm (further : fewer.Subperm more) (said : String) :
    (sayers fewer said).Subperm (sayers more said) := further.filter _

theorem recurringGists_subset (further : fewer.Subperm more) :
    recurringGists fewer ⊆ recurringGists more := by
  intro said recurs
  have several := mem_recurringGists.1 recurs
  exact mem_recurringGists.2 (le_trans several (sayers_subperm further said).length_le)

/-- Reordered diagnostics have the same recurring gists, perhaps in another order. -/
theorem recurringGists_perm (reordered : fewer.Perm more) :
    (recurringGists fewer).Perm (recurringGists more) := by
  have distinct (diagnostics : List Diagnostic) : (recurringGists diagnostics).Nodup :=
    (nodup_eraseDups _).filter _
  refine (List.perm_ext_iff_of_nodup (distinct _) (distinct _)).2 fun said => ?_
  exact ⟨fun recurs => recurringGists_subset reordered.subperm recurs,
    fun recurs => recurringGists_subset reordered.symm.subperm recurs⟩

/-! ## The gathering pattern -/

/-- The figures of the pattern that gathers some diagnostics. -/
def gatheringFigures (subsystems : List (Subsystem Number)) (concerned : List Diagnostic) :
    PatternFigures where
  gathers := true
  matcher := "|".intercalate ((subsystems.flatMap Subsystem.keywords).map Value.display)
  frequency := concerned.length
  severity := .high
  affectedFiles := sortedTexts (concerned.map Diagnostic.basename)
  domainImpact := if 5 < concerned.length then .high else .medium

theorem map_figures_gatheringPattern (subsystems : List (Subsystem Number))
    (diagnostics : List Diagnostic) :
    (gatheringPattern subsystems diagnostics).map ErrorPattern.figures =
      if (diagnostics.filter (concernsAny subsystems)).isEmpty then none
      else some (gatheringFigures subsystems (diagnostics.filter (concernsAny subsystems))) := by
  unfold gatheringPattern
  simp only
  split <;> rfl

theorem gatheringFigures_growTo (further : fewer.Subperm more) :
    (gatheringFigures subsystems fewer).GrowTo (gatheringFigures subsystems more) := by
  have often := further.length_le
  refine ⟨rfl, rfl, Int.ofNat_le.2 often, le_rfl,
    sortedTexts_subset (List.map_subset _ further.subset), ?_⟩
  unfold gatheringFigures
  simp only
  split_ifs <;> simp only [DomainImpact.rank] <;> omega

theorem gatheringFigures_eq_of_perm (reordered : fewer.Perm more) :
    gatheringFigures subsystems fewer = gatheringFigures subsystems more := by
  have files : sortedTexts (fewer.map Diagnostic.basename) =
      sortedTexts (more.map Diagnostic.basename) := sortedTexts_eq_of_perm (reordered.map _)
  simp only [gatheringFigures, files, reordered.length_eq]

/-! ## All patterns -/

/-- The figures of all patterns, but for their order. -/
theorem figures_findPatterns (subsystems : List (Subsystem Number))
    (diagnostics : List Diagnostic) :
    ((findPatterns subsystems diagnostics).map ErrorPattern.figures).Perm
      (((recurringGists diagnostics).map fun said =>
          groupFigures subsystems said (sayers diagnostics said)) ++
        (if (diagnostics.filter (concernsAny subsystems)).isEmpty then none
          else some (gatheringFigures subsystems
            (diagnostics.filter (concernsAny subsystems)))).toList) := by
  rw [← map_figures_recurringPatterns, ← map_figures_gatheringPattern, Option.toList_map,
    ← List.map_append]
  exact (perm_findPatterns subsystems diagnostics).map ErrorPattern.figures

/-- **With further diagnostics every pattern is found again, and its figures are not lower.** -/
theorem exists_figures_growTo (further : fewer.Subperm more)
    (textual : ∀ diagnostic ∈ more, diagnostic.Textual) {pattern : ErrorPattern}
    (found : pattern ∈ findPatterns subsystems fewer) :
    ∃ other ∈ findPatterns subsystems more, pattern.figures.GrowTo other.figures := by
  suffices grown : ∃ figures ∈ (findPatterns subsystems more).map ErrorPattern.figures,
      pattern.figures.GrowTo figures by
    obtain ⟨_, member, grows⟩ := grown
    obtain ⟨other, listed, rfl⟩ := List.mem_map.1 member
    exact ⟨other, listed, grows⟩
  have figures := (figures_findPatterns subsystems fewer).mem_iff.1 (List.mem_map_of_mem found)
  simp only [(figures_findPatterns subsystems more).mem_iff, List.mem_append]
  rcases List.mem_append.1 figures with recurs | gathers
  · obtain ⟨said, listed, same⟩ := List.mem_map.1 recurs
    refine ⟨_, .inl (List.mem_map_of_mem (recurringGists_subset further listed)), ?_⟩
    rw [← same]
    exact groupFigures_growTo (sayers_subperm further said)
      (fun diagnostic member => textual diagnostic (mem_sayers.1 member).1) said
  · have concerned : (fewer.filter (concernsAny subsystems)).Subperm
        (more.filter (concernsAny subsystems)) := further.filter _
    rw [Option.mem_toList, Option.ite_none_left_eq_some] at gathers
    obtain ⟨some, same⟩ := gathers
    have someMore : ¬ (more.filter (concernsAny subsystems)).isEmpty = true := by
      intro none
      rw [List.isEmpty_iff] at none some
      rw [none] at concerned
      exact some (List.subperm_nil.1 concerned)
    refine ⟨_, .inr (Option.mem_toList.2 (if_neg someMore)), ?_⟩
    rw [← Option.some.inj same]
    exact gatheringFigures_growTo concerned

/-- A reordering changes no figures. -/
theorem figures_findPatterns_perm (reordered : fewer.Perm more)
    (textual : ∀ diagnostic ∈ more, diagnostic.Textual) :
    ((findPatterns subsystems fewer).map ErrorPattern.figures).Perm
      ((findPatterns subsystems more).map ErrorPattern.figures) := by
  have groups : (recurringGists fewer).map (fun said =>
        groupFigures subsystems said (sayers fewer said)) =
      (recurringGists fewer).map fun said =>
        groupFigures subsystems said (sayers more said) := by
    refine List.map_congr_left fun said _ => ?_
    exact groupFigures_eq_of_perm (reordered.filter _)
      (fun diagnostic member => textual diagnostic (mem_sayers.1 member).1) said
  have concerned : (fewer.filter (concernsAny subsystems)).Perm
      (more.filter (concernsAny subsystems)) := reordered.filter _
  refine (figures_findPatterns subsystems fewer).trans (.trans ?_
    (figures_findPatterns subsystems more).symm)
  rw [groups, gatheringFigures_eq_of_perm concerned, concerned.isEmpty_eq]
  exact ((recurringGists_perm reordered).map _).append_right _

/-! ## Counts -/

/-- Counts of the same subsystems that are not lower, and no critical subsystem less. -/
structure SubsystemCounts.GrowTo (first second : SubsystemCounts) : Prop where
  counts : List.Forall₂ (fun left right => left.1 = right.1 ∧ left.2 ≤ right.2)
    first.counts.bindings second.counts.bindings
  critical : first.criticalSubsystems.Sublist second.criticalSubsystems

theorem countSubsystems_growTo (further : fewer.Subperm more)
    (subsystems : List (Subsystem Number)) :
    (countSubsystems subsystems fewer).GrowTo (countSubsystems subsystems more) where
  counts := by
    refine OrderedMap.forall₂_ofList (· ≤ ·) ?_
    rw [List.forall₂_map_left_iff, List.forall₂_map_right_iff]
    exact List.forall₂_same.2 fun subsystem _ => ⟨rfl, concernCount_le_of_subperm further subsystem⟩
  critical := by
    refine List.Sublist.map _ (List.monotone_filter_right subsystems fun subsystem critical => ?_)
    have exceeded := of_decide_eq_true critical
    exact decide_eq_true (lt_of_lt_of_le exceeded
      (Int.ofNat_le.2 (concernCount_le_of_subperm further subsystem)))

theorem countSubsystems_eq_of_perm (reordered : fewer.Perm more)
    (subsystems : List (Subsystem Number)) :
    countSubsystems subsystems fewer = countSubsystems subsystems more := by
  have counts (subsystem : Subsystem Number) :
      concernCount subsystem fewer = concernCount subsystem more := reordered.countP_eq _
  have critical : (isCritical fewer : Subsystem Number → Bool) = isCritical more := by
    funext subsystem
    rw [isCritical, isCritical, counts]
  simp only [countSubsystems, counts, critical]

/-! ## Growth -/

/-- What is found among some diagnostics is found again among others, and nothing of it is
lower there. -/
structure PatternsGrow (subsystems : List (Subsystem Number)) (fewer more : List Diagnostic) :
    Prop where
  patterns : ∀ pattern ∈ findPatterns subsystems fewer,
    ∃ other ∈ findPatterns subsystems more, pattern.figures.GrowTo other.figures
  counts : (countSubsystems subsystems fewer).GrowTo (countSubsystems subsystems more)

/-- What is found among some diagnostics is what is found among others, but for the order, the
categories and the identifiers of the patterns. -/
structure PatternsAgree (subsystems : List (Subsystem Number)) (first second : List Diagnostic) :
    Prop where
  patterns : ((findPatterns subsystems first).map ErrorPattern.figures).Perm
    ((findPatterns subsystems second).map ErrorPattern.figures)
  counts : countSubsystems subsystems first = countSubsystems subsystems second

/-- **Patterns only grow with further diagnostics, and their order does not count.** -/
theorem findPatterns_grow (subsystems : List (Subsystem Number))
    (subsystemsTextual : ∀ subsystem ∈ subsystems, subsystem.Textual)
    (further : fewer.Subperm more) (textual : ∀ diagnostic ∈ more, diagnostic.Textual) :
    (∀ diagnostics ∈ [fewer, more], checkPatterns subsystems diagnostics = .ok () ∧
        checkCounts subsystems diagnostics = .ok ()) ∧
      PatternsGrow subsystems fewer more ∧
      (fewer.Perm more → PatternsAgree subsystems fewer more) := by
  have found (diagnostics : List Diagnostic) (known : diagnostics ⊆ more) :
      checkPatterns subsystems diagnostics = .ok () ∧
        checkCounts subsystems diagnostics = .ok () :=
    have given : ∀ diagnostic ∈ diagnostics, diagnostic.Textual :=
      fun diagnostic member => textual diagnostic (known member)
    ⟨checkPatterns_of_textual subsystemsTextual given,
      checkCounts_of_textual subsystemsTextual given⟩
  refine ⟨?_, ⟨fun pattern listed => exists_figures_growTo further textual listed,
    countSubsystems_growTo further subsystems⟩, fun reordered => ?_⟩
  · intro diagnostics member
    simp only [List.mem_cons, List.not_mem_nil, or_false] at member
    obtain rfl | rfl := member
    · exact found _ further.subset
    · exact found _ (List.Subset.refl _)
  · exact ⟨figures_findPatterns_perm reordered textual,
      countSubsystems_eq_of_perm reordered subsystems⟩

/-- A further diagnostic that says what two others say, in a file of payments. -/
def furtherDiagnostic : Diagnostic :=
  { code := .int 2304, message := .text "Cannot find name 'c'.", file := .text "payments/c.ts"
    line := .int 1, column := .int 2, severity := .error, category := .importing }

theorem findPatterns_grow_with_furtherDiagnostic :
    repeatedDiagnostics.Subperm (furtherDiagnostic :: repeatedDiagnostics.reverse) ∧
      PatternsGrow [paymentSubsystem] repeatedDiagnostics
        (furtherDiagnostic :: repeatedDiagnostics.reverse) ∧
      PatternsAgree [paymentSubsystem] repeatedDiagnostics repeatedDiagnostics.reverse := by
  have subsystems : ∀ subsystem ∈ [paymentSubsystem], subsystem.Textual :=
    List.forall_mem_singleton.2 textual_paymentSubsystem
  have textual : ∀ diagnostic ∈ furtherDiagnostic :: repeatedDiagnostics.reverse,
      diagnostic.Textual := by decide
  have reordered : repeatedDiagnostics.Perm repeatedDiagnostics.reverse :=
    (List.reverse_perm _).symm
  have further : repeatedDiagnostics.Subperm
      (furtherDiagnostic :: repeatedDiagnostics.reverse) :=
    reordered.subperm.trans (List.sublist_cons_self _ _).subperm
  obtain ⟨_, grow, _⟩ := findPatterns_grow [paymentSubsystem] subsystems further textual
  obtain ⟨_, _, agree⟩ := findPatterns_grow [paymentSubsystem] subsystems reordered.subperm
    fun diagnostic member => textual diagnostic (List.mem_cons_of_mem _ member)
  exact ⟨further, grow, agree reordered⟩

end Triage
