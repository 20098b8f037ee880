import Triage.Config.Designation
import Triage.Proofs.Text.Cutting
import Triage.Proofs.Text.Trimming

/-!
# Designations are read back

A subsystem that is designated in one text is written as its name, an equals sign and its keywords
with commas in between.  Blanks may stand around the name and around each keyword, and further
items may be left blank (`Subsystem.KeywordItems`).  Commas cut the keywords apart
(`readKeywords_intercalate`), so reading gives the keywords in their order and nothing for the blank
items (`Subsystem.KeywordItems.readKeywords_eq`).  The name ends at the first equals sign: commas in
front of it belong to the name, and further equals signs to the keywords.

Every other text is read as well, as long as something stands in front of its first equals sign, and
then no keyword is empty or has blanks around it (`designations_are_read_back`).
-/

namespace Triage

set_option autoImplicit false

open Triage.Text

/-- A text stands for itself between separators: it is not empty, has no separator and no blanks
around it. -/
structure Text.IsEntry (separator : Char) (entry : String) : Prop where
  filled : entry ≠ ""
  free : separator ∉ entry.toList
  trimmed : IsTrimmed entry.toList

instance (separator : Char) (entry : String) : Decidable (IsEntry separator entry) :=
  decidable_of_iff (entry ≠ "" ∧ separator ∉ entry.toList ∧ IsTrimmed entry.toList)
    ⟨fun ⟨filled, free, trimmed⟩ => ⟨filled, free, trimmed⟩,
      fun ⟨filled, free, trimmed⟩ => ⟨filled, free, trimmed⟩⟩

/-! ## Keywords -/

/-- Commas cut keywords apart, whatever stands on both sides. -/
theorem readKeywords_append_comma (first second : List Char) :
    readKeywords (first ++ ',' :: second) = readKeywords first ++ readKeywords second := by
  rw [readKeywords, cutAt_append_cons, List.map_append, List.filterMap_append]
  rfl

theorem readKeywords_intercalate (items : List (List Char)) :
    readKeywords ([','].intercalate items) = items.flatMap readKeywords := by
  induction items with
  | nil => rfl
  | cons item rest ih =>
      cases rest with
      | nil => rw [List.intercalate_singleton, List.flatMap_singleton]
      | cons next others =>
          rw [List.intercalate_cons_cons, List.append_assoc, List.singleton_append,
            readKeywords_append_comma, ih, ← List.flatMap_cons]

/-- No keyword is read from a blank item. -/
theorem readKeywords_of_areBlank {item : List Char} (blank : AreBlank item) :
    readKeywords item = [] := by
  rw [readKeywords, cutAt_of_not_mem (blank.not_mem (by decide)), List.map_singleton,
    trimChars_eq_nil_iff.2 blank]
  rfl

/-- A keyword is read from an item without the blanks around it. -/
theorem readKeywords_around {keyword : String} (entry : IsEntry ',' keyword)
    {before behind : List Char} (first : AreBlank before) (last : AreBlank behind) :
    readKeywords (before ++ keyword.toList ++ behind) = [keyword] := by
  have free : ',' ∉ before ++ keyword.toList ++ behind := by
    simp only [List.mem_append, not_or]
    exact ⟨⟨first.not_mem (by decide), entry.free⟩, last.not_mem (by decide)⟩
  have some : keyword.toList ≠ [] := mt String.toList_eq_nil_iff.1 entry.filled
  rw [readKeywords, cutAt_of_not_mem free, List.map_singleton, trimChars_around first last,
    trimChars_eq_self_iff.2 entry.trimmed, List.filterMap_cons,
    if_neg (mt List.isEmpty_iff.1 some), String.ofList_toList]
  rfl

/-- A keyword that is read is not empty and has no blanks around it. -/
theorem isTrimmed_of_mem_readKeywords {written : List Char} {keyword : String}
    (read : keyword ∈ readKeywords written) : keyword ≠ "" ∧ IsTrimmed keyword.toList := by
  obtain ⟨kept, among, made⟩ := List.mem_filterMap.1 read
  obtain ⟨item, _, rfl⟩ := List.mem_map.1 among
  split at made
  · cases made
  · next some =>
      obtain rfl := Option.some.inj made
      rw [String.toList_ofList]
      refine ⟨?_, isTrimmed_trimChars item⟩
      rw [ne_eq, String.ofList_eq_empty_iff, ← List.isEmpty_iff]
      exact some

namespace Subsystem

/-- Items that can be written for keywords: one for each keyword in order, with blanks around it,
and blank items anywhere. -/
inductive KeywordItems : List String → List String → Prop where
  | nil : KeywordItems [] []
  | blank {item : String} {keywords items : List String} (blank : AreBlank item.toList)
      (rest : KeywordItems keywords items) : KeywordItems keywords (item :: items)
  | keyword (before keyword behind : String) {keywords items : List String}
      (first : AreBlank before.toList) (last : AreBlank behind.toList)
      (rest : KeywordItems keywords items) :
        KeywordItems (keyword :: keywords) ((before ++ keyword ++ behind) :: items)

/-- **Keywords are read from the items that are written for them.** -/
theorem KeywordItems.readKeywords_eq {keywords items : List String}
    (written : KeywordItems keywords items) (entries : ∀ keyword ∈ keywords, IsEntry ',' keyword) :
    readKeywords (",".intercalate items).toList = keywords := by
  rw [String.toList_intercalate]
  refine (readKeywords_intercalate _).trans ?_
  induction written with
  | nil => rfl
  | blank blank _ ih =>
      rw [List.map_cons, List.flatMap_cons, readKeywords_of_areBlank blank, ih entries,
        List.nil_append]
  | keyword before keyword behind first last _ ih =>
      rw [List.map_cons, List.flatMap_cons, String.toList_append, String.toList_append,
        readKeywords_around (entries keyword List.mem_cons_self) first last,
        ih fun other member => entries other (List.mem_cons_of_mem _ member),
        List.singleton_append]

/-! ## Subsystems -/

variable {Number : Type} [Scalar Number]

/-- A subsystem that is given by its name and its keywords has one glob, and its name for a keyword
if there are none. -/
theorem designate_eq (name : String) (keywords : List String) (tier : Tier) :
    (designate name keywords tier : Subsystem Number) =
      { name := .text name
        keywords := textValues (if keywords = [] then [name] else keywords)
        globs := [.text ("**/*" ++ name ++ "*")]
        tier
        healthThreshold := standardHealthThreshold
        criticalThreshold := standardCriticalThreshold
        recommendation := .text ""
        validationSteps := [] } := by
  cases keywords <;> rfl

/-- A text whose name is blank designates nothing. -/
theorem ofText_of_areBlank {written : String}
    (blank : AreBlank (written.toList.takeWhile (· ≠ '='))) (tier : Tier) :
    (ofText written tier : Except Failure (Subsystem Number)) =
      .error (.configuration (.invalidSubsystemOption written)) := by
  have nothing : (trimChars (written.toList.takeWhile (· ≠ '='))).isEmpty = true :=
    List.isEmpty_iff.2 (trimChars_eq_nil_iff.2 blank)
  exact if_pos nothing

/-- Any other text designates a subsystem by the name and the keywords that it gives. -/
theorem ofText_of_not_areBlank {written : String}
    (some : ¬ AreBlank (written.toList.takeWhile (· ≠ '='))) (tier : Tier) :
    (ofText written tier : Except Failure (Subsystem Number)) =
      .ok (designate (String.ofList (trimChars (written.toList.takeWhile (· ≠ '='))))
        (readKeywords (cutFirst '=' written.toList).2) tier) := by
  have something : ¬ (trimChars (written.toList.takeWhile (· ≠ '='))).isEmpty = true :=
    fun nothing => some (trimChars_eq_nil_iff.1 (List.isEmpty_iff.1 nothing))
  exact if_neg something

/-- **A subsystem is read back** from its name and its keywords with an equals sign in between. -/
theorem ofText_written {name : String} {keywords items : List String} {before behind : String}
    (named : IsEntry '=' name) (entries : ∀ keyword ∈ keywords, IsEntry ',' keyword)
    (first : AreBlank before.toList) (last : AreBlank behind.toList)
    (written : KeywordItems keywords items) (tier : Tier) :
    (ofText (before ++ name ++ behind ++ "=" ++ ",".intercalate items) tier :
        Except Failure (Subsystem Number)) = .ok (designate name keywords tier) := by
  have parts : (before ++ name ++ behind ++ "=" ++ ",".intercalate items).toList =
      (before.toList ++ name.toList ++ behind.toList) ++ '=' :: (",".intercalate items).toList := by
    simp
  have free : '=' ∉ before.toList ++ name.toList ++ behind.toList := by
    simp only [List.mem_append, not_or]
    exact ⟨⟨first.not_mem (by decide), named.free⟩, last.not_mem (by decide)⟩
  have trimmed : trimChars (before.toList ++ name.toList ++ behind.toList) = name.toList := by
    rw [trimChars_around first last, trimChars_eq_self_iff.2 named.trimmed]
  have cut := cutFirst_append_cons free (",".intercalate items).toList
  have front : (before ++ name ++ behind ++ "=" ++ ",".intercalate items).toList.takeWhile
      (· ≠ '=') = before.toList ++ name.toList ++ behind.toList := by
    rw [parts]
    exact congrArg Prod.fst cut
  rw [ofText_of_not_areBlank, front, trimmed, parts, cut, written.readKeywords_eq entries,
    String.ofList_toList]
  rw [front, ← trimChars_eq_nil_iff, trimmed]
  exact mt String.toList_eq_nil_iff.1 named.filled

end Subsystem

/-- **Designations are read back.** The text that is written for a name and keywords, with blanks
around them and blank items in between, designates the subsystem with this name, these keywords (or
the name for one) and the glob of its name.  Every text designates a subsystem unless it is blank in
front of its first equals sign, which is reported; and the keywords of the subsystem are not empty
and have no blanks around them. -/
theorem designations_are_read_back {Number : Type} [Scalar Number] (tier : Tier) :
    (∀ (name : String) (keywords items : List String) (before behind : String),
      IsEntry '=' name → (∀ keyword ∈ keywords, IsEntry ',' keyword) →
      AreBlank before.toList → AreBlank behind.toList →
      Subsystem.KeywordItems keywords items →
        (Subsystem.ofText (before ++ name ++ behind ++ "=" ++ ",".intercalate items) tier :
            Except Failure (Subsystem Number)) =
          .ok
            { name := .text name
              keywords := textValues (if keywords = [] then [name] else keywords)
              globs := [.text ("**/*" ++ name ++ "*")]
              tier
              healthThreshold := standardHealthThreshold
              criticalThreshold := standardCriticalThreshold
              recommendation := .text ""
              validationSteps := [] }) ∧
    ∀ written : String,
      ((Subsystem.ofText written tier : Except Failure (Subsystem Number)) =
          .error (.configuration (.invalidSubsystemOption written)) ↔
        AreBlank (written.toList.takeWhile (· ≠ '='))) ∧
      (¬ AreBlank (written.toList.takeWhile (· ≠ '=')) →
        ∃ subsystem : Subsystem Number, Subsystem.ofText written tier = .ok subsystem ∧
          ∀ keyword ∈ subsystem.keywords, ∃ text, keyword = .text text ∧ text ≠ "" ∧
            IsTrimmed text.toList) := by
  refine ⟨fun name keywords items before behind named entries first last items => ?_,
    fun written => ?_⟩
  · rw [Subsystem.ofText_written named entries first last items, Subsystem.designate_eq]
  · by_cases blank : AreBlank (written.toList.takeWhile (· ≠ '='))
    · have refused := @Subsystem.ofText_of_areBlank Number _ _ blank tier
      exact ⟨iff_of_true refused blank, fun some => absurd blank some⟩
    · have read := @Subsystem.ofText_of_not_areBlank Number _ _ blank tier
      have accepted : (Subsystem.ofText written tier : Except Failure (Subsystem Number)) ≠
          .error (.configuration (.invalidSubsystemOption written)) := by
        rw [read]
        nofun
      refine ⟨iff_of_false accepted blank, fun _ => ⟨_, read, fun keyword member => ?_⟩⟩
      rw [Subsystem.designate_eq] at member
      obtain ⟨text, listed, rfl⟩ := List.mem_map.1 member
      refine ⟨text, rfl, ?_⟩
      split at listed
      · rw [List.mem_singleton.1 listed, String.toList_ofList]
        refine ⟨?_, isTrimmed_trimChars _⟩
        rw [ne_eq, String.ofList_eq_empty_iff, trimChars_eq_nil_iff]
        exact blank
      · exact isTrimmed_of_mem_readKeywords listed

/-- Payments that are written loosely, with a comma in the name and an equals sign in a keyword. -/
theorem designation_of_loose_payments_is_read_back :
    IsEntry '=' "pay, later" ∧ (∀ keyword ∈ ["Pay=1", "Refund"], IsEntry ',' keyword) ∧
      Subsystem.KeywordItems ["Pay=1", "Refund"] ["", " Pay=1\t", "  ", "Refund"] ∧
      (Subsystem.ofText "\npay, later =, Pay=1\t,  ,Refund" .primary :
          Except Failure (Subsystem Float)) =
        .ok
          { name := .text "pay, later"
            keywords := [.text "Pay=1", .text "Refund"]
            globs := [.text "**/*pay, later*"]
            tier := .primary
            healthThreshold := standardHealthThreshold
            criticalThreshold := standardCriticalThreshold
            recommendation := .text ""
            validationSteps := [] } ∧
      ¬ AreBlank ("Refund".toList.takeWhile (· ≠ '=')) ∧
      ∃ subsystem : Subsystem Float, Subsystem.ofText "Refund" .primary = .ok subsystem := by
  have named : IsEntry '=' "pay, later" := by decide
  have entries : ∀ keyword ∈ ["Pay=1", "Refund"], IsEntry ',' keyword := by decide
  have items : Subsystem.KeywordItems ["Pay=1", "Refund"] ["", " Pay=1\t", "  ", "Refund"] := by
    refine .blank (by decide) ?_
    refine .keyword " " "Pay=1" "\t" (by decide) (by decide) ?_
    refine .blank (by decide) ?_
    exact .keyword "" "Refund" "" (by decide) (by decide) .nil
  have some : ¬ AreBlank ("Refund".toList.takeWhile (· ≠ '=')) := by decide
  obtain ⟨readBack, others⟩ := @designations_are_read_back Float _ .primary
  have read := readBack _ _ _ "\n" " " named entries (by decide) (by decide) items
  have written : "\n" ++ "pay, later" ++ " " ++ "=" ++
      ",".intercalate ["", " Pay=1\t", "  ", "Refund"] = "\npay, later =, Pay=1\t,  ,Refund" := by
    decide
  have glob : "**/*" ++ "pay, later" ++ "*" = "**/*pay, later*" := by decide
  rw [written, glob] at read
  obtain ⟨subsystem, designated, _⟩ := (others "Refund").2 some
  exact ⟨named, entries, items, read, some, subsystem, designated⟩

end Triage
