import Triage.Proofs.Fix.Coverage
import Triage.Proofs.Table

/-!
# The record of an impact

The record of a domain impact holds the flags of the subsystems twice: all of them in one table
under a key of their own, and each under a key that is made of the letters and digits of its name.
All these keys share one record, and an entry overwrites what stood under its key before
(`findIn_fields`).

Names that differ may lose what tells them apart on the way to their keys.  So the record keeps
every flag exactly when every name has a letter or a digit, and names with the same key have the
same flag (`impactRecord_keeps_flags_iff`).  A name without any takes the key of the whole table
(`impactRecord_of_unlettered_name`).
-/

namespace Triage

set_option autoImplicit false

variable {Number : Type}

/-! ## Keys that are made of names -/

/-- Nothing is left of a name that has no letters and digits. -/
theorem Subsystem.attributeFrom_eq_nil_iff (inRun : Bool) (chars : List Char) :
    attributeFrom inRun chars = [] ↔ ∀ c ∈ chars, isAttributeChar c = false := by
  induction chars generalizing inRun with
  | nil => simp [attributeFrom]
  | cons c rest ih =>
      rw [attributeFrom, List.forall_mem_cons]
      by_cases kept : isAttributeChar c
      · simp [kept]
      · simp [kept, ih]

/-- The name of a subsystem has an ASCII letter or digit. -/
def Subsystem.IsLettered (subsystem : Subsystem Number) : Prop :=
  ∃ c ∈ subsystem.title.toList, isAttributeChar c

-- Only the characters of the name are looked at, not all there are.
instance (subsystem : Subsystem Number) : Decidable subsystem.IsLettered :=
  decidable_of_iff (subsystem.title.toList.any Subsystem.isAttributeChar) List.any_eq_true

theorem Subsystem.attributeName_eq_empty_iff (subsystem : Subsystem Number) :
    subsystem.attributeName = "" ↔ ¬ subsystem.IsLettered := by
  rw [attributeName, attributeNameOf, ← String.toList_inj, String.toList_ofList,
    String.toList_empty, attributeFrom_eq_nil_iff, IsLettered]
  simp

theorem flagKey_inj {first second : String} : flagKey first = flagKey second ↔ first = second := by
  rw [flagKey, flagKey, ← String.toList_inj, String.toList_append, String.toList_append,
    List.append_cancel_left_eq, String.toList_inj]

/-- The key of a name from which nothing is left is that of the whole table. -/
theorem flagKey_eq_affects_iff {form : String} : flagKey form = "affects" ↔ form = "" :=
  @flagKey_inj form ""

theorem flagKey_ne_impactLevel (form : String) : flagKey form ≠ "impact_level" := by
  rw [flagKey, Ne, ← String.toList_inj, String.toList_append]
  simp

theorem flagKey_ne_mitigationSteps (form : String) : flagKey form ≠ "mitigation_steps" := by
  rw [flagKey, Ne, ← String.toList_inj, String.toList_append]
  simp

/-! ## What stands under a key -/

/-- The flag of a subsystem: whether the diagnostic concerns it. -/
def Subsystem.flag (subsystem : Subsystem Number) (diagnostic : Diagnostic) : Bool :=
  subsystem.concernedBy diagnostic.message diagnostic.file

/-- The whole table of an impact: the flag of every subsystem under its name. -/
def flagTable (subsystems : List (Subsystem Number)) (diagnostic : Diagnostic) : Value :=
  .table (subsystems.map fun subsystem => (subsystem.title, .bool (subsystem.flag diagnostic)))

/-- The entries of the record of an impact in the order in which they are written. -/
def impactEntries (subsystems : List (Subsystem Number)) (diagnostic : Diagnostic) :
    List (String × Value) :=
  ("affects", flagTable subsystems diagnostic) ::
    (subsystems.map fun subsystem =>
      (flagKey subsystem.attributeName, .bool (subsystem.flag diagnostic))) ++
    [("impact_level", .text (impactLevel subsystems diagnostic).word),
      ("mitigation_steps", textList (analyzeDomainImpact subsystems diagnostic).mitigationSteps)]

/-- What the record of an impact holds under a key.  The level and the steps are written last, and
before them the flags, so that a flag hides one before it and also the whole table. -/
def impactEntry (subsystems : List (Subsystem Number)) (diagnostic : Diagnostic) (key : String) :
    Option Value :=
  if key = "mitigation_steps" then
    some (textList (analyzeDomainImpact subsystems diagnostic).mitigationSteps)
  else if key = "impact_level" then some (.text (impactLevel subsystems diagnostic).word)
  else
    match subsystems.findRev? fun subsystem => flagKey subsystem.attributeName == key with
    | some subsystem => some (.bool (subsystem.flag diagnostic))
    | none => if key = "affects" then some (flagTable subsystems diagnostic) else none

section Record

variable {subsystems : List (Subsystem Number)} {diagnostic : Diagnostic}

/-- The form of a name depends on the name alone. -/
theorem find?_attributeNames {subsystem : Subsystem Number} (listed : subsystem ∈ subsystems) :
    (analyzeDomainImpact subsystems diagnostic).attributeNames.find? subsystem.title =
      some subsystem.attributeName := by
  refine (OrderedMap.find?_ofList Subsystem.title Subsystem.attributeName subsystems
    subsystem.title).trans ?_
  obtain ⟨last, _, same, found⟩ := OrderedMap.exists_findRev?_of_mem Subsystem.title listed
  rw [found, Option.map_some, Subsystem.attributeName, eq_of_beq same]
  rfl

/-- Where the names differ, the impact has the flag of every subsystem under its name. -/
theorem bindings_affects (distinct : (subsystems.map Subsystem.title).Nodup) :
    (analyzeDomainImpact subsystems diagnostic).affects.bindings = subsystems.map fun subsystem =>
      (subsystem.title, subsystem.flag diagnostic) := by
  refine OrderedMap.bindings_ofList_of_apart (List.pairwise_map.2 ?_)
  exact (List.pairwise_map.1 distinct).imp fun differ => beq_eq_false_iff_ne.2 differ

/-- Where the names differ, the record is filled with these entries. -/
theorem fields_eq (distinct : (subsystems.map Subsystem.title).Nodup) :
    (analyzeDomainImpact subsystems diagnostic).fields =
      (OrderedMap.ofList (impactEntries subsystems diagnostic)).bindings := by
  have table : (analyzeDomainImpact subsystems diagnostic).affects.bindings.map (fun entry =>
      (entry.1, Value.bool entry.2)) = subsystems.map fun subsystem =>
        (subsystem.title, .bool (subsystem.flag diagnostic)) := by
    rw [bindings_affects distinct, List.map_map]
    rfl
  have flags : (analyzeDomainImpact subsystems diagnostic).affects.bindings.map (fun entry =>
      (flagKey (((analyzeDomainImpact subsystems diagnostic).attributeNames.find?
        entry.1).getD entry.1), Value.bool entry.2)) = subsystems.map fun subsystem =>
          (flagKey subsystem.attributeName, .bool (subsystem.flag diagnostic)) := by
    rw [bindings_affects distinct, List.map_map]
    refine List.map_congr_left fun subsystem listed => ?_
    rw [Function.comp_apply, find?_attributeNames listed, Option.getD_some]
  rw [DomainImpactAnalysis.fields, table, flags]
  rfl

/-- **What the record of an impact holds under a key** is what was written there last. -/
theorem findIn_fields (distinct : (subsystems.map Subsystem.title).Nodup) (key : String) :
    OrderedMap.findIn key (analyzeDomainImpact subsystems diagnostic).fields =
      impactEntry subsystems diagnostic key := by
  have looked : (OrderedMap.ofList (impactEntries subsystems diagnostic)).find? key =
      ((impactEntries subsystems diagnostic).findRev?
        fun entry => entry.1 == key).map Prod.snd := by
    rw [← OrderedMap.find?_ofList Prod.fst Prod.snd]
    exact congrArg (fun entries => (OrderedMap.ofList entries).find? key) (List.map_id _).symm
  have reversed : (impactEntries subsystems diagnostic).reverse =
      ("mitigation_steps", textList (analyzeDomainImpact subsystems diagnostic).mitigationSteps) ::
      ("impact_level", .text (impactLevel subsystems diagnostic).word) ::
      (subsystems.reverse.map fun subsystem =>
        (flagKey subsystem.attributeName, .bool (subsystem.flag diagnostic))) ++
      [("affects", flagTable subsystems diagnostic)] := by
    simp [impactEntries]
  rw [fields_eq distinct, ← OrderedMap.find?, looked, List.findRev?_eq_find?_reverse,
    reversed, impactEntry, List.findRev?_eq_find?_reverse]
  by_cases steps : key = "mitigation_steps"
  · simp [steps]
  · by_cases level : key = "impact_level"
    · simp [level]
    · have others : ("mitigation_steps" == key) = false ∧ ("impact_level" == key) = false :=
        ⟨beq_eq_false_iff_ne.2 (Ne.symm steps), beq_eq_false_iff_ne.2 (Ne.symm level)⟩
      rw [if_neg steps, if_neg level, List.cons_append, List.cons_append,
        List.find?_cons, others.1, List.find?_cons, others.2, List.find?_append, List.find?_map,
        Function.comp_def]
      cases subsystems.reverse.find? (fun subsystem => flagKey subsystem.attributeName == key) with
      | some subsystem => rfl
      | none =>
          by_cases whole : key = "affects"
          · simp [whole]
          · simp [whole, Ne.symm whole]

/-- The record of an impact keeps the whole table of the flags, and every flag under the key of
its own. -/
structure KeepsFlags (subsystems : List (Subsystem Number)) (diagnostic : Diagnostic) : Prop where
  whole : OrderedMap.findIn "affects" (analyzeDomainImpact subsystems diagnostic).fields =
    some (flagTable subsystems diagnostic)
  each : ∀ subsystem ∈ subsystems,
    OrderedMap.findIn (flagKey subsystem.attributeName)
        (analyzeDomainImpact subsystems diagnostic).fields =
      some (.bool (subsystem.flag diagnostic))

/-- Under the key of a subsystem stands the flag of the last subsystem with that key. -/
theorem exists_findIn_flagKey (distinct : (subsystems.map Subsystem.title).Nodup)
    {subsystem : Subsystem Number} (listed : subsystem ∈ subsystems) :
    ∃ last ∈ subsystems, last.attributeName = subsystem.attributeName ∧
      OrderedMap.findIn (flagKey subsystem.attributeName)
          (analyzeDomainImpact subsystems diagnostic).fields =
        some (.bool (last.flag diagnostic)) := by
  obtain ⟨last, member, same, found⟩ := OrderedMap.exists_findRev?_of_mem
    (fun other => flagKey other.attributeName) listed
  refine ⟨last, member, flagKey_inj.1 (eq_of_beq same), ?_⟩
  rw [findIn_fields distinct, impactEntry, if_neg (flagKey_ne_mitigationSteps _),
    if_neg (flagKey_ne_impactLevel _), found]

/-- The whole table is kept when no subsystem takes its key. -/
theorem findIn_affects (distinct : (subsystems.map Subsystem.title).Nodup)
    (lettered : ∀ subsystem ∈ subsystems, subsystem.IsLettered) :
    OrderedMap.findIn "affects" (analyzeDomainImpact subsystems diagnostic).fields =
      some (flagTable subsystems diagnostic) := by
  have untaken : subsystems.findRev? (fun subsystem =>
      flagKey subsystem.attributeName == "affects") = none := by
    rw [List.findRev?_eq_find?_reverse, List.find?_eq_none]
    intro subsystem member taken
    have empty := flagKey_eq_affects_iff.1 (eq_of_beq taken)
    exact subsystem.attributeName_eq_empty_iff.1 empty (lettered _ (List.mem_reverse.1 member))
  rw [findIn_fields distinct, impactEntry, untaken]
  simp

/-- **Which flags are kept**: all of them exactly when every name has a letter or a digit, and
subsystems whose names have the same key have the same flag. -/
theorem keepsFlags_iff (distinct : (subsystems.map Subsystem.title).Nodup) :
    KeepsFlags subsystems diagnostic ↔
      (∀ subsystem ∈ subsystems, subsystem.IsLettered) ∧
        ∀ first ∈ subsystems, ∀ second ∈ subsystems,
          first.attributeName = second.attributeName →
            first.flag diagnostic =
              second.flag diagnostic := by
  constructor
  · intro kept
    refine ⟨fun subsystem listed => ?_, fun first listed second member same => ?_⟩
    · by_contra unlettered
      -- The flag would stand where the whole table stands.
      have flag := kept.each subsystem listed
      rw [subsystem.attributeName_eq_empty_iff.2 unlettered, flagKey_eq_affects_iff.2 rfl,
        kept.whole] at flag
      cases flag
    · have left := kept.each first listed
      rw [same, kept.each second member] at left
      exact (Value.bool.inj (Option.some.inj left)).symm
  · rintro ⟨lettered, agree⟩
    refine ⟨findIn_affects distinct lettered, fun subsystem listed => ?_⟩
    obtain ⟨last, member, same, found⟩ := exists_findIn_flagKey distinct listed
    rw [found, agree last member subsystem listed same]

/-- Names that are texts are told apart by what is shown of them. -/
theorem nodup_titles (textual : ∀ subsystem ∈ subsystems, subsystem.Textual)
    (distinct : (subsystems.map Subsystem.name).Nodup) :
    (subsystems.map Subsystem.title).Nodup := by
  have told : subsystems.map Subsystem.name =
      (subsystems.map Subsystem.title).map Value.text := by
    rw [List.map_map]
    refine List.map_congr_left fun subsystem listed => ?_
    obtain ⟨content, named⟩ := (textual subsystem listed).name
    rw [Function.comp_apply, Subsystem.title, named]
    rfl
  rw [told] at distinct
  exact distinct.of_map _

end Record

/-- **The record of an impact** can be made for texts, holds what was written last under each key,
and keeps every flag exactly when every name has a letter or a digit and names with the same key
have the same flag. -/
theorem impactRecord_keeps_flags_iff {subsystems : List (Subsystem Number)}
    {diagnostic : Diagnostic} (textual : ∀ subsystem ∈ subsystems, subsystem.Textual)
    (distinct : (subsystems.map Subsystem.name).Nodup) (given : diagnostic.Textual) :
    checkImpact subsystems diagnostic = .ok () ∧
      (∀ key, OrderedMap.findIn key (analyzeDomainImpact subsystems diagnostic).fields =
        impactEntry subsystems diagnostic key) ∧
      (KeepsFlags subsystems diagnostic ↔
        (∀ subsystem ∈ subsystems, subsystem.IsLettered) ∧
          ∀ first ∈ subsystems, ∀ second ∈ subsystems,
            first.attributeName = second.attributeName →
              first.flag diagnostic =
                second.flag diagnostic) :=
  ⟨checkImpact_of_textual textual given, findIn_fields (nodup_titles textual distinct),
    keepsFlags_iff (nodup_titles textual distinct)⟩

/-- A subsystem with a name and one keyword. -/
def namedSubsystem (name keyword : String) : Subsystem Nat :=
  { paymentSubsystem with name := .text name, keywords := [.text keyword] }

theorem textual_namedSubsystem (name keyword : String) :
    (namedSubsystem name keyword).Textual :=
  ⟨Value.isText_text _, @isText_of_mem_textValues [keyword], textual_paymentSubsystem.globs⟩

/-- A diagnostic of payments. -/
def paymentFinding : Diagnostic :=
  { code := .int 2304, message := .text "Payment of type any", file := .text "src/a.ts"
    line := .int 1, column := .int 2, severity := .error, category := .typing }

theorem impactRecord_keeps_flags_of_payments :
    KeepsFlags [namedSubsystem "payments" "Payment", namedSubsystem "order history" "Order"]
      paymentFinding := by
  have textual : ∀ subsystem ∈ [namedSubsystem "payments" "Payment",
      namedSubsystem "order history" "Order"], subsystem.Textual := by
    intro subsystem member
    simp only [List.mem_cons, List.not_mem_nil, or_false] at member
    obtain rfl | rfl := member <;> exact textual_namedSubsystem _ _
  have given : paymentFinding.Textual := ⟨Value.isText_text _, Value.isText_text _⟩
  have lettered : ∀ subsystem ∈ [namedSubsystem "payments" "Payment",
      namedSubsystem "order history" "Order"], subsystem.IsLettered := by decide +kernel
  have apart : (namedSubsystem "payments" "Payment").attributeName ≠
      (namedSubsystem "order history" "Order").attributeName := by decide +kernel
  have record := impactRecord_keeps_flags_iff textual (by simp [namedSubsystem]) given
  refine record.2.2.2 ⟨lettered, fun first listed second member same => ?_⟩
  simp only [List.mem_cons, List.not_mem_nil, or_false] at listed member
  obtain rfl | rfl := listed <;> obtain rfl | rfl := member
  · rfl
  · exact absurd same apart
  · exact absurd same.symm apart
  · rfl

/-- **A name without letters and digits takes the key of the whole table.** -/
theorem impactRecord_of_unlettered_name :
    (namedSubsystem "日本" "Payment").Textual ∧ paymentFinding.Textual ∧
      OrderedMap.findIn "affects" (analyzeDomainImpact [namedSubsystem "日本" "Payment"]
        paymentFinding).fields = some (.bool true) ∧
      ¬ KeepsFlags [namedSubsystem "日本" "Payment"] paymentFinding := by
  have distinct : ([namedSubsystem "日本" "Payment"].map Subsystem.title).Nodup :=
    List.nodup_singleton _
  have unlettered : ¬ (namedSubsystem "日本" "Payment").IsLettered := by decide +kernel
  have concerned : (namedSubsystem "日本" "Payment").flag paymentFinding = true := by
    decide +kernel
  obtain ⟨last, member, _, held⟩ :=
    @exists_findIn_flagKey _ _ paymentFinding distinct _ List.mem_cons_self
  obtain rfl := List.mem_singleton.1 member
  rw [concerned, Subsystem.attributeName_eq_empty_iff _ |>.2 unlettered] at held
  refine ⟨textual_namedSubsystem _ _, ⟨Value.isText_text _, Value.isText_text _⟩, held, ?_⟩
  intro kept
  exact unlettered (((keepsFlags_iff distinct).1 kept).1 _ List.mem_cons_self)

end Triage
