import Mathlib.Data.List.Induction
import Triage.Proofs.Path

/-!
# Spellings of a place

The way to a place can be spelled with segments that lead nowhere: an empty segment, a single dot,
a name and the double dot that takes it back, or a double dot at the root (`Path.ArriveAt`).  To
resolve a path is to leave all of them out, so a path resolves to a place exactly when it spells it
(`Path.arriveAt_iff`).

A text leads to a place when it is an absolute path whose segments spell the place
(`Path.LeadsTo`).  It is then shown from the project when the place lies inside
(`projectFile_of_leadsTo_below`), and whole when it lies elsewhere
(`projectFile_of_leadsTo_beside`).
-/

namespace Triage

set_option autoImplicit false

namespace Path

/-! ## Segments -/

/-- A segment that leads one place down: it is not empty and no dots. -/
def IsStep (segment : String) : Prop := segment ≠ "" ∧ segment ≠ "." ∧ segment ≠ ".."

instance (segment : String) : Decidable (IsStep segment) :=
  inferInstanceAs (Decidable (_ ∧ _ ∧ _))

theorem isName_eq_true_iff {segment : String} :
    isName segment = true ↔ segment ≠ "" ∧ segment ≠ "." := by
  simp [isName]

theorem isStep_iff {segment : String} :
    IsStep segment ↔ isName segment = true ∧ segment ≠ ".." := by
  rw [isName_eq_true_iff, and_assoc, IsStep]

/-- Segments that spell the way to a place, from the root on. -/
inductive ArriveAt : List String → Place → Prop where
  | direct {place : Place} (each : ∀ name ∈ place, IsStep name) : ArriveAt place place
  | idle {before after : List String} {place : Place} {segment : String}
      (nothing : segment = "" ∨ segment = ".") (spelled : ArriveAt (before ++ after) place) :
      ArriveAt (before ++ segment :: after) place
  | detour {before after : List String} {place : Place} {name : String} (step : IsStep name)
      (spelled : ArriveAt (before ++ after) place) :
      ArriveAt (before ++ name :: ".." :: after) place
  | atRoot {after : List String} {place : Place} (spelled : ArriveAt after place) :
      ArriveAt (".." :: after) place

/-! ## Following segments -/

/-- Without double dots, every name leads one place down. -/
theorem follow_of_steps {names : List String} (steps : ∀ name ∈ names, name ≠ "..")
    (place : Place) : follow place names = place ++ names := by
  induction names generalizing place with
  | nil => exact (List.append_nil place).symm
  | cons name rest ih =>
      obtain ⟨here, behind⟩ := List.forall_mem_cons.1 steps
      rw [follow, if_neg here, ih behind, List.append_assoc, List.singleton_append]

/-- A name and a double dot lead nowhere. -/
theorem follow_detour {name : String} (plain : name ≠ "..") (place : Place)
    (rest : List String) : follow place (name :: ".." :: rest) = follow place rest := by
  rw [follow, if_neg plain, follow, if_pos rfl, List.dropLast_concat]

/-- **What spells a place leads there.** -/
theorem ArriveAt.follow_eq {segments : List String} {place : Place}
    (spelled : ArriveAt segments place) : follow [] (segments.filter isName) = place := by
  induction spelled with
  | direct each =>
      have names := List.filter_eq_self.2 fun name member => (isStep_iff.1 (each name member)).1
      rw [names, follow_of_steps fun name member => (each name member).2.2, List.nil_append]
  | @idle before after place segment nothing _ ih =>
      have left : ¬ isName segment = true := by
        rcases nothing with rfl | rfl <;> decide
      rw [List.filter_append, List.filter_cons_of_neg left, ← List.filter_append]
      exact ih
  | @detour before after place name step _ ih =>
      rw [List.filter_append, List.filter_cons_of_pos (isStep_iff.1 step).1,
        List.filter_cons_of_pos (by decide), follow_append, follow_detour step.2.2,
        ← follow_append, ← List.filter_append]
      exact ih
  | atRoot _ ih =>
      rw [List.filter_cons_of_pos (by decide), follow, if_pos rfl]
      exact ih

/-- Segments that lead nowhere may stand anywhere. -/
theorem ArriveAt.of_filter {before segments : List String} {place : Place}
    (spelled : ArriveAt (before ++ segments.filter isName) place) :
    ArriveAt (before ++ segments) place := by
  induction segments generalizing before with
  | nil => exact spelled
  | cons segment rest ih =>
      by_cases named : isName segment = true
      · rw [List.filter_cons_of_pos named, List.append_cons] at spelled
        rw [List.append_cons]
        exact ih spelled
      · rw [List.filter_cons_of_neg named] at spelled
        refine .idle (Decidable.or_iff_not_imp_left.2 fun filled => ?_) (ih spelled)
        exact Decidable.of_not_not fun other => named (isName_eq_true_iff.2 ⟨filled, other⟩)

/-- Names that are followed from a place spell the place that they lead to. -/
theorem arriveAt_follow {place : Place} {names : List String}
    (steps : ∀ name ∈ place, IsStep name) (named : ∀ name ∈ names, isName name = true) :
    ArriveAt (place ++ names) (follow place names) := by
  induction names generalizing place with
  | nil =>
      rw [List.append_nil]
      exact .direct steps
  | cons name rest ih =>
      obtain ⟨here, behind⟩ := List.forall_mem_cons.1 named
      rw [follow]
      split
      · next dots =>
          subst dots
          have above := ih
            (fun name member => steps name ((List.dropLast_sublist place).subset member)) behind
          cases place using List.reverseRecOn with
          | nil => exact .atRoot above
          | append_singleton parent last =>
              rw [List.dropLast_concat] at above ⊢
              rw [List.append_assoc, List.singleton_append]
              exact .detour (steps last (by simp)) above
      · next plain =>
          rw [List.append_cons]
          refine ih (fun other member => ?_) behind
          rcases List.mem_append.1 member with above | last
          · exact steps other above
          · rw [List.mem_singleton.1 last]
            exact isStep_iff.2 ⟨here, plain⟩

/-- **Segments spell a place exactly when they resolve to it.** -/
theorem arriveAt_iff {segments : List String} {place : Place} :
    ArriveAt segments place ↔ follow [] (segments.filter isName) = place := by
  refine ⟨ArriveAt.follow_eq, fun led => ?_⟩
  subst led
  have named : ∀ name ∈ segments.filter isName, isName name = true :=
    fun name member => (List.mem_filter.1 member).2
  have spelled : ArriveAt ([] ++ segments.filter isName) (follow [] (segments.filter isName)) :=
    arriveAt_follow nofun named
  exact spelled.of_filter

instance (segments : List String) (place : Place) : Decidable (ArriveAt segments place) :=
  decidable_of_iff _ arriveAt_iff.symm

/-! ## Texts that lead to a place -/

theorem isAbsolute_parse_iff {text : String} :
    (parse text).isAbsolute = true ↔ text.toList.head? = some '/' := by
  have lead : leadOf text.toList ≠ 0 ↔ text.toList.head? = some '/' := by
    unfold leadOf
    split <;> simp_all [List.head?_eq_some_iff]
  rw [isAbsolute, decide_eq_true_eq]
  exact lead

/-- A text is an absolute path to a place.  A path with a character that no file name has leads
nowhere. -/
structure LeadsTo (text : String) (place : Place) : Prop where
  absolute : text.toList.head? = some '/'
  nameable : '\x00' ∉ text.toList
  spelled : ArriveAt (Text.cut '/' text) place

instance (text : String) (place : Place) : Decidable (LeadsTo text place) :=
  decidable_of_iff
    (text.toList.head? = some '/' ∧ '\x00' ∉ text.toList ∧ ArriveAt (Text.cut '/' text) place)
    ⟨fun ⟨absolute, nameable, spelled⟩ => ⟨absolute, nameable, spelled⟩,
      fun ⟨absolute, nameable, spelled⟩ => ⟨absolute, nameable, spelled⟩⟩

namespace LeadsTo

variable {text : String} {place : Place} (leads : LeadsTo text place)
include leads

theorem isAbsolute_parse : (parse text).isAbsolute = true := isAbsolute_parse_iff.2 leads.absolute

theorem hasNul_parse : (parse text).hasNul = false := by
  refine List.any_eq_false.2 fun name member nul => leads.nameable ?_
  exact (mem_of_mem_cut (List.mem_filter.1 member).1 (List.contains_iff_mem.1 nul)).1

theorem resolve_parse : (parse text).resolve [] = place := by
  rw [resolve, ite_self]
  exact leads.spelled.follow_eq

/-- What is left of an absolute path after reading it is an absolute path to the same place. -/
theorem text_parse : LeadsTo (parse text).text place where
  absolute := by
    rw [← isAbsolute_parse_iff, parse_text (isParsed_parse text)]
    exact leads.isAbsolute_parse
  nameable := by
    intro nul
    rcases mem_toList_text nul with dot | slash | ⟨name, member, inside⟩
    · exact absurd dot (by decide)
    · exact absurd slash (by decide)
    · exact leads.nameable (mem_of_mem_cut (List.mem_filter.1 member).1 inside).1
  spelled := by
    have names : (parse (parse text).text).names = (parse text).names := by
      rw [parse_text (isParsed_parse text)]
    rw [arriveAt_iff]
    exact (congrArg (follow []) names).trans leads.spelled.follow_eq

end LeadsTo

/-! ## Relative paths -/

/-- A relative path of steps, written with slashes. -/
structure IsPlain (text : String) : Prop where
  steps : ∀ segment ∈ Text.cut '/' text, IsStep segment
  slashes : '\\' ∉ text.toList

instance (text : String) : Decidable (IsPlain text) :=
  decidable_of_iff ((∀ segment ∈ Text.cut '/' text, IsStep segment) ∧ '\\' ∉ text.toList)
    ⟨fun ⟨steps, slashes⟩ => ⟨steps, slashes⟩, fun ⟨steps, slashes⟩ => ⟨steps, slashes⟩⟩

/-- The segments of a text with slashes in between are the text. -/
theorem joined_cut (text : String) : joined (Text.cut '/' text) = text := by
  rw [← String.toList_inj, toList_joined, Text.cut, List.map_map]
  have pieces : (Text.cutAt '/' text.toList).map (String.toList ∘ String.ofList) =
      Text.cutAt '/' text.toList :=
    (List.map_congr_left fun piece _ => String.toList_ofList).trans (List.map_id _)
  rw [pieces, Text.cutAt_eq_splitOn, List.intercalate_splitOn]

/-- The text of a relative path with these segments. -/
theorem text_cut (text : String) : Path.text ⟨0, Text.cut '/' text⟩ = text := by
  have some : ¬ (0 = 0 ∧ Text.cut '/' text = []) := fun none =>
    Text.cutAt_ne_nil '/' text.toList (List.map_eq_nil_iff.1 none.2)
  rw [Path.text, if_neg some, joined_cut, List.replicate_zero, String.ofList_nil,
    String.empty_append]

namespace IsPlain

variable {text : String} (plain : IsPlain text)
include plain

theorem ne_empty : text ≠ "" := by
  rintro rfl
  exact (plain.steps "" (by decide)).1 rfl

theorem isAbsolute_parse : (parse text).isAbsolute = false := by
  rw [← Bool.not_eq_true, isAbsolute_parse_iff]
  intro slash
  obtain ⟨rest, chars⟩ := List.head?_eq_some_iff.1 slash
  refine (plain.steps "" ?_).1 rfl
  rw [Text.cut, chars, Text.cutAt, if_pos rfl]
  exact List.mem_cons_self

end IsPlain

/-- The names of a place below another one. -/
theorem namesBelow?_append (place names : Place) :
    (ofPlace (place ++ names)).namesBelow? (ofPlace place) = some names := by
  simp [namesBelow?, ofPlace]

/-- A place that does not begin with another one is not below it. -/
theorem namesBelow?_of_not_prefix {place base : Place} (apart : ¬ base <+: place) :
    (ofPlace place).namesBelow? (ofPlace base) = none := by
  rw [namesBelow?, if_neg]
  intro below
  exact apart (List.isPrefixOf_iff_prefix.1 (Bool.and_eq_true_iff.1 below).2)

end Path

open Triage.Path

/-! ## The files of reports -/

section

variable {root : Place} {written relative : String} {place : Place}

/-- A plain relative path is shown as it is. -/
theorem projectFile_of_isPlain (root : Place) (plain : IsPlain relative) :
    projectFile root relative = relative :=
  projectFile_of_relative plain.isAbsolute_parse plain.slashes

/-- **A path into the project is shown from there**, however it is spelled. -/
theorem projectFile_of_leadsTo_below
    (leads : LeadsTo written (root ++ Text.cut '/' relative)) :
    projectFile root written = relative := by
  have below : (ofPlace ((parse written).resolve [])).namesBelow? (ofPlace root) =
      some (Text.cut '/' relative) := by
    rw [leads.resolve_parse, namesBelow?_append]
  rw [projectFile_of_inside leads.isAbsolute_parse leads.hasNul_parse below, text_cut]

/-- A path that leads elsewhere is shown whole. -/
theorem projectFile_of_leadsTo_beside (leads : LeadsTo written place)
    (outside : ¬ root <+: place) : projectFile root written = (parse written).text := by
  refine projectFile_of_outside leads.isAbsolute_parse (.inr ?_)
  rw [leads.resolve_parse, namesBelow?_of_not_prefix outside]

end

end Triage
