import Mathlib.Data.String.Basic
import Triage.Proofs.Path
import Triage.Proofs.Text.Trimming

/-!
# What the names of a place say

The suffix of a name starts at its last dot, unless nothing stands in front of that dot or
behind it (`Path.suffix_eq_iff`), so a name that starts with its only dot has none.  A name
that is left out may be written with slashes behind it (`Path.Spells`): such an entry is
stripped of them before it is compared with the single names of a path, and so it is equal to
a name only if it spells that name (`Path.stripped_eq_iff`).  An entry that spells a path of
several names spells none of them (`Path.spelled_eq`).  Places are ordered name by name
(`Path.placeLe_iff`).
-/

namespace Triage.Path

set_option autoImplicit false

/-! ## Suffixes -/

/-- A name has a suffix, given without its dot: behind the last dot, with something in front of
that dot. -/
def IsSuffixed (name ending : List Char) : Prop :=
  ending ≠ [] ∧ '.' ∉ ending ∧ ∃ stem, stem ≠ [] ∧ name = stem ++ '.' :: ending

/-- The last suffix of a name with its dot, empty if the name has none. -/
def IsLastSuffix (name extension : String) : Prop :=
  (∃ ending, IsSuffixed name.toList ending ∧ extension = String.ofList ('.' :: ending)) ∨
    extension = "" ∧ ∀ ending, ¬ IsSuffixed name.toList ending

/-- Behind the last dot, no dot is found. -/
theorem length_takeWhile_reverse {stem ending : List Char} (last : '.' ∉ ending) :
    ((stem ++ '.' :: ending).reverse.takeWhile (· ≠ '.')).length = ending.length := by
  have dotless : ∀ c ∈ ending.reverse, decide (c ≠ '.') = true := by
    intro c member
    refine decide_eq_true ?_
    rintro rfl
    exact last (List.mem_reverse.1 member)
  rw [List.reverse_append, List.reverse_cons, List.append_assoc,
    List.takeWhile_append_of_pos dotless]
  simp

/-- **A suffix starts at the last dot**, if something stands on both sides of it. -/
theorem suffixStart?_append {stem ending : List Char} (last : '.' ∉ ending) :
    suffixStart? (stem ++ '.' :: ending) =
      if stem ≠ [] ∧ ending ≠ [] then some stem.length else none := by
  have size : (stem ++ '.' :: ending).length = stem.length + 1 + ending.length := by
    rw [List.length_append, List.length_cons]
    omega
  have start : stem.length + 1 + ending.length - 1 - ending.length = stem.length := by omega
  have inside : ending.length < stem.length + 1 + ending.length := by omega
  simp only [suffixStart?, length_takeWhile_reverse last, size, start, inside, decide_true,
    Bool.true_and, Bool.and_eq_true, decide_eq_true_eq, List.length_pos_iff, ne_eq,
    List.length_eq_zero_iff]

theorem suffixStart?_of_not_mem {name : List Char} (dotless : '.' ∉ name) :
    suffixStart? name = none := by
  have all : name.reverse.takeWhile (· ≠ '.') = name.reverse := by
    refine List.takeWhile_eq_self_iff.2 fun c member => decide_eq_true ?_
    rintro rfl
    exact dotless (List.mem_reverse.1 member)
  simp only [suffixStart?, all, List.length_reverse, lt_irrefl, decide_false, Bool.false_and,
    Bool.false_eq_true, if_false]

/-- A name with a dot is cut at its last one. -/
theorem exists_last_dot {name : List Char} (dotted : '.' ∈ name) :
    ∃ stem ending, name = stem ++ '.' :: ending ∧ '.' ∉ ending := by
  obtain ⟨behind, before, same, free⟩ := List.eq_append_cons_of_mem (List.mem_reverse.2 dotted)
  refine ⟨before.reverse, behind.reverse, ?_, fun member => free (List.mem_reverse.1 member)⟩
  rw [← List.reverse_reverse name, same]
  simp

/-- A name has at most one suffix. -/
theorem isSuffixed_append_iff {stem ending other : List Char} (last : '.' ∉ ending) :
    IsSuffixed (stem ++ '.' :: ending) other ↔ (stem ≠ [] ∧ ending ≠ []) ∧ other = ending := by
  constructor
  · rintro ⟨some, free, before, front, same⟩
    have size : ending.length = other.length := by
      rw [← length_takeWhile_reverse last, same, length_takeWhile_reverse free]
    obtain ⟨rfl, behind⟩ := List.append_inj' same (by simp [size])
    obtain rfl := List.tail_eq_of_cons_eq behind
    exact ⟨⟨front, some⟩, rfl⟩
  · rintro ⟨⟨front, some⟩, rfl⟩
    exact ⟨some, last, stem, front, rfl⟩

/-- **The suffix that is read off a name** is its last one. -/
theorem suffix_eq_iff {name extension : String} :
    suffix name = extension ↔ IsLastSuffix name extension := by
  unfold suffix IsLastSuffix
  by_cases dotted : '.' ∈ name.toList
  · obtain ⟨stem, ending, cut, last⟩ := exists_last_dot dotted
    rw [cut, suffixStart?_append last]
    simp only [isSuffixed_append_iff last]
    by_cases sided : stem ≠ [] ∧ ending ≠ []
    · simp [sided, eq_comm]
    · simp [sided, eq_comm]
  · have none : ∀ ending, ¬ IsSuffixed name.toList ending := by
      rintro ending ⟨_, _, stem, _, same⟩
      exact dotted (by simp [same])
    rw [suffixStart?_of_not_mem dotted]
    simp [none, eq_comm]

instance (name extension : String) : Decidable (IsLastSuffix name extension) :=
  decidable_of_iff _ suffix_eq_iff

/-! ## Names that are left out -/

/-- A text is another one, with slashes behind it or without. -/
def Spells (entry text : String) : Prop :=
  ∃ count, entry.toList = text.toList ++ List.replicate count '/'

instance (entry text : String) : Decidable (Spells entry text) :=
  decidable_of_iff
    (entry.toList =
      text.toList ++ List.replicate (entry.toList.length - text.toList.length) '/')
    ⟨fun same => ⟨_, same⟩, fun ⟨count, same⟩ => by simp [same]⟩

/-- **An entry without the slashes at its end** is the text that it spells. -/
theorem stripped_eq_iff {entry text : String} (ends : text.toList.getLast? ≠ some '/') :
    String.ofList (Text.dropEndWhile (· = '/') entry.toList) = text ↔ Spells entry text := by
  rw [← String.toList_inj, String.toList_ofList, Text.dropEndWhile_eq_iff]
  constructor
  · rintro ⟨⟨behind, slashes, same⟩, _⟩
    refine ⟨behind.length, ?_⟩
    rw [same, ← List.eq_replicate_of_mem fun c member => of_decide_eq_true (slashes c member)]
  · rintro ⟨count, same⟩
    refine ⟨⟨_, fun c member => decide_eq_true (List.eq_of_mem_replicate member), same⟩, ?_⟩
    rintro c last
    refine decide_eq_false ?_
    rintro rfl
    exact ends last

/-- The text of names ends like the last of them. -/
theorem getLast?_joined {names : List String}
    (each : ∀ name ∈ names, isName name = true ∧ '/' ∉ name.toList) :
    (joined names).toList.getLast? ≠ some '/' := by
  induction names with
  | nil => decide
  | cons name rest ih =>
      cases rest with
      | nil =>
          intro slash
          have last : name.toList.getLast? = some '/' := by simpa [toList_joined] using slash
          exact (each name List.mem_cons_self).2 (List.mem_of_getLast? last)
      | cons next others =>
          have behind := fun other member => each other (List.mem_cons_of_mem name member)
          have split : (joined (name :: next :: others)).toList =
              name.toList ++ ['/'] ++ (joined (next :: others)).toList := by
            simp only [toList_joined, List.map_cons, List.intercalate_cons_cons]
          rw [split, List.getLast?_append]
          cases last : (joined (next :: others)).toList.getLast? with
          | some c =>
              rw [Option.some_or, ← last]
              exact ih behind
          | none =>
              -- Something stands behind the slash, since names are not empty.
              have empty : joined (next :: others) = "" :=
                String.toList_eq_nil_iff.1 (List.getLast?_eq_none_iff.1 last)
              have read := cut_joined behind
              rw [empty] at read
              cases read

/-- **An entry that spells a path** spells no single name but that of the path itself. -/
theorem spelled_eq {entry name : String} {names : List String}
    (each : ∀ name ∈ names, isName name = true ∧ '/' ∉ name.toList)
    (named : isName name = true ∧ '/' ∉ name.toList) (path : Spells entry (joined names))
    (single : Spells entry name) : names = [name] := by
  have alone : ∀ other ∈ [name], isName other = true ∧ '/' ∉ other.toList := by
    simpa using named
  have itself : joined [name] = name := String.intercalate_singleton
  have same : joined names = joined [name] := by
    rw [← (stripped_eq_iff (getLast?_joined each)).2 path, itself,
      (stripped_eq_iff fun last => named.2 (List.mem_of_getLast? last)).2 single]
  rw [← cut_joined each, same, cut_joined alone]

/-! ## The order of places -/

/-- **Places are ordered name by name**, and a place stands before those inside it. -/
theorem placeLe_iff {first second : Place} : placeLe first second = true ↔ first ≤ second := by
  rw [← not_lt]
  induction first generalizing second with
  | nil => exact iff_of_true rfl (List.not_lt_nil second)
  | cons name rest ih =>
      cases second with
      | nil => exact iff_of_false Bool.false_ne_true (not_not_intro (List.nil_lt_cons name rest))
      | cons other more =>
          rw [placeLe, List.cons_lt_cons_iff, Bool.or_eq_true, Bool.and_eq_true,
            decide_eq_true_iff, decide_eq_true_iff, ih]
          rcases lt_trichotomy name other with before | rfl | behind
          · simp [before, before.not_gt, before.ne']
          · simp
          · simp [behind, behind.not_gt, behind.ne']

end Triage.Path
