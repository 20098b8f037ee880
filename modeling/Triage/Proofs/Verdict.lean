import Mathlib.Data.List.Forall2
import Triage.Verdict

/-!
# Computations that may fail

What is left of a computation that may fail once it is known to have succeeded: the
values of its steps (`bind_eq_ok`), and the images of the items of a list one by one
(`mapM_eq_ok_iff`).

Two properties say in advance how a computation ends.  A computation is `Decided` when it
succeeds, and it avoids faults of a kind when it does not fail by one of them (`Avoids`).  In
particular it spares records when it does not fail because of a record (`SparesRecords`); a record
that cannot be converted is passed over, while every other failure ends the collection, so it
matters which of the two a test may cause.
-/

namespace Triage

set_option autoImplicit false

variable {First Second Item Result : Type}

theorem bind_eq_ok {Fault : Type} {first : Except Fault First}
    {next : First → Except Fault Second} {result : Second} :
    (first >>= next) = .ok result ↔ ∃ value, first = .ok value ∧ next value = .ok result := by
  cases first <;> simp [bind, Except.bind]

/-- A computation whose value is put to a test, and passes it, has succeeded. -/
theorem exists_of_any_toOption {attempt : Except Failure Result} {test : Result → Bool}
    (passed : attempt.toOption.any test = true) :
    ∃ value, attempt = .ok value ∧ test value = true := by
  cases attempt with
  | error failure => cases passed
  | ok value => exact ⟨value, rfl, passed⟩

/-- The images of a list are found one by one. -/
theorem mapM_eq_ok_iff {convert : Item → Except Failure Result} {items : List Item}
    {results : List Result} :
    items.mapM convert = .ok results ↔
      List.Forall₂ (fun item result => convert item = .ok result) items results := by
  induction items generalizing results with
  | nil =>
      rw [List.mapM_nil, List.forall₂_nil_left_iff]
      exact ⟨fun same => (Except.ok.inj same).symm, fun same => congrArg _ same.symm⟩
  | cons item rest ih =>
      rw [List.mapM_cons, bind_eq_ok, List.forall₂_cons_left_iff]
      constructor
      · rintro ⟨image, here, behind⟩
        obtain ⟨images, below, same⟩ := bind_eq_ok.1 behind
        exact ⟨image, images, here, ih.1 below, (Except.ok.inj same).symm⟩
      · rintro ⟨image, images, here, below, rfl⟩
        exact ⟨image, here, bind_eq_ok.2 ⟨images, ih.2 below, rfl⟩⟩

/-- What stands in the second of two related lists is related to something in the first. -/
theorem exists_mem_left {related : First → Second → Prop} {firsts : List First}
    {seconds : List Second} (each : List.Forall₂ related firsts seconds) {second : Second}
    (member : second ∈ seconds) : ∃ first ∈ firsts, related first second := by
  induction each with
  | nil => cases member
  | @cons first other rest others here _ ih =>
      rcases List.mem_cons.1 member with rfl | further
      · exact ⟨first, List.mem_cons_self, here⟩
      · obtain ⟨found, among, joined⟩ := ih further
        exact ⟨found, List.mem_cons_of_mem _ among, joined⟩

theorem exists_mem_right {related : First → Second → Prop} {firsts : List First}
    {seconds : List Second} (each : List.Forall₂ related firsts seconds) {first : First}
    (member : first ∈ firsts) : ∃ second ∈ seconds, related first second :=
  exists_mem_left (List.Forall₂.flip (R := flip related) each) member

/-- Every image of a list is that of one of its items. -/
theorem exists_of_mem_mapM {convert : Item → Except Failure Result} {items : List Item}
    {results : List Result} (converted : items.mapM convert = .ok results) {result : Result}
    (member : result ∈ results) : ∃ item ∈ items, convert item = .ok result :=
  exists_mem_left (mapM_eq_ok_iff.1 converted) member

/-- Every item of a list has its image among the images. -/
theorem exists_mem_of_mapM {convert : Item → Except Failure Result} {items : List Item}
    {results : List Result} (converted : items.mapM convert = .ok results) {item : Item}
    (member : item ∈ items) : ∃ result ∈ results, convert item = .ok result :=
  exists_mem_right (mapM_eq_ok_iff.1 converted) member

/-- The item that is found is one of those that were searched. -/
theorem mem_of_findM?_eq_some {test : Item → Verdict} {items : List Item} {item : Item}
    (found : items.findM? test = .ok (some item)) : item ∈ items := by
  induction items with
  | nil => cases Except.ok.inj found
  | cons first rest ih =>
      rw [List.findM?] at found
      obtain ⟨answer, _, further⟩ := bind_eq_ok.1 found
      cases answer with
      | true => cases Except.ok.inj further; exact List.mem_cons_self
      | false => exact List.mem_cons_of_mem _ (ih further)

/-! ## Computations that succeed -/

/-- A computation succeeds. -/
def Decided (computed : Except Failure Result) : Prop := ∃ result, computed = .ok result

theorem decided_ok (result : Result) : Decided (.ok result : Except Failure Result) := ⟨result, rfl⟩

theorem decided_iff_toBool {attempt : Except Failure Result} :
    Decided attempt ↔ attempt.toBool = true := by
  cases attempt with
  | error failure => exact iff_of_false (fun ⟨_, found⟩ => nomatch found) Bool.false_ne_true
  | ok value => exact iff_of_true (decided_ok value) rfl

theorem exists_error_of_toBool_eq_false {attempt : Except Failure Result}
    (failed : attempt.toBool = false) : ∃ failure, attempt = .error failure := by
  cases attempt with
  | error failure => exact ⟨failure, rfl⟩
  | ok value => cases failed

theorem Decided.bind {first : Except Failure First} {next : First → Except Failure Second}
    (here : Decided first) (behind : ∀ value, Decided (next value)) : Decided (first >>= next) := by
  obtain ⟨value, found⟩ := here
  obtain ⟨result, reached⟩ := behind value
  exact ⟨result, bind_eq_ok.2 ⟨value, found, reached⟩⟩

/-- A test that is decided answers whether it passes. -/
theorem Decided.eq_passed {verdict : Verdict} (decided : Decided verdict) :
    verdict = .ok verdict.passed := by
  obtain ⟨answer, found⟩ := decided
  rw [found, Verdict.passed_ok]

/-- Tests of a list are decided when each of them is. -/
theorem decided_anyM {test : Item → Verdict} {items : List Item}
    (each : ∀ item ∈ items, Decided (test item)) : Decided (items.anyM test) :=
  ⟨_, Verdict.anyM_eq_ok test (fun item => (test item).passed) items
    fun item member => (each item member).eq_passed⟩

/-- A check of every item of a list is passed when each of the items passes. -/
theorem forM_eq_ok_iff {check : Item → Except Failure Unit} {items : List Item} :
    items.forM check = .ok () ↔ ∀ item ∈ items, check item = .ok () := by
  induction items with
  | nil => exact ⟨fun _ item member => (nomatch member), fun _ => rfl⟩
  | cons item rest ih =>
      rw [List.forM, bind_eq_ok, List.forall_mem_cons, ← ih]
      exact ⟨fun ⟨_, here, below⟩ => ⟨here, below⟩, fun ⟨here, below⟩ => ⟨(), here, below⟩⟩

/-- A test that is decided passes its check. -/
theorem Decided.check {verdict : Verdict} (decided : Decided verdict) :
    verdict.check = .ok () := by
  rw [decided.eq_passed]
  rfl

/-- A list is converted when each of its items is. -/
theorem decided_mapM {convert : Item → Except Failure Result} {items : List Item}
    (each : ∀ item ∈ items, Decided (convert item)) : Decided (items.mapM convert) := by
  induction items with
  | nil => exact decided_ok []
  | cons item rest ih =>
      rw [List.mapM_cons]
      refine (each item (by simp)).bind fun image => ?_
      exact (ih fun other member => each other (by simp [member])).bind fun images => decided_ok _

/-- The first item that passes a test is found when each of the tests is decided. -/
theorem decided_findM? {test : Item → Verdict} {items : List Item}
    (each : ∀ item ∈ items, Decided (test item)) : Decided (items.findM? test) := by
  induction items with
  | nil => exact decided_ok none
  | cons item rest ih =>
      rw [List.findM?]
      refine (each item (by simp)).bind fun answer => ?_
      cases answer with
      | true => exact decided_ok _
      | false => exact ih fun other member => each other (by simp [member])

/-! ## Computations that do not fail in a certain way -/

section Avoids

variable {Fault : Type} {blame : Fault → Failure}

/-- A computation does not fail by a fault of a certain kind. -/
def Avoids (blame : Fault → Failure) (computed : Except Failure Result) : Prop :=
  ∀ fault, computed ≠ .error (blame fault)

theorem avoids_ok (result : Result) : Avoids blame (.ok result : Except Failure Result) :=
  fun _ same => nomatch same

theorem Avoids.bind {first : Except Failure First} {next : First → Except Failure Second}
    (here : Avoids blame first) (behind : ∀ value, Avoids blame (next value)) :
    Avoids blame (first >>= next) := by
  cases first with
  | error failure => exact fun fault same => here fault (congrArg _ (Except.error.inj same))
  | ok value => exact behind value

theorem avoids_mapM {convert : Item → Except Failure Result} (items : List Item)
    (each : ∀ item, Avoids blame (convert item)) : Avoids blame (items.mapM convert) := by
  induction items with
  | nil => exact avoids_ok []
  | cons item rest ih =>
      rw [List.mapM_cons]
      exact (each item).bind fun image => ih.bind fun images => avoids_ok _

theorem avoids_anyM {test : Item → Verdict} (items : List Item)
    (each : ∀ item, Avoids blame (test item)) : Avoids blame (items.anyM test) := by
  induction items with
  | nil => exact avoids_ok false
  | cons item rest ih =>
      rw [List.anyM_cons]
      refine (each item).bind fun answer => ?_
      cases answer with
      | true => exact avoids_ok true
      | false => exact ih

theorem avoids_findM? {test : Item → Verdict} (items : List Item)
    (each : ∀ item ∈ items, Avoids blame (test item)) : Avoids blame (items.findM? test) := by
  induction items with
  | nil => exact avoids_ok none
  | cons item rest ih =>
      rw [List.findM?]
      refine (each item (by simp)).bind fun answer => ?_
      cases answer with
      | true => exact avoids_ok _
      | false => exact ih fun other member => each other (by simp [member])

end Avoids

/-- A computation does not fail because of a record. -/
def SparesRecords (computed : Except Failure Result) : Prop :=
  ∀ fault, computed ≠ .error (.conversion fault)

theorem sparesRecords_ok (result : Result) :
    SparesRecords (.ok result : Except Failure Result) := avoids_ok result

theorem SparesRecords.bind {first : Except Failure First} {next : First → Except Failure Second}
    (here : SparesRecords first) (behind : ∀ value, SparesRecords (next value)) :
    SparesRecords (first >>= next) := Avoids.bind here behind

theorem sparesRecords_anyM {test : Item → Verdict} (items : List Item)
    (each : ∀ item, SparesRecords (test item)) : SparesRecords (items.anyM test) :=
  avoids_anyM items each

theorem sparesRecords_findM? {test : Item → Verdict} (items : List Item)
    (each : ∀ item ∈ items, SparesRecords (test item)) : SparesRecords (items.findM? test) :=
  avoids_findM? items each

end Triage
