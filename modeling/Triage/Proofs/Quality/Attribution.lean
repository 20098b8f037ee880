import Triage.Proofs.Table
import Triage.Quality.Components

/-!
# Files and their first subsystems

Subsystems may select the same files, and a file belongs to the first subsystem that selects it.
The table of files is filled subsystem by subsystem, and each of them adds behind all others the
files that no subsystem before it selects (`AttributesFiles.concat`).  So after any subsystems the
table has every file that one of them selects, once, and in the order of the subsystems and of the
tree (`attributesFiles_componentFiles`).
-/

namespace Triage

set_option autoImplicit false

variable {Number : Type} {disk : Disk} {tree : SourceTree} {subsystems : List (Subsystem Number)}

/-! ## The order of the files -/

/-- Whether a subsystem selects a file by its path. -/
def SourceTree.selects (tree : SourceTree) (place : Place) (subsystem : Subsystem Number) : Bool :=
  subsystem.matchesPath (.text (tree.relative place))

/-- A file comes before another one: it belongs to an earlier subsystem, or to the same one and
is listed earlier. -/
def SourceTree.ComesBefore (tree : SourceTree) (disk : Disk)
    (subsystems : List (Subsystem Number)) (first second : Place) : Prop :=
  subsystems.findIdx (tree.selects first) < subsystems.findIdx (tree.selects second) ∨
    subsystems.findIdx (tree.selects first) = subsystems.findIdx (tree.selects second) ∧
      (tree.files disk).idxOf first < (tree.files disk).idxOf second

theorem SourceTree.ComesBefore.ne {first second : Place}
    (before : tree.ComesBefore disk subsystems first second) : first ≠ second := by
  rintro rfl
  rcases before with before | ⟨_, before⟩ <;> exact absurd before (Nat.lt_irrefl _)

/-- The first item that passes a test is the first one still when others are put behind it. -/
theorem findIdx_append_of_find?_eq_some {Item : Type} {test : Item → Bool} {items : List Item}
    {found : Item} (search : items.find? test = some found) (others : List Item) :
    (items ++ others).findIdx test = items.findIdx test ∧ items.findIdx test < items.length := by
  have inside : items.findIdx test < items.length :=
    List.findIdx_lt_length.2 ⟨found, List.mem_of_find?_eq_some search, List.find?_some search⟩
  rw [List.findIdx_append, if_pos inside]
  exact ⟨rfl, inside⟩

theorem findIdx_concat_of_find?_eq_none {Item : Type} {test : Item → Bool} {items : List Item}
    (search : items.find? test = none) {last : Item} (passed : test last = true) :
    (items ++ [last]).findIdx test = items.length := by
  have outside : ¬ items.findIdx test < items.length := by
    rw [List.findIdx_lt_length]
    rintro ⟨item, member, test⟩
    exact List.find?_eq_none.1 search item member test
  rw [List.findIdx_append, if_neg outside, List.findIdx_cons, passed, cond_true, Nat.zero_add]

/-- Subsystems behind those that select two files do not change their order. -/
theorem SourceTree.ComesBefore.append {first second : Place} {left right : Subsystem Number}
    (before : tree.ComesBefore disk subsystems first second)
    (here : subsystems.find? (tree.selects first) = some left)
    (there : subsystems.find? (tree.selects second) = some right)
    (others : List (Subsystem Number)) :
    tree.ComesBefore disk (subsystems ++ others) first second := by
  unfold ComesBefore
  rw [(findIdx_append_of_find?_eq_some here others).1,
    (findIdx_append_of_find?_eq_some there others).1]
  exact before

/-! ## The files of the subsystems -/

/-- Files are attributed to subsystems: the source files that a subsystem selects are there, each
with the first of them, and in their order. -/
structure AttributesFiles (disk : Disk) (tree : SourceTree) (subsystems : List (Subsystem Number))
    (files : List (Place × Subsystem Number)) : Prop where
  mem_iff : ∀ place subsystem, (place, subsystem) ∈ files ↔
    place ∈ tree.files disk ∧ subsystems.find? (tree.selects place) = some subsystem
  ordered : files.Pairwise fun first second =>
    tree.ComesBefore disk subsystems first.1 second.1

/-- Each file is there once. -/
theorem AttributesFiles.nodup {files : List (Place × Subsystem Number)}
    (attributes : AttributesFiles disk tree subsystems files) : (files.map Prod.fst).Nodup :=
  List.pairwise_map.2 (attributes.ordered.imp fun before => before.ne)

/-- The files that are there are the source files that a subsystem selects. -/
theorem AttributesFiles.mem_map_fst_iff {files : List (Place × Subsystem Number)}
    (attributes : AttributesFiles disk tree subsystems files) (place : Place) :
    place ∈ files.map Prod.fst ↔
      place ∈ tree.files disk ∧ ∃ subsystem ∈ subsystems, tree.selects place subsystem = true := by
  rw [← List.find?_isSome, Option.isSome_iff_exists]
  constructor
  · intro member
    obtain ⟨⟨_, subsystem⟩, attributed, rfl⟩ := List.mem_map.1 member
    obtain ⟨listed, first⟩ := (attributes.mem_iff _ _).1 attributed
    exact ⟨listed, subsystem, first⟩
  · rintro ⟨listed, subsystem, first⟩
    exact List.mem_map.2 ⟨_, (attributes.mem_iff place subsystem).2 ⟨listed, first⟩, rfl⟩

/-- The files of a subsystem that are not in a table of files, each once. -/
def SourceTree.newFiles (tree : SourceTree) (disk : Disk)
    (table : OrderedMap Place (Subsystem Number)) (subsystem : Subsystem Number) : List Place :=
  ((tree.filesFor disk subsystem).filter fun place => !table.contains place).eraseDups

/-- New files are in the order of the tree. -/
theorem pairwise_newFiles (table : OrderedMap Place (Subsystem Number))
    (subsystem : Subsystem Number) :
    (tree.newFiles disk table subsystem).Pairwise fun first second =>
      (tree.files disk).idxOf first < (tree.files disk).idxOf second := by
  rw [SourceTree.newFiles, eraseDups_filter, SourceTree.filesFor, eraseDups_filter]
  exact ((pairwise_idxOf_eraseDups (tree.files disk)).filter _).filter _

section FurtherSubsystem

variable {table : OrderedMap Place (Subsystem Number)}
  (attributes : AttributesFiles disk tree subsystems table.bindings)
  (subsystem : Subsystem Number)
include attributes

/-- New files are those that no subsystem before selects. -/
theorem AttributesFiles.mem_newFiles_iff (place : Place) :
    place ∈ tree.newFiles disk table subsystem ↔
      place ∈ tree.files disk ∧ tree.selects place subsystem = true ∧
        subsystems.find? (tree.selects place) = none := by
  have known := attributes.mem_map_fst_iff place
  rw [← OrderedMap.keys, ← OrderedMap.contains_iff_mem_keys, ← List.find?_isSome] at known
  rw [SourceTree.newFiles, List.mem_eraseDups, List.mem_filter, SourceTree.filesFor,
    List.mem_filter, Bool.not_eq_true', ← Bool.not_eq_true, known]
  constructor
  · rintro ⟨⟨listed, selected⟩, unknown⟩
    refine ⟨listed, selected, Option.not_isSome_iff_eq_none.1 ?_⟩
    intro found
    exact unknown ⟨listed, found⟩
  · rintro ⟨listed, selected, search⟩
    refine ⟨⟨listed, selected⟩, ?_⟩
    rintro ⟨_, found⟩
    rw [search] at found
    cases found

/-- Behind the files of the subsystems stand those that are new with a further one. -/
theorem AttributesFiles.mem_append_newFiles_iff (place : Place) (other : Subsystem Number) :
    (place, other) ∈ table.bindings ++
        (tree.newFiles disk table subsystem).map (fun place => (place, subsystem)) ↔
      place ∈ tree.files disk ∧
        (subsystems ++ [subsystem]).find? (tree.selects place) = some other := by
  rw [List.mem_append, attributes.mem_iff, List.mem_map, List.find?_append]
  cases search : subsystems.find? (tree.selects place) with
  | some first =>
      rw [Option.some_or]
      refine or_iff_left ?_
      rintro ⟨_, added, same⟩
      cases same
      cases search.symm.trans ((attributes.mem_newFiles_iff subsystem _).1 added).2.2
  | none =>
      rw [Option.none_or, List.find?_singleton]
      constructor
      · rintro (⟨_, found⟩ | ⟨_, added, same⟩)
        · cases found
        · cases same
          obtain ⟨listed, selected, _⟩ := (attributes.mem_newFiles_iff subsystem _).1 added
          exact ⟨listed, if_pos selected⟩
      · rintro ⟨listed, found⟩
        obtain ⟨selected, same⟩ := Option.ite_none_right_eq_some.1 found
        cases same
        have added := (attributes.mem_newFiles_iff subsystem place).2 ⟨listed, selected, search⟩
        exact .inr ⟨place, added, rfl⟩

/-- **A further subsystem** adds the files that it is the first to select. -/
theorem AttributesFiles.concat :
    AttributesFiles disk tree (subsystems ++ [subsystem])
      (table.bindNew subsystem (tree.filesFor disk subsystem)).bindings := by
  have index {place : Place} (added : place ∈ tree.newFiles disk table subsystem) :
      (subsystems ++ [subsystem]).findIdx (tree.selects place) = subsystems.length := by
    obtain ⟨_, selected, search⟩ := (attributes.mem_newFiles_iff subsystem place).1 added
    exact findIdx_concat_of_find?_eq_none search selected
  rw [OrderedMap.bindings_bindNew]
  refine ⟨attributes.mem_append_newFiles_iff subsystem, List.pairwise_append.2 ⟨?_, ?_, ?_⟩⟩
  · refine attributes.ordered.imp_of_mem fun {first second} left right before => ?_
    exact before.append ((attributes.mem_iff _ _).1 left).2 ((attributes.mem_iff _ _).1 right).2 _
  · refine List.pairwise_map.2 ((pairwise_newFiles table subsystem).imp_of_mem
      fun left right before => .inr ⟨?_, before⟩)
    rw [index left, index right]
  · -- What is in the table belongs to an earlier subsystem than what is added.
    intro file attributed other member
    obtain ⟨place, added, rfl⟩ := List.mem_map.1 member
    obtain ⟨same, inside⟩ :=
      findIdx_append_of_find?_eq_some ((attributes.mem_iff _ _).1 attributed).2 [subsystem]
    refine .inl ?_
    rw [same, index added]
    exact inside

end FurtherSubsystem

/-- **The files of the subsystems are attributed** to the first that select them. -/
theorem attributesFiles_componentFiles (disk : Disk) (tree : SourceTree)
    (subsystems : List (Subsystem Number)) :
    AttributesFiles disk tree subsystems (componentFiles disk tree subsystems) := by
  induction subsystems using List.reverseRecOn with
  | nil => exact ⟨fun place subsystem => by simp [componentFiles, OrderedMap.empty], .nil⟩
  | append_singleton subsystems subsystem ih =>
      have step : componentFiles disk tree (subsystems ++ [subsystem]) =
          (OrderedMap.bindNew ⟨componentFiles disk tree subsystems⟩ subsystem
            (tree.filesFor disk subsystem)).bindings := by
        rw [componentFiles, List.foldl_append]
        rfl
      rw [step]
      exact ih.concat subsystem

end Triage
