import Mathlib.Data.List.Nodup
import Triage.Proofs.Disk
import Triage.Proofs.Path
import Triage.Proofs.Table

/-!
# Disks that are trees

On a disk that is a tree everything stands once, under proper names, and where its path leads
(`Disk.IsTree`), so it stands in a directory (`IsTree.nodeAt_dropLast`).  The files of such a
disk are told by what stands at their places (`mem_filePlaces_iff`) and none of them is met twice
(`nodup_filePlaces`).
-/

namespace Triage.Disk

set_option autoImplicit false

/-- Everything stands once, under proper names, and where its path leads. -/
structure IsTree (disk : Disk) : Prop where
  inside : [] ∉ disk.nodes.keys
  once : disk.nodes.keys.Nodup
  named : ∀ place ∈ disk.nodes.keys, (Path.ofPlace place).IsParsed
  /-- So there are directories above it, and neither its names nor its path are too long. -/
  reached : ∀ place ∈ disk.nodes.keys, disk.locate (Path.ofPlace place) = .ok place

theorem locates_iff {disk : Disk} {path : Path} {place : Place} :
    disk.locate path = .ok place ↔ (disk.locate path).toOption = some place := by
  cases disk.locate path with
  | error failure => exact iff_of_false nofun nofun
  | ok reached => simp [Except.toOption]

instance (disk : Disk) : Decidable disk.IsTree :=
  decidable_of_iff
    ([] ∉ disk.nodes.keys ∧ disk.nodes.keys.Nodup ∧
      (∀ place ∈ disk.nodes.keys, (Path.ofPlace place).IsParsed) ∧
      ∀ place ∈ disk.nodes.keys, (disk.locate (Path.ofPlace place)).toOption = some place)
    ⟨fun ⟨inside, once, named, reached⟩ =>
        ⟨inside, once, named, fun place member => locates_iff.2 (reached place member)⟩,
      fun ⟨inside, once, named, reached⟩ =>
        ⟨inside, once, named, fun place member => locates_iff.1 (reached place member)⟩⟩

example : Disk.empty.IsTree := by decide

/-- What stands below the root is bound. -/
theorem mem_keys_of_nodeAt {disk : Disk} {place : Place} {node : Node} (below : place ≠ [])
    (stands : disk.nodeAt place = some node) : place ∈ disk.nodes.keys := by
  rw [nodeAt, if_neg below] at stands
  exact OrderedMap.contains_iff_mem_keys.1 (Option.isSome_iff_exists.2 ⟨node, stands⟩)

namespace IsTree

variable {disk : Disk} (tree : disk.IsTree)
include tree

/-- Whatever stands at a place is found by the path of the place. -/
theorem locate_ofPlace {place : Place} {node : Node} (stands : disk.nodeAt place = some node) :
    disk.locate (Path.ofPlace place) = .ok place := by
  by_cases root : place = []
  · subst root
    rfl
  · exact tree.reached place (mem_keys_of_nodeAt root stands)

/-- The bytes of a file are read by the path of its place. -/
theorem readBytes_ofPlace {place : Place} {bytes : ByteArray}
    (stands : disk.nodeAt place = some (.file bytes)) :
    disk.readBytes (Path.ofPlace place) = .ok bytes := by
  refine bind_eq_ok.2 ⟨place, tree.locate_ofPlace stands, ?_⟩
  rw [stands]
  rfl

theorem isParsed_ofPlace {place : Place} {node : Node} (stands : disk.nodeAt place = some node) :
    (Path.ofPlace place).IsParsed := by
  by_cases root : place = []
  · subst root
    decide
  · exact tree.named place (mem_keys_of_nodeAt root stands)

/-! ## The files of a tree -/

/-- **The files of a tree** are the places at which files stand. -/
theorem mem_filePlaces_iff {place : Place} :
    place ∈ disk.filePlaces ↔ ∃ bytes, disk.nodeAt place = some (.file bytes) := by
  have found (bytes : ByteArray) :
      (place, Node.file bytes) ∈ disk.nodes.bindings ↔ disk.nodeAt place = some (.file bytes) := by
    by_cases root : place = []
    · subst root
      exact iff_of_false (fun member => tree.inside (List.mem_map.2 ⟨_, member, rfl⟩)) nofun
    · rw [nodeAt, if_neg root, OrderedMap.find?]
      exact OrderedMap.mem_bindings_iff tree.once
  rw [filePlaces, List.mem_filterMap]
  constructor
  · rintro ⟨⟨other, node⟩, member, isFile⟩
    cases node with
    | directory => cases isFile
    | file bytes =>
        cases isFile
        exact ⟨bytes, (found bytes).1 member⟩
  · rintro ⟨bytes, stands⟩
    exact ⟨_, (found bytes).2 stands, rfl⟩

/-- No file of a tree is met twice. -/
theorem nodup_filePlaces : disk.filePlaces.Nodup := by
  have among : disk.filePlaces.Sublist disk.nodes.keys := by
    unfold filePlaces OrderedMap.keys
    induction disk.nodes.bindings with
    | nil => exact .slnil
    | cons binding rest ih =>
        obtain ⟨place, node⟩ := binding
        cases node with
        | directory => exact ih.cons place
        | file bytes => exact ih.cons_cons place
  exact tree.once.sublist among

end IsTree

end Triage.Disk
