import Mathlib.Algebra.Order.BigOperators.Group.List
import Mathlib.Algebra.Order.Ring.Nat
import Triage.Proofs.Disk.Tree

/-!
# Writing leaves a tree a tree

A place that a path leads to is reached by its own names too (`walk_reached`), and so stands in a
directory.  Directories are made below directories that stand, and a file is written where its path
leads, so a disk that is a tree is a tree after a file was written (`IsTree.writeBytes`).
-/

namespace Triage.Disk

set_option autoImplicit false

/-! ## Names that fit on a disk -/

/-- The bytes of names with a slash in front of each. -/
def size (names : List String) : Nat := (names.map fun name => name.utf8ByteSize + 1).sum

/-- Names under which something can stand, and be asked about. -/
structure Nameable (names : List String) : Prop where
  named : ∀ name ∈ names, Path.isName name = true ∧ '/' ∉ name.toList
  nulFree : ∀ name ∈ names, '\x00' ∉ name.toList
  short : size names ≤ longestPath

theorem Nameable.sublist {names others : List String} (nameable : Nameable others)
    (among : names.Sublist others) : Nameable names where
  named name member := nameable.named name (among.subset member)
  nulFree name member := nameable.nulFree name (among.subset member)
  short := ((among.map _).sum_le_sum fun _ _ => Nat.zero_le _).trans nameable.short

theorem utf8ByteSize_joined {names : List String} (some : names ≠ []) :
    (Path.joined names).utf8ByteSize + 1 = size names := by
  induction names with
  | nil => exact absurd rfl some
  | cons name rest ih =>
      cases rest with
      | nil => simp [Path.joined, size]
      | cons next others =>
          have split : Path.joined (name :: next :: others) =
              name ++ "/" ++ Path.joined (next :: others) := String.intercalate_cons_cons
          have slash : "/".utf8ByteSize = 1 := rfl
          rw [split, String.utf8ByteSize_append, String.utf8ByteSize_append, slash,
            Nat.add_assoc _ _ 1, ih (List.cons_ne_nil _ _)]
          simp only [size, List.map_cons, List.sum_cons]

/-- An absolute path is at least as long as its names, with a slash in front of each. -/
theorem size_le_of_isAbsolute {path : Path} (absolute : path.isAbsolute = true) :
    size path.names ≤ path.text.utf8ByteSize := by
  obtain ⟨lead, names⟩ := path
  have slashed : lead ≠ 0 := by simpa [Path.isAbsolute] using absolute
  by_cases some : names = []
  · subst some
    exact Nat.zero_le _
  · have slashes : (String.ofList (List.replicate lead '/')).utf8ByteSize ≠ 0 := by
      simpa [String.utf8ByteSize_eq_zero_iff] using slashed
    rw [Path.text, if_neg fun none => slashed none.1, String.utf8ByteSize_append]
    dsimp only
    rw [← utf8ByteSize_joined some]
    omega

/-- The path of a place is as long as its names, with a slash in front of each. -/
theorem utf8ByteSize_ofPlace_le {place : Place} (nameable : Nameable place) :
    (Path.ofPlace place).text.utf8ByteSize ≤ longestPath := by
  by_cases some : place = []
  · subst some
    decide
  · have slash : (String.ofList (List.replicate 1 '/')).utf8ByteSize = 1 := rfl
    rw [Path.text, if_neg fun none => some none.2, Path.ofPlace, String.utf8ByteSize_append, slash,
      Nat.add_comm, utf8ByteSize_joined some]
    exact nameable.short

theorem hasNul_eq_false_iff {path : Path} :
    path.hasNul = false ↔ ∀ name ∈ path.names, '\x00' ∉ name.toList := by
  simp [Path.hasNul]

/-- A place that is reached by its names is reached by its path. -/
theorem locate_ofPlace_of_walk {disk : Disk} {place : Place} (nameable : Nameable place)
    (walked : disk.walk [] place = .ok place) : disk.locate (Path.ofPlace place) = .ok place :=
  locate_eq_ok_iff.2
    ⟨hasNul_eq_false_iff.2 nameable.nulFree, utf8ByteSize_ofPlace_le nameable, walked⟩

/-! ## Walking to a place -/

/-- Where one name leads, and the names behind it. -/
theorem step_sublist (place : Place) (name : String) (rest : List String) :
    ((if name = ".." then place.dropLast else place ++ [name]) ++ rest).Sublist
      (place ++ name :: rest) := by
  split
  · exact (List.dropLast_sublist place).append (List.sublist_cons_self name rest)
  · exact List.append_cons place name rest ▸ List.Sublist.refl _

section

variable {disk : Disk} {place : Place}

theorem walk_append (disk : Disk) (place : Place) (names rest : List String) :
    disk.walk place (names ++ rest) =
      disk.walk place names >>= fun reached => disk.walk reached rest := by
  induction names generalizing place with
  | nil => rfl
  | cons name more ih =>
      rw [List.cons_append, walk, walk]
      split
      · rfl
      · rfl
      · split
        · rfl
        · exact ih _

/-- One name is a step from a directory. -/
theorem walk_singleton_eq_ok_iff {name : String} {reached : Place} :
    disk.walk place [name] = .ok reached ↔
      disk.nodeAt place = some .directory ∧ isOverlong name = false ∧
        reached = if name = ".." then place.dropLast else place ++ [name] := by
  rw [walk]
  cases disk.nodeAt place with
  | none => simp
  | some node =>
      cases node with
      | file bytes => simp
      | directory =>
          cases isOverlong name <;> simp [walk, eq_comm]

theorem not_mem_of_walk (here : disk.walk [] place = .ok place) : ".." ∉ place := by
  have kept := Path.follow_sublist [] place
  rw [← eq_follow_of_walk here, List.nil_append] at kept
  have same := kept.antisymm List.filter_sublist
  intro dots
  rw [same] at dots
  simpa using (List.mem_filter.1 dots).2

/-- A place that is reached stands in a directory that is reached. -/
theorem walk_dropLast (here : disk.walk [] place = .ok place) :
    disk.walk [] place.dropLast = .ok place.dropLast ∧
      disk.nodeAt place.dropLast = some .directory := by
  obtain rfl | ⟨above, name, rfl⟩ := place.eq_nil_or_concat'
  · exact ⟨rfl, rfl⟩
  · have plain := not_mem_of_walk here
    rw [walk_append] at here
    obtain ⟨middle, up, last⟩ := bind_eq_ok.1 here
    obtain ⟨stands, _, same⟩ := walk_singleton_eq_ok_iff.1 last
    rw [if_neg (by rintro rfl; simp at plain)] at same
    obtain rfl := List.append_inj_left' same rfl
    rw [List.dropLast_concat]
    exact ⟨up, stands⟩

/-- **A place that a path leads to is reached by its own names.** -/
theorem walk_reached {reached : Place} {names : List String}
    (here : disk.walk [] place = .ok place) (walked : disk.walk place names = .ok reached) :
    disk.walk [] reached = .ok reached := by
  induction names generalizing place with
  | nil => exact Except.ok.inj walked ▸ here
  | cons name rest ih =>
      rw [← List.singleton_append, walk_append] at walked
      obtain ⟨next, step, walked⟩ := bind_eq_ok.1 walked
      refine ih ?_ walked
      have reached := (walk_singleton_eq_ok_iff.1 step).2.2
      split at reached
      · exact reached ▸ (walk_dropLast here).1
      · rw [reached, walk_append, here]
        exact reached ▸ step

end

/-! ## Writing to a tree -/

namespace IsTree

variable {disk prepared written : Disk} (tree : disk.IsTree)
include tree

/-- Everything on a tree stands in a directory. -/
theorem nodeAt_dropLast {place : Place} {node : Node} (stands : disk.nodeAt place = some node) :
    disk.nodeAt place.dropLast = some .directory :=
  (walk_dropLast (locate_eq_ok_iff.1 (tree.locate_ofPlace stands)).2.2).2

/-- What is put at a place that is reached leaves a tree, if no directory stood there. -/
theorem put {place : Place} (nameable : Nameable place) (walked : disk.walk [] place = .ok place)
    (free : disk.nodeAt place ≠ some .directory) (node : Node) : (disk.put place node).IsTree := by
  have keys : (disk.put place node).nodes.keys =
      if disk.nodes.keys.contains place then disk.nodes.keys else disk.nodes.keys ++ [place] :=
    OrderedMap.keys_insert disk.nodes place node
  have among {other : Place} (member : other ∈ (disk.put place node).nodes.keys) :
      other ∈ disk.nodes.keys ∨ other = place := by
    rw [keys] at member
    split at member
    · exact .inl member
    · simpa using member
  have located : disk.locate (Path.ofPlace place) = .ok place :=
    locate_ofPlace_of_walk nameable walked
  constructor
  case inside =>
    intro member
    rcases among member with old | new
    · exact tree.inside old
    · exact free (new ▸ rfl)
  case once =>
    rw [keys]
    split
    · exact tree.once
    · next new => exact List.nodup_append_comm.1 (List.nodup_cons.2 ⟨by simpa using new, tree.once⟩)
  case named =>
    intro other member
    rcases among member with old | rfl
    · exact tree.named other old
    · exact ⟨Nat.le_succ 1, nameable.named⟩
  case reached =>
    intro other member
    refine locate_of_keeps (keepsDirectories_put node free) ?_
    rcases among member with old | rfl
    · exact tree.reached other old
    · exact located

/-- **Making directories leaves a tree.** -/
theorem makeDirectories {place : Place} {names : List String}
    (stands : disk.nodeAt place = some .directory) (nameable : Nameable (place ++ names))
    (made : disk.makeDirectories place names = .ok prepared) : prepared.IsTree := by
  fun_induction Disk.makeDirectories disk place names with
  | case1 disk place =>
      cases made
      exact tree
  | case2 disk place name rest next found ih =>
      exact ih tree found (nameable.sublist (step_sublist place name rest)) made
  | case3 => cases made
  | case4 => cases made
  | case5 disk place name rest next free short ih =>
      have further := nameable.sublist (step_sublist place name rest)
      have here : disk.walk [] place = .ok place :=
        (locate_eq_ok_iff.1 (tree.locate_ofPlace stands)).2.2
      have walked : disk.walk place [name] = .ok next :=
        walk_singleton_eq_ok_iff.2 ⟨stands, by simpa using short, rfl⟩
      have put := tree.put (further.sublist (List.sublist_append_left next rest))
        (walk_reached here walked) (by simp [free]) .directory
      exact ih put (nodeAt_put_directory disk next) further made

/-- **Writing a file leaves a tree.** -/
theorem writeBytes {path : Path} {bytes : ByteArray} (parsed : path.IsParsed)
    (absolute : path.isAbsolute = true) (wrote : disk.writeBytes path bytes = .ok written) :
    written.IsTree := by
  unfold Disk.writeBytes at wrote
  obtain ⟨prepared, made, wrote⟩ := bind_eq_ok.1 wrote
  obtain ⟨place, located, wrote⟩ := bind_eq_ok.1 wrote
  obtain ⟨nulFree, short, walked⟩ := locate_eq_ok_iff.1 located
  have nameable : Nameable path.names :=
    ⟨parsed.names, hasNul_eq_false_iff.1 nulFree, (size_le_of_isAbsolute absolute).trans short⟩
  have above : prepared.IsTree :=
    tree.makeDirectories rfl (nameable.sublist (List.dropLast_sublist _)) made
  have fits : Nameable place := by
    rw [eq_follow_of_walk walked]
    exact nameable.sublist ((Path.follow_sublist [] path.names).trans List.filter_sublist)
  split at wrote
  · cases wrote
  · next free =>
      rw [← Except.ok.inj wrote]
      exact above.put fits (walk_reached rfl walked) free (.file bytes)

end IsTree

end Triage.Disk
