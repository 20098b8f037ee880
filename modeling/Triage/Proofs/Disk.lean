import Triage.Disk
import Triage.Proofs.Verdict

/-!
# What writing leaves on the disk

Directories are only ever added: where one stood, one stands (`KeepsDirectories`).  A path leads
along its names when it can be asked about (`locate_eq_ok_iff`, `eq_follow_of_walk`), so one that
could be followed before leads to the same place afterwards (`locate_of_keeps`).
Making directories a second time changes nothing (`makeDirectories_again`), and a file that
was written holds what was written (`readText_of_writeText`).
-/

namespace Triage

set_option autoImplicit false

namespace Disk

/-- Every directory of a disk is a directory of a later one. -/
def KeepsDirectories (disk later : Disk) : Prop :=
  ∀ place, disk.nodeAt place = some .directory → later.nodeAt place = some .directory

theorem KeepsDirectories.trans {disk later last : Disk} (first : disk.KeepsDirectories later)
    (second : later.KeepsDirectories last) : disk.KeepsDirectories last :=
  fun place stood => second place (first place stood)

theorem nodeAt_put (disk : Disk) (place other : Place) (node : Node) :
    (disk.put place node).nodeAt other =
      if other = [] then some .directory
      else if place = other then some node else disk.nodeAt other := by
  unfold nodeAt put
  split
  · rfl
  · rw [OrderedMap.find?_insert]
    simp only [beq_iff_eq]

/-- A directory stands where one was put. -/
theorem nodeAt_put_directory (disk : Disk) (place : Place) :
    (disk.put place .directory).nodeAt place = some .directory := by
  rw [nodeAt_put, if_pos rfl, ite_self]

/-- What is put where no directory stands takes the place of none. -/
theorem keepsDirectories_put {disk : Disk} {place : Place} (node : Node)
    (other : disk.nodeAt place ≠ some .directory) :
    disk.KeepsDirectories (disk.put place node) := by
  intro stands found
  rw [nodeAt_put]
  split
  · rfl
  · rw [if_neg (by rintro rfl; exact other found)]
    exact found

/-! ## Following paths -/

/-- A path leads along its names. -/
theorem eq_follow_of_walk {disk : Disk} {place reached : Place} {names : List String}
    (walked : disk.walk place names = .ok reached) : reached = Path.follow place names := by
  induction names generalizing place with
  | nil => exact (Except.ok.inj walked).symm
  | cons name rest ih =>
      rw [walk] at walked
      split at walked
      · cases walked
      · cases walked
      · split at walked
        · cases walked
        · have behind := ih walked
          rw [behind, Path.follow]
          split <;> rfl

/-- A path that can be asked about leads where its names do. -/
theorem locate_eq_ok_iff {disk : Disk} {path : Path} {place : Place} :
    disk.locate path = .ok place ↔
      path.hasNul = false ∧ path.text.utf8ByteSize ≤ longestPath ∧
        disk.walk [] path.names = .ok place := by
  unfold locate
  cases nul : path.hasNul with
  | true => simp
  | false =>
      by_cases long : longestPath < path.text.utf8ByteSize
      · simp [long, Nat.not_le.2 long]
      · simp [long, Nat.not_lt.1 long]

theorem eq_follow_of_locate {disk : Disk} {path : Path} {place : Place}
    (located : disk.locate path = .ok place) : place = Path.follow [] path.names :=
  eq_follow_of_walk (locate_eq_ok_iff.1 located).2.2

section

variable {disk later : Disk} (keeps : disk.KeepsDirectories later)
include keeps

theorem walk_of_keeps {place reached : Place} {names : List String}
    (walked : disk.walk place names = .ok reached) : later.walk place names = .ok reached := by
  induction names generalizing place with
  | nil => exact walked
  | cons name rest ih =>
      rw [walk] at walked ⊢
      split at walked
      · cases walked
      · cases walked
      · next stands =>
          rw [keeps place stands]
          split at walked
          · cases walked
          · next short =>
              simp only [if_neg short]
              exact ih walked

/-- A path that could be followed leads to the same place later. -/
theorem locate_of_keeps {path : Path} {place : Place} (located : disk.locate path = .ok place) :
    later.locate path = .ok place := by
  obtain ⟨nameable, short, walked⟩ := locate_eq_ok_iff.1 located
  exact locate_eq_ok_iff.2 ⟨nameable, short, walk_of_keeps keeps walked⟩

end

/-- It is known of a path that can be followed whether a file stands there. -/
theorem decided_isFile?_of_locate {disk : Disk} {path : Path} {place : Place}
    (located : disk.locate path = .ok place) : Decided (disk.isFile? path) := by
  unfold isFile?
  rw [located]
  dsimp only
  split
  · exact decided_ok true
  · exact decided_ok false

/-! ## Making directories -/

/-- Making directories keeps those that are there. -/
theorem keepsDirectories_makeDirectories {disk prepared : Disk} {place : Place}
    {names : List String} (made : disk.makeDirectories place names = .ok prepared) :
    disk.KeepsDirectories prepared := by
  fun_induction makeDirectories disk place names with
  | case1 disk place =>
      cases made
      exact fun _ stood => stood
  | case2 disk place name rest next stands ih => exact ih made
  | case3 => cases made
  | case4 => cases made
  | case5 disk place name rest next free short ih =>
      exact (keepsDirectories_put _ (by rw [free]; exact nofun)).trans (ih made)

/-- Directories that were made need not be made again. -/
theorem makeDirectories_of_keeps {disk prepared later : Disk} {place : Place}
    {names : List String} (made : disk.makeDirectories place names = .ok prepared)
    (keeps : prepared.KeepsDirectories later) : later.makeDirectories place names = .ok later := by
  fun_induction makeDirectories disk place names with
  | case1 => rw [makeDirectories]
  | case2 disk place name rest next stands ih =>
      have there := keeps next (keepsDirectories_makeDirectories made next stands)
      rw [makeDirectories]
      simp only [next, there] at there ⊢
      exact ih made
  | case3 => cases made
  | case4 => cases made
  | case5 disk place name rest next free short ih =>
      have there := keeps next (keepsDirectories_makeDirectories made next
        (nodeAt_put_directory disk next))
      rw [makeDirectories]
      simp only [next, there] at there ⊢
      exact ih made

/-- **Making directories a second time changes nothing.** -/
theorem makeDirectories_again {disk prepared : Disk} {place : Place} {names : List String}
    (made : disk.makeDirectories place names = .ok prepared) :
    prepared.makeDirectories place names = .ok prepared :=
  makeDirectories_of_keeps made fun _ stood => stood

/-! ## Writing files -/

/-- What is left by writing a file: the file stands where its path leads. -/
structure HoldsFile (written : Disk) (path : Path) (bytes : ByteArray) : Prop where
  isFile : written.isFile? path = .ok true
  bytes : written.readBytes path = .ok bytes

/-- **A file that was written stands where its path leads**, and all directories are kept. -/
theorem holdsFile_of_writeBytes {disk written : Disk} {path : Path} {bytes : ByteArray}
    (wrote : disk.writeBytes path bytes = .ok written) :
    disk.KeepsDirectories written ∧ written.HoldsFile path bytes := by
  unfold writeBytes at wrote
  obtain ⟨prepared, made, wrote⟩ := bind_eq_ok.1 wrote
  obtain ⟨place, located, wrote⟩ := bind_eq_ok.1 wrote
  have free : prepared.nodeAt place ≠ some .directory := by
    intro stands
    rw [stands] at wrote
    cases wrote
  have put : prepared.put place (.file bytes) = written := by
    split at wrote
    · cases wrote
    · exact Except.ok.inj wrote
  have inside : place ≠ [] := by
    rintro rfl
    exact free rfl
  have keeps : prepared.KeepsDirectories written := put ▸ keepsDirectories_put _ free
  have there : written.locate path = .ok place := locate_of_keeps keeps located
  have stands : written.nodeAt place = some (.file bytes) := by
    rw [← put, nodeAt_put, if_neg inside, if_pos rfl]
  refine ⟨(keepsDirectories_makeDirectories made).trans keeps, ?_, ?_⟩
  · simp only [isFile?, there, stands]
  · unfold readBytes
    refine bind_eq_ok.2 ⟨place, there, ?_⟩
    rw [stands]
    rfl

/-- Whatever is written is text. -/
theorem decode_toUTF8 (text : String) : decode text.toUTF8 = .ok text := by
  have found : String.fromUTF8? text.toUTF8 = some text := dif_pos text.isValidUTF8
  rw [decode, found]

/-- **A text that was written is read back**, with its line ends unified. -/
theorem readText_of_writeText {disk written : Disk} {path : Path} {text : String}
    (wrote : disk.writeText path text = .ok written) :
    written.isFile? path = .ok true ∧
      written.readText path = .ok (String.ofList (Text.unifyLineEnds text.toList)) := by
  have holds := (holdsFile_of_writeBytes wrote).2
  refine ⟨holds.isFile, ?_⟩
  rw [readText, holds.bytes]
  change (decode text.toUTF8 >>= _) = _
  rw [decode_toUTF8]
  rfl

/-- Once its directories are made, a file is written as it would have been before. -/
theorem writeText_prepared {disk prepared : Disk} {path : Path}
    (made : disk.makeDirectories [] path.parent.names = .ok prepared) (text : String) :
    prepared.writeText path text = disk.writeText path text := by
  unfold writeText writeBytes
  rw [made, makeDirectories_again made]

end Disk

end Triage
