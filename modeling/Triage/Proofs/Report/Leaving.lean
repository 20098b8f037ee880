import Triage.Proofs.Report.Export

/-!
# What exporting leaves on the disk, however it ends

An export hands the disk on only when it succeeds, but one that fails may have made directories
before.  Here exporting is told step by step as an effect: how it ends, and what is on the disk
then (`exportsEffect`).  Where it succeeds the disk is the one that is handed on, and where it
fails the failure is the same (`result_writeExports`), so nothing is added but what a failure
leaves behind.

What is left spares the disk: away from the places of the reports everything is as it was, except
for directories where nothing stood (`spares_exportsEffect`, from what one step spares).  Reports
at different places all stand when exporting succeeds (`stands_of_exportsEffect`).  No failure of
exporting has a text (`failsSilently_exportsEffect`).
-/

namespace Triage

set_option autoImplicit false

/-! ## Sparing a disk -/

namespace Disk

/-- Away from some places a later disk has what an earlier one had, except for directories where
nothing stood. -/
def Spares (disk later : Disk) (targets : List Place) : Prop :=
  ∀ place, place ∉ targets → later.nodeAt place = disk.nodeAt place ∨
    disk.nodeAt place = none ∧ later.nodeAt place = some .directory

theorem spares_refl (disk : Disk) (targets : List Place) : disk.Spares disk targets :=
  fun _ _ => .inl rfl

theorem Spares.trans {disk later last : Disk} {targets : List Place}
    (first : disk.Spares later targets) (second : later.Spares last targets) :
    disk.Spares last targets := by
  intro place away
  rcases first place away with same | ⟨free, made⟩
  · rw [← same]
    exact second place away
  · rcases second place away with same | ⟨stillFree, _⟩
    · exact .inr ⟨free, same.trans made⟩
    · exact nomatch made.symm.trans stillFree

theorem Spares.mono {disk later : Disk} {few many : List Place} (spares : disk.Spares later few)
    (among : ∀ place ∈ few, place ∈ many) : disk.Spares later many :=
  fun place away => spares place fun member => away (among place member)

/-- What stood away from the places stands as it was. -/
theorem Spares.nodeAt_eq {disk later : Disk} {targets : List Place}
    (spares : disk.Spares later targets) {place : Place} (away : place ∉ targets) {node : Node}
    (stood : disk.nodeAt place = some node) : later.nodeAt place = some node := by
  rcases spares place away with same | ⟨free, _⟩
  · exact same.trans stood
  · exact nomatch stood.symm.trans free

theorem spares_put_directory {disk : Disk} {place : Place} (free : disk.nodeAt place = none)
    (targets : List Place) : disk.Spares (disk.put place .directory) targets := by
  intro other _
  rw [nodeAt_put]
  by_cases root : other = []
  · exact .inl (by rw [if_pos root, root, nodeAt, if_pos rfl])
  · rw [if_neg root]
    by_cases same : place = other
    · subst same
      exact .inr ⟨free, if_pos rfl⟩
    · exact .inl (if_neg same)

theorem spares_put_file (disk : Disk) (place : Place) (bytes : ByteArray) :
    disk.Spares (disk.put place (.file bytes)) [place] := by
  intro other away
  rw [List.mem_singleton] at away
  rw [nodeAt_put, if_neg (Ne.symm away)]
  by_cases root : other = []
  · exact .inl (by rw [if_pos root, root, nodeAt, if_pos rfl])
  · exact .inl (if_neg root)

end Disk

/-! ## Failing with no text -/

section FailsSilently

variable {First Second Item : Type}

/-- A computation that fails does so with no text. -/
def FailsSilently (computed : Except Failure First) : Prop :=
  ∀ failure, computed = .error failure → failure.message? = none

theorem failsSilently_ok (value : First) :
    FailsSilently (.ok value : Except Failure First) := nofun

theorem failsSilently_error {failure : Failure} (silent : failure.message? = none) :
    FailsSilently (.error failure : Except Failure First) := by
  intro other same
  rwa [← Except.error.inj same]

theorem FailsSilently.bind {first : Except Failure First} {next : First → Except Failure Second}
    (here : FailsSilently first) (behind : ∀ value, FailsSilently (next value)) :
    FailsSilently (first >>= next) := by
  cases first with
  | ok value => exact behind value
  | error failure => exact failsSilently_error (here failure rfl)

theorem failsSilently_forM {check : Item → Except Failure PUnit} (items : List Item)
    (each : ∀ item, FailsSilently (check item)) : FailsSilently (items.forM check) := by
  induction items with
  | nil => exact failsSilently_ok _
  | cons item rest ih => exact (each item).bind fun _ => ih

end FailsSilently

/-! ## Effects -/

/-- How a piece of work ends, and the disk then. -/
structure Effect (Result : Type) where
  answer : Except Failure Result
  left : Disk

namespace Effect

variable {First Second : Type}

/-- Work that leaves the disk alone. -/
def idle (disk : Disk) (answer : Except Failure First) : Effect First := ⟨answer, disk⟩

/-- Go on where a piece of work has ended well. -/
def andThen (effect : Effect First) (next : First → Disk → Effect Second) : Effect Second :=
  match effect.answer with
  | .ok value => next value effect.left
  | .error failure => ⟨.error failure, effect.left⟩

/-- The disk that is handed on when the work succeeds. -/
def handed (effect : Effect Unit) : Except Failure Disk := effect.answer.map fun _ => effect.left

theorem idle_ok_andThen (disk : Disk) (value : First) (next : First → Disk → Effect Second) :
    (idle disk (.ok value)).andThen next = next value disk := rfl

theorem answer_andThen (effect : Effect First) (next : First → Disk → Effect Second) :
    (effect.andThen next).answer =
      effect.answer >>= fun value => (next value effect.left).answer := by
  obtain ⟨answer, left⟩ := effect
  cases answer <;> rfl

/-- Handing the disk from one piece of work to the next. -/
theorem handed_andThen (effect : Effect First) (next : First → Disk → Effect Unit) :
    (effect.andThen next).handed =
      effect.answer >>= fun value => (next value effect.left).handed := by
  obtain ⟨answer, left⟩ := effect
  cases answer <;> rfl

theorem handed_eq_ok_iff {effect : Effect Unit} {disk : Disk} :
    effect.handed = .ok disk ↔ effect.answer = .ok () ∧ effect.left = disk := by
  obtain ⟨answer, left⟩ := effect
  cases answer <;> simp [handed, Except.map]

/-- Work that spares a disk step by step spares it. -/
theorem spares_andThen {disk : Disk} {targets : List Place} {effect : Effect First}
    {next : First → Disk → Effect Second} (here : disk.Spares effect.left targets)
    (behind : ∀ (value : First) (left : Disk), left.Spares (next value left).left targets) :
    disk.Spares (effect.andThen next).left targets := by
  obtain ⟨answer, left⟩ := effect
  cases answer with
  | ok value => exact here.trans (behind value left)
  | error failure => exact here

theorem failsSilently_andThen {effect : Effect First} {next : First → Disk → Effect Second}
    (here : FailsSilently effect.answer)
    (behind : ∀ value disk, FailsSilently (next value disk).answer) :
    FailsSilently (effect.andThen next).answer := by
  obtain ⟨answer, left⟩ := effect
  cases answer with
  | ok value => exact behind value left
  | error failure => exact failsSilently_error (here failure rfl)

end Effect

/-! ## Making directories and writing a file -/

namespace Disk

/-- Make directories along names, one after the other. -/
def directoriesEffect (disk : Disk) (place : Place) : List String → Effect Unit
  | [] => .idle disk (.ok ())
  | name :: rest =>
      let next := if name = ".." then place.dropLast else place ++ [name]
      match disk.nodeAt next with
      | some .directory => disk.directoriesEffect next rest
      | some (.file _) =>
          .idle disk (.error (if rest.isEmpty then .fileInTheWay else .notADirectory))
      | none =>
          if isOverlong name then .idle disk (.error .tooLong)
          else (disk.put next .directory).directoriesEffect next rest

theorem handed_directoriesEffect (disk : Disk) (place : Place) (names : List String) :
    (disk.directoriesEffect place names).handed = disk.makeDirectories place names := by
  fun_induction makeDirectories disk place names with
  | case1 => rfl
  | case2 disk place name rest next stands ih =>
      rw [directoriesEffect]
      simp only [next] at stands ih ⊢
      rw [stands]
      exact ih
  | case3 disk place name rest next bytes stands =>
      rw [directoriesEffect]
      simp only [next] at stands ⊢
      rw [stands]
      rfl
  | case4 disk place name rest next free long =>
      rw [directoriesEffect]
      simp only [next] at free ⊢
      rw [free]
      simp only [long, if_true]
      rfl
  | case5 disk place name rest next free short ih =>
      rw [directoriesEffect]
      simp only [next] at free ih ⊢
      rw [free]
      simp only [short]
      exact ih

/-- Directories are only ever made where nothing stands. -/
theorem spares_directoriesEffect (disk : Disk) (place : Place) (names : List String)
    (targets : List Place) : disk.Spares (disk.directoriesEffect place names).left targets := by
  fun_induction directoriesEffect disk place names with
  | case1 disk => exact spares_refl disk targets
  | case2 disk place name rest next stands ih => exact ih
  | case3 disk => exact spares_refl disk targets
  | case4 disk => exact spares_refl disk targets
  | case5 disk place name rest next free short ih =>
      exact (spares_put_directory free targets).trans ih

theorem failsSilently_directoriesEffect (disk : Disk) (place : Place) (names : List String) :
    FailsSilently (disk.directoriesEffect place names).answer := by
  fun_induction directoriesEffect disk place names with
  | case1 => exact failsSilently_ok ()
  | case2 disk place name rest next stands ih => exact ih
  | case3 =>
      refine failsSilently_error ?_
      split <;> rfl
  | case4 => exact failsSilently_error rfl
  | case5 disk place name rest next free short ih => exact ih

/-- Write a file where a path leads. -/
def fileEffect (disk : Disk) (path : Path) (bytes : ByteArray) : Effect Unit :=
  match disk.locate path with
  | .error failure => .idle disk (.error failure)
  | .ok place =>
      match disk.nodeAt place with
      | some .directory => .idle disk (.error .isADirectory)
      | _ => ⟨.ok (), disk.put place (.file bytes)⟩

theorem failsSilently_walk (disk : Disk) (place : Place) (names : List String) :
    FailsSilently (disk.walk place names) := by
  induction names generalizing place with
  | nil => exact failsSilently_ok place
  | cons name rest ih =>
      rw [walk]
      split
      · exact failsSilently_error rfl
      · exact failsSilently_error rfl
      · split
        · exact failsSilently_error rfl
        · exact ih _

theorem failsSilently_locate (disk : Disk) (path : Path) : FailsSilently (disk.locate path) := by
  unfold locate
  split
  · exact failsSilently_error rfl
  · split
    · exact failsSilently_error rfl
    · exact disk.failsSilently_walk [] path.names

theorem spares_fileEffect (disk : Disk) (path : Path) (bytes : ByteArray) :
    disk.Spares (disk.fileEffect path bytes).left [Path.follow [] path.names] := by
  unfold fileEffect
  split
  · exact spares_refl disk _
  · next place located =>
      rw [← eq_follow_of_locate located]
      split
      · exact spares_refl disk _
      · exact spares_put_file disk place bytes

theorem failsSilently_fileEffect (disk : Disk) (path : Path) (bytes : ByteArray) :
    FailsSilently (disk.fileEffect path bytes).answer := by
  unfold fileEffect
  split
  · next failure failed => exact failsSilently_error (disk.failsSilently_locate path failure failed)
  · split
    · exact failsSilently_error rfl
    · exact failsSilently_ok ()

/-- A file is written in its turn when its directories are there. -/
theorem handed_fileEffect {disk prepared : Disk} {path : Path} (bytes : ByteArray)
    (made : disk.makeDirectories [] path.parent.names = .ok prepared) :
    (prepared.fileEffect path bytes).handed = prepared.writeBytes path bytes := by
  unfold fileEffect writeBytes
  rw [makeDirectories_again made]
  simp only [bind, Except.bind]
  cases prepared.locate path with
  | error failure => rfl
  | ok place =>
      cases found : prepared.nodeAt place with
      | none => simp only [found]; rfl
      | some node => cases node <;> simp only [found] <;> rfl

end Disk

/-! ## Exports -/

namespace Export

variable {attention : Attention}

/-- The place of the file of a report. -/
def place (report : Export) (directory : Place) : Place :=
  Path.follow [] (report.target directory).names

/-- Make the directories of a report, check the report, and write its text. -/
def effect (report : Export) (directory : Place) (disk : Disk) : Effect Unit :=
  (disk.directoriesEffect [] (report.target directory).parent.names).andThen fun _ prepared =>
    (Effect.idle prepared report.check).andThen fun _ checked =>
      checked.fileEffect (report.target directory) report.text.toUTF8

/-- What an export comes to is what its effect hands on. -/
theorem result_write (report : Export) (directory : Place) (disk : Disk) :
    (report.write disk directory).result attention = (report.effect directory disk).handed := by
  have steps : (report.write disk directory).result attention = (do
      let prepared ← disk.makeDirectories [] (report.target directory).parent.names
      report.check
      prepared.writeText (report.target directory) report.text >>= pure) := by
    refine Run.result_bind fun prepared => Run.returns_bind (Run.returns_lift _) fun _ =>
      Run.returns_bind (Run.returns_lift _) fun written => ?_
    -- The file stands; what is left is to note it.
    refine (Run.returns_note .info _).bind ?_
    split
    · exact (Run.returns_note .info _).bind (Run.returns_pure written)
    · exact Run.returns_pure written
  rw [steps, effect, Effect.handed_andThen, ← Disk.handed_directoriesEffect]
  have handed := disk.handed_directoriesEffect [] (report.target directory).parent.names
  generalize disk.directoriesEffect [] (report.target directory).parent.names = made at handed ⊢
  obtain ⟨answer, prepared⟩ := made
  cases answer with
  | error failure => rfl
  | ok answer =>
      change report.check >>= _ = (Effect.andThen _ _).handed
      rw [Effect.handed_andThen]
      refine congrArg (report.check >>= ·) (funext fun _ => ?_)
      rw [bind_pure, Effect.idle, Disk.handed_fileEffect _ handed.symm]
      rfl

theorem spares_effect (report : Export) (directory : Place) (disk : Disk) :
    disk.Spares (report.effect directory disk).left [report.place directory] := by
  refine Effect.spares_andThen (disk.spares_directoriesEffect _ _ _) fun _ prepared => ?_
  refine Effect.spares_andThen (prepared.spares_refl _) fun _ checked => ?_
  exact checked.spares_fileEffect _ _

theorem failsSilently_checkShown (value : Value) : FailsSilently value.checkShown := by
  unfold Value.checkShown
  split
  · exact failsSilently_ok ()
  · exact failsSilently_error rfl

theorem failsSilently_checkEntryName (name : Value) : FailsSilently name.checkEntryName := by
  cases name with
  | moment | list | table => exact failsSilently_error rfl
  | null | bool | int | float | undefined | text => exact failsSilently_checkShown _

theorem failsSilently_effect (report : Export) (directory : Place) (disk : Disk) :
    FailsSilently (report.effect directory disk).answer := by
  have checked : FailsSilently report.check :=
    (failsSilently_forM report.names failsSilently_checkEntryName).bind fun _ =>
      failsSilently_checkShown report.body
  refine Effect.failsSilently_andThen (disk.failsSilently_directoriesEffect _ _)
    fun _ prepared => ?_
  refine Effect.failsSilently_andThen checked fun _ left => ?_
  exact left.failsSilently_fileEffect _ _

/-- An export that ended well wrote what it leaves. -/
theorem wrote_of_effect {report : Export} {directory : Place} {disk : Disk}
    (ended : (report.effect directory disk).answer = .ok ()) :
    ((report.write disk directory).outcome .nothing []).1 =
      .ok (report.effect directory disk).left := by
  have handed : (report.effect directory disk).handed = .ok (report.effect directory disk).left :=
    Effect.handed_eq_ok_iff.2 ⟨ended, rfl⟩
  rw [← handed, ← report.result_write directory disk]
  rfl

/-- The file of a report holds its text. -/
def Stands (report : Export) (directory : Place) (disk : Disk) : Prop :=
  disk.HoldsFile (report.target directory) report.text.toUTF8

theorem stands_of_effect {report : Export} {directory : Place} {disk : Disk}
    (ended : (report.effect directory disk).answer = .ok ()) :
    report.Stands directory (report.effect directory disk).left := by
  obtain ⟨prepared, _, _, put⟩ := steps_of_write (wrote_of_effect ended)
  exact (Disk.holdsFile_of_writeBytes put).2

/-- A file stays where nothing is done to its place. -/
theorem Stands.later {report : Export} {directory : Place} {disk later : Disk}
    {targets : List Place} (stands : report.Stands directory disk)
    (keeps : disk.KeepsDirectories later) (spares : disk.Spares later targets)
    (away : report.place directory ∉ targets) : report.Stands directory later := by
  obtain ⟨place, located, found⟩ := bind_eq_ok.1 stands.bytes
  have there : disk.nodeAt place = some (.file report.text.toUTF8) := by
    split at found
    · cases found
    · cases found
    · next bytes here => rw [here, Except.ok.inj found]
  have same : report.place directory = place := (Disk.eq_follow_of_locate located).symm
  have still : later.nodeAt place = some (.file report.text.toUTF8) :=
    spares.nodeAt_eq (same ▸ away) there
  have reached : later.locate (report.target directory) = .ok place :=
    Disk.locate_of_keeps keeps located
  constructor
  case isFile => simp only [Disk.isFile?, reached, still]
  case bytes =>
    refine bind_eq_ok.2 ⟨place, reached, ?_⟩
    rw [still]
    rfl

end Export

/-- Write reports one after the other. -/
def exportsEffect (directory : Place) : List Export → Disk → Effect Unit
  | [], disk => .idle disk (.ok ())
  | report :: rest, disk =>
      (report.effect directory disk).andThen fun _ written => exportsEffect directory rest written

section Exports

variable {attention : Attention} {directory : Place}

/-- **What writing reports comes to is what its effect hands on.** -/
theorem result_writeExports (directory : Place) (reports : List Export) (disk : Disk) :
    (writeExports directory reports disk).result attention =
      (exportsEffect directory reports disk).handed := by
  induction reports generalizing disk with
  | nil => rfl
  | cons report rest ih =>
      have steps : (writeExports directory (report :: rest) disk).result attention =
          (report.write disk directory).result attention >>= fun written =>
            (writeExports directory rest written).result attention :=
        Run.result_bind fun written => settles_writeExports directory rest written
      rw [steps, report.result_write directory disk, exportsEffect, Effect.handed_andThen]
      simp only [ih]
      cases ended : (report.effect directory disk).answer with
      | error failure => simp only [Effect.handed, ended]; rfl
      | ok answer => simp only [Effect.handed, ended]; rfl

/-- **Writing reports spares everything but their places.** -/
theorem spares_exportsEffect (directory : Place) (reports : List Export) (disk : Disk) :
    disk.Spares (exportsEffect directory reports disk).left
      (reports.map fun report => report.place directory) := by
  induction reports generalizing disk with
  | nil => exact disk.spares_refl _
  | cons report rest ih =>
      refine Effect.spares_andThen ?_ fun _ written => ?_
      · refine (report.spares_effect directory disk).mono fun place member => ?_
        rw [List.mem_singleton.1 member]
        exact List.mem_cons_self
      · exact (ih written).mono fun place member => List.mem_cons_of_mem _ member

theorem failsSilently_exportsEffect (directory : Place) (reports : List Export) (disk : Disk) :
    FailsSilently (exportsEffect directory reports disk).answer := by
  induction reports generalizing disk with
  | nil => exact failsSilently_ok ()
  | cons report rest ih =>
      exact Effect.failsSilently_andThen (report.failsSilently_effect directory disk)
        fun _ written => ih written

/-- A list of reports that was written was written report by report. -/
theorem ended_of_exportsEffect_cons {report : Export} {rest : List Export} {disk : Disk}
    (ended : (exportsEffect directory (report :: rest) disk).answer = .ok ()) :
    (report.effect directory disk).answer = .ok () ∧
      exportsEffect directory (report :: rest) disk =
        exportsEffect directory rest (report.effect directory disk).left := by
  cases first : (report.effect directory disk).answer with
  | error failure =>
      rw [exportsEffect, Effect.andThen, first] at ended
      cases ended
  | ok answer =>
      refine ⟨rfl, ?_⟩
      rw [exportsEffect, Effect.andThen, first]

theorem keepsDirectories_exportsEffect {reports : List Export} {disk : Disk}
    (ended : (exportsEffect directory reports disk).answer = .ok ()) :
    disk.KeepsDirectories (exportsEffect directory reports disk).left := by
  induction reports generalizing disk with
  | nil => exact fun _ stood => stood
  | cons report rest ih =>
      obtain ⟨first, same⟩ := ended_of_exportsEffect_cons ended
      rw [same] at ended ⊢
      exact (Export.keepsDirectories_of_write (Export.wrote_of_effect first)).trans (ih ended)

/-- **Reports at different places all stand when they have been written.** -/
theorem stands_of_exportsEffect {reports : List Export} {disk : Disk}
    (ended : (exportsEffect directory reports disk).answer = .ok ())
    (apart : (reports.map fun report => report.place directory).Nodup) :
    ∀ report ∈ reports, report.Stands directory (exportsEffect directory reports disk).left := by
  induction reports generalizing disk with
  | nil => exact nofun
  | cons first rest ih =>
      obtain ⟨here, same⟩ := ended_of_exportsEffect_cons ended
      obtain ⟨away, apart⟩ := List.nodup_cons.1 apart
      rw [same] at ended ⊢
      refine List.forall_mem_cons.2 ⟨?_, ih ended apart⟩
      exact (Export.stands_of_effect here).later (keepsDirectories_exportsEffect ended)
        (spares_exportsEffect directory rest _) away

end Exports

end Triage
