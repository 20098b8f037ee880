import Triage.Proofs.Disk.Writing
import Triage.Proofs.Json.RoundTrip
import Triage.Proofs.Run
import Triage.Report.Export

/-!
# What an export leaves behind

An export that succeeds has made the directories above its file, has checked the report, and
has written its text (`Export.steps_of_write`), so the text is what a reader of the file sees
(`Export.readText_of_write`).  It does succeed when the report can be written and the file
can (`Export.returns_write`).  A disk that was a tree before its reports were exported is a tree
afterwards (`isTree_of_writeExports`).
-/

namespace Triage

set_option autoImplicit false

namespace Export

variable {report : Export} {disk written : Disk} {directory : Place} {attention : Attention}
  {notes : List Note}

/-- The path of the file of a report that is seen from a directory. -/
def target (report : Export) (directory : Place) : Path :=
  (Path.ofPlace directory).join report.path

/-- What an export that succeeded has done. -/
theorem steps_of_write
    (wrote : ((report.write disk directory).outcome attention notes).1 = .ok written) :
    ∃ prepared, disk.makeDirectories [] (report.target directory).parent.names = .ok prepared ∧
      report.check = .ok () ∧
      prepared.writeText (report.target directory) report.text = .ok written := by
  unfold write at wrote
  obtain ⟨prepared, noted, made, wrote⟩ := Run.ok_of_lift_bind wrote
  obtain ⟨_, noted, checked, wrote⟩ := Run.ok_of_lift_bind wrote
  obtain ⟨result, noted, wrote, further⟩ := Run.ok_of_lift_bind wrote
  obtain ⟨_, noted, _, further⟩ := Run.ok_of_bind further
  have same : result = written := by
    split at further
    · obtain ⟨_, noted, _, further⟩ := Run.ok_of_bind further
      exact Run.ok_of_pure further
    · exact Run.ok_of_pure further
  exact ⟨prepared, made, checked, same ▸ wrote⟩

/-- An export keeps the directories of the disk. -/
theorem keepsDirectories_of_write
    (wrote : ((report.write disk directory).outcome attention notes).1 = .ok written) :
    disk.KeepsDirectories written := by
  obtain ⟨prepared, made, _, put⟩ := steps_of_write wrote
  exact (Disk.keepsDirectories_makeDirectories made).trans (Disk.holdsFile_of_writeBytes put).1

/-- **The text of a report is what a reader of its file sees.** -/
theorem readText_of_write
    (wrote : ((report.write disk directory).outcome attention notes).1 = .ok written) :
    written.isFile? (report.target directory) = .ok true ∧
      written.readText (report.target directory) =
        .ok (String.ofList (Text.unifyLineEnds report.text.toList)) := by
  obtain ⟨prepared, _, _, put⟩ := steps_of_write wrote
  exact Disk.readText_of_writeText put

/-- **An export leaves a tree.** -/
theorem isTree_of_write (tree : disk.IsTree) (seen : (Path.ofPlace directory).IsParsed)
    (parsed : report.path.IsParsed)
    (wrote : ((report.write disk directory).outcome attention notes).1 = .ok written) :
    written.IsTree := by
  obtain ⟨prepared, made, _, put⟩ := steps_of_write wrote
  rw [Disk.writeText_prepared made] at put
  exact tree.writeBytes (seen.join parsed) (Path.isAbsolute_join rfl) put

/-- **A report is exported** when it passes its check and its file can be written. -/
theorem returns_write (checked : report.check = .ok ())
    (writable : Decided (disk.writeText (report.target directory) report.text)) :
    ∃ written, (report.write disk directory).Returns attention (.ok written) := by
  obtain ⟨written, wrote⟩ := writable
  obtain ⟨prepared, made, _⟩ := bind_eq_ok.1 wrote
  have put := (Disk.writeText_prepared made report.text).trans wrote
  refine ⟨written, ?_⟩
  unfold target at made put
  unfold write
  dsimp only
  rw [made, checked]
  refine (Run.returns_lift _).bind ((Run.returns_lift _).bind ?_)
  rw [put]
  refine (Run.returns_lift _).bind ((Run.returns_note .info _).bind ?_)
  split
  · exact (Run.returns_note .info _).bind (Run.returns_pure written)
  · exact Run.returns_pure written

/-- What is written does not depend on what was noted before. -/
theorem settles_write (report : Export) (disk : Disk) (directory : Place) :
    (report.write disk directory).Settles attention := by
  refine (Run.settles_lift _).bind fun _ => (Run.settles_lift _).bind fun _ =>
    (Run.settles_lift _).bind fun written => (Run.settles_note .info _).bind fun _ => ?_
  split
  · exact (Run.settles_note .info _).bind fun _ => Run.settles_pure written
  · exact Run.settles_pure written

end Export

/-- **What is left by exports that succeed is a tree** when the disk was one before. -/
theorem isTree_of_writeExports {attention : Attention} {notes : List Note} {directory : Place}
    (seen : (Path.ofPlace directory).IsParsed) {reports : List Export}
    (parsed : ∀ report ∈ reports, report.path.IsParsed) {disk written : Disk} (tree : disk.IsTree)
    (wrote : ((writeExports directory reports disk).outcome attention notes).1 = .ok written) :
    written.IsTree := by
  induction reports generalizing disk notes with
  | nil => exact Run.ok_of_pure wrote ▸ tree
  | cons report rest ih =>
      obtain ⟨next, noted, here, further⟩ := Run.ok_of_bind wrote
      have reached := Export.isTree_of_write tree seen (parsed report List.mem_cons_self) here
      exact ih (fun other member => parsed other (List.mem_cons_of_mem _ member)) reached further

theorem settles_writeExports {attention : Attention} (directory : Place) (reports : List Export)
    (disk : Disk) : (writeExports directory reports disk).Settles attention := by
  induction reports generalizing disk with
  | nil => exact Run.settles_pure disk
  | cons report rest ih => exact (report.settles_write disk directory).bind ih

end Triage
