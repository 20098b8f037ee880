import Triage.Proofs.Glob
import Triage.Proofs.Textual

/-!
# Globs that select at any depth

A path is compared with the globs of a subsystem when its backslashes have been written as
slashes.  A glob selects the whole of it, and one with the any-depth mark in front has a second
try without the mark; the first try needs a slash somewhere in the path, and the second none.
Together they select at every depth and nowhere else: the path itself, or what stands behind one
of its slashes, is what the rest of the glob stands for (`globSelects_anyDepth_iff`).

A list of globs selects what one of them selects alone, and which paths those are is always known
(`globs_select_at_every_depth`).
-/

namespace Triage

set_option autoImplicit false

variable {Number : Type}

/-- A path at some depth: the whole of it, or what stands behind one of its slashes. -/
def Path.IsAtDepth (part path : List Char) : Prop :=
  part = path ∨ ∃ before, path = before ++ '/' :: part

namespace Subsystem

/-- **A glob selects a path** as it is, or without the any-depth mark in front of it. -/
theorem globSelects_iff {path glob : List Char} :
    globSelects path glob = true ↔
      Glob.Fits (Glob.pieces glob) path ∨
        ∃ rest, glob = anyDepth.toList ++ rest ∧ Glob.Fits (Glob.pieces rest) path := by
  rw [globSelects, Bool.or_eq_true, Bool.and_eq_true, Glob.matchesChars_iff, Glob.matchesChars_iff,
    List.isPrefixOf_iff_prefix]
  refine or_congr_right ?_
  constructor
  · rintro ⟨⟨rest, rfl⟩, fits⟩
    exact ⟨rest, rfl, fits⟩
  · rintro ⟨rest, rfl, fits⟩
    exact ⟨List.prefix_append _ _, fits⟩

/-- **Behind the any-depth mark a glob selects at every depth.** -/
theorem globSelects_anyDepth_iff {path glob : List Char} :
    globSelects path (anyDepth.toList ++ glob) = true ↔
      ∃ part, Path.IsAtDepth part path ∧ Glob.Fits (Glob.pieces glob) part := by
  have marked : anyDepth.toList ++ glob = '*' :: '*' :: '/' :: glob := rfl
  rw [globSelects_iff, marked, Glob.fits_anyDirectory_iff]
  constructor
  · rintro (⟨before, part, parted, fits⟩ | ⟨rest, same, fits⟩)
    · exact ⟨part, .inr ⟨before, parted⟩, fits⟩
    · obtain rfl : glob = rest := List.append_cancel_left (marked.trans same)
      exact ⟨path, .inl rfl, fits⟩
  · rintro ⟨part, rfl | ⟨before, parted⟩, fits⟩
    · exact .inr ⟨glob, rfl, fits⟩
    · exact .inl ⟨before, part, parted, fits⟩

/-- A subsystem with other globs. -/
def withGlobs (subsystem : Subsystem Number) (globs : List String) : Subsystem Number :=
  { subsystem with globs := textValues globs }

/-- It is always known whether one of a list of globs selects a path. -/
theorem matchesPath?_withGlobs (subsystem : Subsystem Number) (globs : List String)
    (path : String) :
    (subsystem.withGlobs globs).matchesPath? (.text path) =
      .ok (globs.any fun glob => globSelects (Text.slashed path).toList glob.toList) := by
  have written : Text.substitute '\\' '/' path.toList = (Text.slashed path).toList :=
    String.toList_ofList.symm
  change (textValues globs).anyM (globSelects? (Text.substitute '\\' '/' path.toList)) = _
  rw [written]
  exact anyM_textValues (fun _ => rfl) globs

/-- **Globs select at every depth, each for itself.** A glob behind the any-depth mark selects a
path when it stands for the whole of it or for what is behind one of its slashes, and a list of
globs selects a path when one of them does so alone. -/
theorem globs_select_at_every_depth (subsystem : Subsystem Number) (path : String) :
    (∀ glob : String, ∃ answer,
      (subsystem.withGlobs [anyDepth ++ glob]).matchesPath? (.text path) = .ok answer ∧
        (answer = true ↔ ∃ part, Path.IsAtDepth part (Text.slashed path).toList ∧
          Glob.Fits (Glob.pieces glob.toList) part)) ∧
    ∀ globs : List String, ∃ answer,
      (subsystem.withGlobs globs).matchesPath? (.text path) = .ok answer ∧
        (answer = true ↔ ∃ glob ∈ globs,
          (subsystem.withGlobs [glob]).matchesPath? (.text path) = .ok true) := by
  constructor
  · intro glob
    refine ⟨_, matchesPath?_withGlobs subsystem _ path, ?_⟩
    rw [List.any_cons, List.any_nil, Bool.or_false, String.toList_append]
    exact globSelects_anyDepth_iff
  · intro globs
    refine ⟨_, matchesPath?_withGlobs subsystem globs path, ?_⟩
    rw [List.any_eq_true]
    refine exists_congr fun glob => and_congr_right fun _ => ?_
    rw [matchesPath?_withGlobs, Except.ok.injEq, List.any_cons, List.any_nil, Bool.or_false]

/-- The mark stands for no directory, one or several, but never for a part of a name. -/
example :
    ["Billing.ts", "src\\Billing.ts", "src/deep/Billing.ts", "src/myBilling.ts"].map
        (fun path => globSelects (Text.slashed path).toList "**/Bill*.ts".toList) =
      [true, true, true, false] := by decide

end Subsystem

end Triage
