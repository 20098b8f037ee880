/-!
# Limits

A limit keeps the first elements of a list.  A negative limit keeps all but as many
of the last ones.
-/

namespace Triage

set_option autoImplicit false

/-- The first `limit` elements, or all but the last ones for a negative limit. -/
def takeLimited {Element : Type} (limit : Int) (elements : List Element) : List Element :=
  if 0 ≤ limit then elements.take limit.toNat
  else elements.take (elements.length - limit.natAbs)

/-- A limit that is not negative keeps a beginning of that length. -/
theorem takeLimited_of_nonneg {Element : Type} (limit : Int) (elements : List Element)
    (nonneg : 0 ≤ limit) : takeLimited limit elements = elements.take limit.toNat := by
  simp [takeLimited, nonneg]

end Triage
