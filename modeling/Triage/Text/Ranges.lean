/-!
# Ranges of code points

A property of characters that a standard tabulates is kept as a list of closed
ranges of code points in increasing order, and a character has the property when
its code point lies in one of them.  ASCII characters never reach a table: each
property states its ASCII part by itself, so that facts about ASCII text need no
table at all.
-/

namespace Triage.Text

set_option autoImplicit false

/-- Whether the code point of `c` lies in one of the closed ranges. -/
def inRanges (ranges : Array (Nat × Nat)) (c : Char) : Bool :=
  ranges.any fun range => range.1 ≤ c.toNat && c.toNat ≤ range.2

/-- Whether `c` is one of the first 128 code points. -/
def isAscii (c : Char) : Bool := c.toNat < 128

end Triage.Text
