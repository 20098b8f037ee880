import Triage.OrderedMap

/-!
# Fresh identifiers

Identifiers are made from bases that may repeat.  A table keeps, for every identifier
that is taken, how often it has been asked for.  A base that is free is taken as it
is; for a base that is taken the numbers after its count are tried, one after the
other, until base and number together are free.
-/

namespace Triage

set_option autoImplicit false

/-- The taken identifiers and how often each has been asked for. -/
abbrev TakenIdentifiers := OrderedMap String Int

namespace TakenIdentifiers

/-- A base with a number behind it. -/
def numbered (base : String) (number : Int) : String := base ++ "_" ++ toString number

/-- The first number from `number` on that makes a free identifier; of as many
candidates as there are taken identifiers, and one more, one is free. -/
def firstFree (taken : TakenIdentifiers) (base : String) : Nat → Int → Int
  | 0, number => number
  | fuel + 1, number =>
      if taken.contains (numbered base number) then firstFree taken base fuel (number + 1)
      else number

/-- A free identifier made from a base, and the table in which it is taken. -/
def fresh (taken : TakenIdentifiers) (base : String) : String × TakenIdentifiers :=
  let count := (taken.find? base).getD 0 + 1
  let counted := taken.insert base count
  if count = 1 then (base, counted)
  else
    let number := firstFree counted base (counted.size + 1) count
    let candidate := numbered base number
    (candidate, (counted.insert base number).insert candidate 1)

end TakenIdentifiers

end Triage
