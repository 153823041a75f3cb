import Arboretum.Number.Power

/-!
# Elapsed time

A time span with one decimal in the largest unit that it fills.
-/

namespace Arboretum

/-- A number of units in tenths, rounded half up. -/
def tenths (nanos unit : Nat) : String :=
  let n := (10 * nanos + unit / 2) / unit
  toString (n / 10) ++ "." ++ toString (n % 10)

/-- A span of nanoseconds as text. -/
def elapsedText (nanos : Nat) : String :=
  if nanos < tenPow 3 then tenths nanos 1 ++ "ns"
  else if nanos < tenPow 6 then tenths nanos (tenPow 3) ++ "µs"
  else if nanos < tenPow 9 then tenths nanos (tenPow 6) ++ "ms"
  else tenths nanos (tenPow 9) ++ "s"

end Arboretum
