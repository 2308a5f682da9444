import PokerClient.Time.Timestamp
import PokerClient.Numeric.Binary64

/-!
# Counted time

A number as a count of seconds since the year 1970 began in universal time. A
count too large for seconds is one of milliseconds. An instant is given in
microseconds since year 1 began, whether or not a clock can show it.
-/

namespace PokerClient
namespace Time

open Numeric

/-- The seconds from the start of year 1 to the start of 1970. -/
def epochSeconds : Int := 719162 * 86400

/-- The greatest count that is read as seconds. -/
def secondsLimit : Nat := 20000000000

/-- The microseconds of a unit of counting. -/
def unitMicros (isSeconds : Bool) : Nat := if isSeconds then microsPerSecond else 1000

/-- The instant of a count of seconds, or of milliseconds. -/
def instantOfCount (count : Int) : Int :=
  epochSeconds * microsPerSecond + count * unitMicros (count.natAbs ≤ secondsLimit)

/-- Whether a number is not too large for a count of seconds. -/
def countsSeconds (x : Binary64) : Bool :=
  x.units?.any fun u => u.natAbs ≤ secondsLimit * Binary64.unitsPerOne

/-- The integer nearest to a number that is not negative. -/
def nearest (x : Binary64) : Nat :=
  match x.units? with
  | some u => roundHalfUp u.natAbs Binary64.unitsPerOne
  | none => 0

/-- The instant of a number: the whole units not above it, and what it has beyond
them to the nearest microsecond, which may make up one more unit. -/
def instantOfNumber? (x : Binary64) : Option Int :=
  let unit := unitMicros (countsSeconds x)
  x.floor?.map fun whole =>
    epochSeconds * microsPerSecond + whole * unit
      + nearest ((x.sub (Binary64.ofInt whole)).mul (Binary64.ofNat unit))

/-- Whether an instant is in the year before year 1. -/
def inYearZero (instant : Int) : Bool := -(366 * microsPerDay : Int) ≤ instant && instant < 0

end Time
end PokerClient
