import PokerClient.Time.Moment
import PokerClient.Numeric.Binary64

/-!
# Spans of time

A span is a whole count of microseconds. A number of seconds is cut into its
integral part, which is exact, and its fraction, and their sum is rounded once.
-/

namespace PokerClient
namespace Time

open Numeric

/-- Why a number of seconds is no span. -/
inductive SpanFault where
  | notANumber
  | infinite
  | tooManyDays (days : Int)
  | hugeDays
  deriving DecidableEq, Repr

def SpanFault.describe : SpanFault → String
  | notANumber => "cannot convert float NaN to integer"
  | infinite => "cannot convert float infinity to integer"
  | tooManyDays days => s!"days={days}; must have magnitude <= 999999999"
  | hugeDays => "Python int too large to convert to C int"

namespace Span

def ofSeconds (n : Int) : Span := ⟨n * microsPerSecond⟩

def hours (n : Int) : Span := ofSeconds (n * 3600)

/-- A span of less than a thousand million days. -/
def checked (micros : Int) : Except SpanFault Span :=
  let days := micros / microsPerDay
  if days.natAbs ≤ 999999999 then .ok ⟨micros⟩
  else if days.natAbs < twoTo 31 then .error (.tooManyDays days)
  else .error .hugeDays

/-- The integer nearest to a finite number; a tie goes to the even one. -/
def nearestInt (x : Binary64) : Int :=
  match x.units? with
  | some u =>
    let n : Int := roundHalfEven u.natAbs Binary64.unitsPerOne
    if u < 0 then -n else n
  | none => 0

/-- The span of a number of seconds. -/
def ofNumber (x : Binary64) : Except SpanFault Span :=
  match x.truncate? with
  | some whole =>
    checked (whole * microsPerSecond + nearestInt (x.fraction.mul (Binary64.ofNat microsPerSecond)))
  | none => .error (if x.isNaN then .notANumber else .infinite)

/-- The whole seconds of a span, cut towards zero, of the number of seconds
nearest to it. -/
def seconds (s : Span) : Int :=
  ((Binary64.ofRatio (decide (s.micros < 0)) s.micros.natAbs microsPerSecond).truncate?).getD 0

end Span
end Time
end PokerClient
