import PokerClient.Time.Moment
import PokerClient.Time.Epoch

/-!
# Moments in text

A moment is written as a date, a mark, a time of day and how far its clock is
ahead of universal time, which may be left out. A bare date stands for its
midnight and a bare number for a count of seconds.
-/

namespace PokerClient
namespace Time

open Numeric

/-- Why a text or a number is no moment. -/
inductive MomentFault where
  | unreadable
  | outOfRange
  deriving DecidableEq, Repr

/-- The number of exactly `count` digits at the front of a text. -/
def readDigits? (count : Nat) (cs : List Char) : Option (Nat × List Char) :=
  let ds := cs.take count
  if ds.length = count ∧ ds.all isDigit then some (natOfDigits ds, cs.drop count) else none

/-- The text after a given character. -/
def after? (c : Char) : List Char → Option (List Char)
  | d :: rest => if d = c then some rest else none
  | [] => none

/-- A date that exists. -/
def readDate? (cs : List Char) : Option (Date × List Char) := do
  let (year, rest) ← readDigits? 4 cs
  let (month, rest) ← readDigits? 2 (← after? '-' rest)
  let (day, rest) ← readDigits? 2 (← after? '-' rest)
  let date : Date := { year, month, day }
  if date.Exists then some (date, rest) else none

/-- The microseconds that the digits after a point stand for; those past the
sixth digit are dropped. -/
def microsOfDigits (ds : List Char) : Nat :=
  natOfDigits (ds.take 6) * tenTo (6 - ds.length)

/-- A fraction of a second in microseconds, zero if there is none. -/
def readFraction? : List Char → Option (Nat × List Char)
  | [] => some (0, [])
  | c :: rest =>
    if c = '.' ∨ c = ',' then
      let ds := rest.takeWhile isDigit
      if ds.isEmpty then none else some (microsOfDigits ds, rest.dropWhile isDigit)
    else some (0, c :: rest)

/-- The seconds of a minute with their fraction, in microseconds; both may be
left out. -/
def readSeconds? : List Char → Option (Nat × List Char)
  | ':' :: rest => do
    let (second, rest) ← readDigits? 2 rest
    let (fraction, rest) ← readFraction? rest
    if second < 60 then some (second * microsPerSecond + fraction, rest) else none
  | rest => some (0, rest)

/-- A time of day in microseconds. -/
def readTime? (cs : List Char) : Option (Nat × List Char) := do
  let (hour, rest) ← readDigits? 2 cs
  let (minute, rest) ← readDigits? 2 (← after? ':' rest)
  let (seconds, rest) ← readSeconds? rest
  if hour < 24 ∧ minute < 60 then
    some ((hour * 60 + minute) * 60 * microsPerSecond + seconds, rest)
  else none

/-- An offset from universal time, after its sign. -/
def readOffset? (negative : Bool) (cs : List Char) : Option Offset := do
  let (hour, rest) ← readDigits? 2 cs
  let (minute, rest) ← readDigits? 2 ((after? ':' rest).getD rest)
  let seconds : Int := (hour * 60 + minute) * 60
  if hour < 24 ∧ minute < 60 ∧ rest = [] then
    some (.ofSeconds (if negative then -seconds else seconds))
  else none

/-- What a moment ends with: an offset, a letter for universal time, or nothing. -/
def readZone? : List Char → Option (Option Offset)
  | [] => some none
  | c :: rest =>
    if c = 'Z' ∨ c = 'z' then if rest = [] then some (some 0) else none
    else if c = '+' then (readOffset? false rest).map some
    else if c = '-' ∨ c = '\u2212' then (readOffset? true rest).map some
    else none

/-- The mark between date and time. -/
def isTimeMark (c : Char) : Bool := c == 'T' || c == 't' || c == ' ' || c == '_'

/-- The parts of a full text of a moment. -/
def readParts? (cs : List Char) : Option (Date × Nat × Option Offset) := do
  let (date, rest) ← readDate? cs
  match rest with
  | [] => none
  | mark :: rest =>
    if isTimeMark mark then do
      let (micros, rest) ← readTime? rest
      let offset ← readZone? rest
      some (date, micros, offset)
    else none

/-- The instant of a numeral that counts seconds. Its integral part takes at most
63 bits, and an exponent needs a point before it. -/
def readCount? (cs : List Char) : Option Int :=
  let (negative, rest) := splitSign cs
  let whole := rest.takeWhile isDigit
  let n := natOfDigits whole
  if twoTo 63 ≤ n then none
  else match rest.dropWhile isDigit with
    | [] =>
      if whole.isEmpty then none else some (instantOfCount (if negative then -(n : Int) else n))
    | '.' :: _ => (Decimal.unsigned? negative rest).bind fun d => instantOfNumber? d.toBinary64
    | _ => none

/-- A bare date. -/
def readBareDate? (cs : List Char) : Option Date :=
  match readDate? cs with
  | some (date, []) => some date
  | _ => none

/-- The moment that a text stands for. -/
def Moment.ofText (cs : List Char) : Except MomentFault Moment :=
  match readParts? cs with
  | some (date, micros, offset) =>
    match Timestamp.ofDate? date micros with
    | some wall => .ok { wall, offset }
    | none => .error .outOfRange
  | none =>
    match readCount? cs with
    | some instant =>
      match Timestamp.ofMicros? instant with
      | some wall => .ok (.ofUtc wall)
      | none => .error (if inYearZero instant then .outOfRange else .unreadable)
    | none =>
      match readBareDate? cs with
      | some date =>
        match Timestamp.ofDate? date 0 with
        | some wall => .ok { wall, offset := none }
        | none => .error .outOfRange
      | none => .error .unreadable

end Time
end PokerClient
