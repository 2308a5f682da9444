/-!
# The calendar

Dates of the Gregorian calendar, which is taken to hold at all times, and their
day numbers. The first day of year 1 has the number zero.
-/

namespace PokerClient
namespace Time

def isLeap (year : Nat) : Bool := year % 4 == 0 && (year % 100 != 0 || year % 400 == 0)

/-- The lengths of the months of a year. -/
def monthLengths (leap : Bool) : List Nat :=
  [31, if leap then 29 else 28, 31, 30, 31, 30, 31, 31, 30, 31, 30, 31]

/-- The count of days in the years from 1 to before `year`. -/
def daysBeforeYear (year : Nat) : Nat :=
  let passed := year - 1
  365 * passed + passed / 4 - passed / 100 + passed / 400

/-- The count of days in the months of a year before the given one. -/
def daysBeforeMonth (leap : Bool) (month : Nat) : Nat :=
  ((monthLengths leap).take (month - 1)).foldl (· + ·) 0

structure Date where
  year : Nat
  month : Nat
  day : Nat
  deriving DecidableEq, Repr

namespace Date

/-- Whether a date has a month and a day that exist. The year is not looked at
beyond the length of its February. -/
def Exists (d : Date) : Prop :=
  1 ≤ d.month ∧ d.month ≤ 12 ∧ 1 ≤ d.day ∧
    d.day ≤ (monthLengths (isLeap d.year)).getD (d.month - 1) 0

instance (d : Date) : Decidable d.Exists := inferInstanceAs (Decidable (_ ∧ _))

def dayNumber (d : Date) : Nat :=
  daysBeforeYear d.year + daysBeforeMonth (isLeap d.year) d.month + (d.day - 1)

end Date

/-- The year of a day. The average length of a year gives it up to one. -/
def yearOfDay (n : Nat) : Nat :=
  let year := 400 * n / 146097 + 1
  if daysBeforeYear (year + 1) ≤ n then year + 1
  else if n < daysBeforeYear year then year - 1
  else year

/-- The month and the day of the month of a day in a year, where the months have
the given lengths and the first of them the number `month`. -/
def monthOfDay : List Nat → Nat → Nat → Nat × Nat
  | [], month, n => (month, n + 1)
  | length :: rest, month, n =>
    if n < length then (month, n + 1) else monthOfDay rest (month + 1) (n - length)

def Date.ofDayNumber (n : Nat) : Date :=
  let year := yearOfDay n
  let (month, day) := monthOfDay (monthLengths (isLeap year)) 1 (n - daysBeforeYear year)
  { year, month, day }

end Time
end PokerClient
