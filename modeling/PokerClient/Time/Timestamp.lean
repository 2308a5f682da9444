import PokerClient.Time.Calendar
import PokerClient.Numeric.Decimal

/-!
# Time stamps

A time stamp is the reading of a clock that shows date and time of the years 1
to 9999, kept as the count of microseconds since year 1 began on that clock.
-/

namespace PokerClient
namespace Time

open Numeric

def microsPerSecond : Nat := 1000000

def microsPerDay : Nat := 86400 * microsPerSecond

/-- The count of days in the years 1 to 9999. -/
def dayLimit : Nat := 3652059

theorem daysBeforeYear_ten_thousand : daysBeforeYear 10000 = dayLimit := by decide

structure Timestamp where
  micros : Nat
  micros_lt : micros < dayLimit * microsPerDay
  deriving DecidableEq

namespace Timestamp

instance : Inhabited Timestamp := ⟨⟨0, by decide⟩⟩

/-- The reading at a count of microseconds, if the clock can show it. -/
def ofMicros? (n : Int) : Option Timestamp :=
  match n with
  | .ofNat k => if h : k < dayLimit * microsPerDay then some ⟨k, h⟩ else none
  | .negSucc _ => none

/-- The reading some microseconds later, or earlier when the count is negative. -/
def shift? (t : Timestamp) (micros : Int) : Option Timestamp := ofMicros? (t.micros + micros)

theorem ofMicros?_eq_some_iff {n : Int} {t : Timestamp} : ofMicros? n = some t ↔ n = t.micros := by
  cases n with
  | ofNat k =>
    by_cases h : k < dayLimit * microsPerDay
    · simp only [ofMicros?, h, dite_true, Option.some.injEq]
      constructor
      · rintro rfl
        rfl
      · intro hk
        have hk : k = t.micros := Int.ofNat.inj hk
        subst hk
        rfl
    · simp only [ofMicros?, h, dite_false, reduceCtorEq, false_iff]
      intro hk
      have := t.micros_lt
      simp only [Int.ofNat_eq_natCast] at hk
      omega
  | negSucc k =>
    have : Int.negSucc k ≠ t.micros := by omega
    simp [ofMicros?, this]

theorem ofMicros?_micros (t : Timestamp) : ofMicros? (t.micros : Int) = some t :=
  ofMicros?_eq_some_iff.2 rfl

theorem shift?_eq_some {t t' : Timestamp} {n : Int} (h : t.shift? n = some t') :
    (t'.micros : Int) = t.micros + n := (ofMicros?_eq_some_iff.1 h).symm

@[simp] theorem shift?_zero (t : Timestamp) : t.shift? 0 = some t := by
  simp [shift?, ofMicros?_micros]

/-- The reading at a date and a count of microseconds since midnight. -/
def ofDate? (d : Date) (micros : Nat) : Option Timestamp :=
  if d.year = 0 then none else ofMicros? (d.dayNumber * microsPerDay + micros : Nat)

def date (t : Timestamp) : Date := Date.ofDayNumber (t.micros / microsPerDay)

/-- Whole seconds since midnight. -/
def daySecond (t : Timestamp) : Nat := t.micros % microsPerDay / microsPerSecond

/-- Microseconds since the last whole second. -/
def fraction (t : Timestamp) : Nat := t.micros % microsPerSecond

/-- Date and time with a mark between them. The fraction of the second has six
digits and is left out when it is zero. -/
def write (mark : Char) (t : Timestamp) : List Char :=
  let d := t.date
  let s := t.daySecond
  paddedDigits 4 d.year ++ '-' :: paddedDigits 2 d.month ++ '-' :: paddedDigits 2 d.day
    ++ mark :: paddedDigits 2 (s / 3600) ++ ':' :: paddedDigits 2 (s / 60 % 60)
    ++ ':' :: paddedDigits 2 (s % 60)
    ++ if t.fraction = 0 then [] else '.' :: paddedDigits 6 t.fraction

end Timestamp
end Time
end PokerClient
