import PokerClient.Time.Timestamp

/-!
# Moments

A moment is a time stamp together with how far its clock is ahead of universal
time, which need not be known. Moments whose clocks are both placed compare by
the instants they denote. There are clocks that are put forward and back in the
course of a year, so that their offset depends on what they show.
-/

namespace PokerClient
namespace Time

open Numeric

/-- How far a clock is ahead of universal time, in microseconds. -/
structure Offset where
  micros : Int
  deriving DecidableEq

namespace Offset

def ofSeconds (n : Int) : Offset := ⟨n * microsPerSecond⟩

/-- A numeral counts seconds. -/
instance (n : Nat) : OfNat Offset n := ⟨ofSeconds n⟩

end Offset

/-- A clock that is placed, by how its offset follows from what it shows. -/
inductive Clock where
  /-- Whatever the clock shows, the offset stays. -/
  | fixed
  /-- The offset at first, and those that hold from some readings on, in order. -/
  | changing (first : Offset) (changes : List (Timestamp × Offset))
  deriving DecidableEq

structure Moment where
  wall : Timestamp
  offset : Option Offset
  clock : Clock := .fixed
  deriving DecidableEq

instance : Inhabited Moment := ⟨{ wall := default, offset := none }⟩

/-- A span of time in microseconds. -/
structure Span where
  micros : Int
  deriving DecidableEq

namespace Moment

def ofUtc (t : Timestamp) : Moment := { wall := t, offset := some ⟨0⟩ }

/-- The microseconds of universal time since year 1 began in it. -/
def instant? (m : Moment) : Option Int :=
  m.offset.map fun o => (m.wall.micros : Int) - o.micros

/-- The moment on a clock in universal time. A clock that is not placed is taken
to show universal time. There is none if the years 1 to 9999 are left. -/
def toUtc? (m : Moment) : Option Timestamp :=
  m.wall.shift? (-(m.offset.getD ⟨0⟩).micros)

@[simp] theorem instant?_ofUtc (t : Timestamp) : (ofUtc t).instant? = some (t.micros : Int) := by
  simp [ofUtc, instant?]

@[simp] theorem toUtc?_ofUtc (t : Timestamp) : (ofUtc t).toUtc? = some t := by
  simp [ofUtc, toUtc?]

/-- The offset of the clock of a moment when it shows a reading. -/
def offsetAt (m : Moment) (wall : Timestamp) : Option Offset :=
  match m.clock with
  | .fixed => m.offset
  | .changing first changes =>
    m.offset.map fun _ => changes.foldl
      (fun offset change => if change.1.micros ≤ wall.micros then change.2 else offset) first

/-- The moment at which the same clock shows a reading a span later. It is the span
that passes between the two if the offset has not changed. -/
def add? (m : Moment) (s : Span) : Option Moment :=
  (m.wall.shift? s.micros).map fun wall => { m with wall, offset := m.offsetAt wall }

theorem offsetAt_fixed {m : Moment} (h : m.clock = .fixed) (wall : Timestamp) :
    m.offsetAt wall = m.offset := by
  rw [offsetAt, h]

@[simp] theorem isSome_offsetAt (m : Moment) (wall : Timestamp) :
    (m.offsetAt wall).isSome = m.offset.isSome := by
  unfold offsetAt
  split
  · rfl
  · exact Option.isSome_map

theorem offset_add? {m m' : Moment} {s : Span} (h : m.add? s = some m') :
    m'.offset = m.offsetAt m'.wall := by
  obtain ⟨wall, -, rfl⟩ := Option.map_eq_some_iff.1 h
  rfl

/-- The clock is set forward by the span, and its instant by what is left of the span
when the offset has grown. -/
theorem instant?_add? {m m' : Moment} {s : Span} {n : Int} (h : m.add? s = some m')
    (hn : m.instant? = some n) :
    ∃ before after, m.offset = some before ∧ m'.offset = some after ∧
      m'.instant? = some (n + s.micros - (after.micros - before.micros)) := by
  obtain ⟨before, hbefore, rfl⟩ := Option.map_eq_some_iff.1 hn
  have hplaced : m'.offset.isSome := by
    rw [offset_add? h, isSome_offsetAt, hbefore]
    rfl
  obtain ⟨after, hafter⟩ := Option.isSome_iff_exists.1 hplaced
  refine ⟨before, after, hbefore, hafter, Option.map_eq_some_iff.2 ⟨after, hafter, ?_⟩⟩
  obtain ⟨wall, hwall, rfl⟩ := Option.map_eq_some_iff.1 h
  have hmicros := Timestamp.shift?_eq_some hwall
  dsimp only
  omega

/-- A clock whose offset stays is set forward by the span, and so is its instant. -/
theorem instant?_add?_fixed {m m' : Moment} {s : Span} {n : Int} (hfixed : m.clock = .fixed)
    (h : m.add? s = some m') (hn : m.instant? = some n) :
    m'.instant? = some (n + s.micros) := by
  obtain ⟨before, after, hbefore, hafter, hinstant⟩ := instant?_add? h hn
  have hsame : some after = some before := by
    rw [← hafter, offset_add? h, offsetAt_fixed hfixed, hbefore]
  cases hsame
  rw [hinstant]
  exact congrArg some (by omega)

/-- In universal time a moment has the reading of its instant. -/
theorem toUtc?_eq_some {m : Moment} {t : Timestamp} {n : Int} (h : m.toUtc? = some t)
    (hn : m.instant? = some n) : (t.micros : Int) = n := by
  obtain ⟨offset, hoffset, rfl⟩ := Option.map_eq_some_iff.1 hn
  have hmicros := Timestamp.shift?_eq_some h
  rw [hoffset, Option.getD_some] at hmicros
  omega

/-- An offset as a sign, hours and minutes, and seconds and microseconds if there are any. -/
def writeOffset (o : Offset) : List Char :=
  let n := o.micros.natAbs / microsPerSecond
  let fraction := o.micros.natAbs % microsPerSecond
  (if o.micros < 0 then '-' else '+') :: paddedDigits 2 (n / 3600) ++
    ':' :: paddedDigits 2 (n / 60 % 60) ++
    if n % 60 = 0 ∧ fraction = 0 then []
    else ':' :: paddedDigits 2 (n % 60) ++
      if fraction = 0 then [] else '.' :: paddedDigits 6 fraction

def write (mark : Char) (m : Moment) : List Char :=
  m.wall.write mark ++ match m.offset with
    | some o => writeOffset o
    | none => []

/-- The moment in the standard form, with a letter between date and time. -/
def text (m : Moment) : String := String.ofList (m.write 'T')

/-- The moment with a space between date and time. -/
def spacedText (m : Moment) : String := String.ofList (m.write ' ')

end Moment

/-- The time stamp of a clock in universal time, marked as such by a letter. -/
def Timestamp.utcText (t : Timestamp) : String := String.ofList (t.write 'T' ++ ['Z'])

end Time
end PokerClient
