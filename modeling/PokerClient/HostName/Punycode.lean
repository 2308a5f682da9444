import PokerClient.Text.Blank

/-!
# Encoded labels

A label in ASCII that stands for one of other code points: the ASCII characters
of the label come first, behind the last hyphen follow numbers of base 36 in
digits of varying weight, and each number tells the next code point and its place.
The code points come in ascending order, and each number counts the places passed
since the last one.
-/

namespace PokerClient
namespace HostName
namespace Punycode

open Text

/-- The value of a digit: letters come before numerals. -/
def digit? (c : Char) : Option Nat :=
  if 'a' ≤ c ∧ c ≤ 'z' then some (c.toNat - 'a'.toNat)
  else if '0' ≤ c ∧ c ≤ '9' then some (c.toNat - '0'.toNat + 26)
  else none

/-- The least value of a digit at some place that is not the last of its number. -/
def threshold (place bias : Nat) : Nat :=
  let k := 36 * (place + 1)
  if k ≤ bias then 1 else if bias + 26 < k then 26 else k - bias

theorem threshold_pos (place bias : Nat) : 1 ≤ threshold place bias := by
  unfold threshold
  dsimp only
  split
  · exact Nat.le_refl 1
  · split <;> omega

theorem threshold_le (place bias : Nat) : threshold place bias ≤ 26 := by
  unfold threshold
  dsimp only
  split
  · decide
  · split <;> omega

/-- The number at the front, and what follows it. -/
def number? (bias place weight sum : Nat) : List Char → Option (Nat × List Char)
  | [] => none
  | c :: rest =>
    match digit? c with
    | none => none
    | some d =>
      let t := threshold place bias
      if d < t then some (sum + d * weight, rest)
      else number? bias (place + 1) (weight * (36 - t)) (sum + d * weight) rest

/-- The quotient by 35 that is small enough, with 36 for each division. -/
def shrink (delta bias : Nat) : Nat × Nat :=
  if h : 455 < delta then shrink (delta / 35) (bias + 36) else (delta, bias)
termination_by delta
decreasing_by exact Nat.div_lt_self (by omega) (by omega)

/-- The bias after a number, where `count` code points are there by now. -/
def adapted (delta count : Nat) (isFirst : Bool) : Nat :=
  let delta := if isFirst then delta / 700 else delta / 2
  let (delta, bias) := shrink (delta + delta / count) 0
  bias + 36 * delta / (delta + 38)

/-- Puts in the code points that numbers tell. `place` is the place after the last
one put in; each number takes a character at least. -/
def insertAll (isFirst : Bool) (bias last place : Nat) (points : List Nat) :
    Nat → List Char → Option (List Nat)
  | _, [] => some points
  | 0, _ :: _ => none
  | left + 1, cs =>
    match number? bias 0 1 0 cs with
    | none => none
    | some (delta, rest) =>
      let count := points.length + 1
      let point := last + (place + delta) / count
      let place := (place + delta) % count
      if 0x10FFFF < point then none
      else
        insertAll false (adapted delta count isFirst) point (place + 1)
          (points.take place ++ point :: points.drop place) left rest

/-- The code points that a label in small letters stands for. -/
def decode? (cs : List Char) : Option (List Nat) :=
  let (plain, numbers) := (cutAtLast? '-' cs).getD ([], cs)
  insertAll true 72 0x80 0 (plain.map Char.toNat) numbers.length numbers

/-- The digit of a value. -/
def digitOf (n : Nat) : Char :=
  if n < 26 then Char.ofNat ('a'.toNat + n) else Char.ofNat ('0'.toNat + (n - 26))

/-- The digits of a number, from some place on. -/
def digitsFrom (bias place n : Nat) : List Char :=
  let t := threshold place bias
  if n < t then [digitOf n]
  else digitOf (t + (n - t) % (36 - t)) :: digitsFrom bias (place + 1) ((n - t) / (36 - t))
termination_by n
decreasing_by
  have hpos := threshold_pos place bias
  exact Nat.lt_of_le_of_lt (Nat.div_le_self ..) (by omega)

/-- How far a label is written: the digits so far, the places passed since then, the
bias, and the code points that are told. -/
structure Written where
  digits : List Char
  passed : Nat
  bias : Nat
  count : Nat

/-- Goes past a code point of a label with `plain` characters in ASCII, where those
that equal `m` are told. -/
def pass (plain m : Nat) (w : Written) (point : Nat) : Written :=
  if point < m then { w with passed := w.passed + 1 }
  else if point = m then
    { digits := w.digits ++ digitsFrom w.bias 0 w.passed
      passed := 0
      bias := adapted w.passed (w.count + 1) (w.count == plain)
      count := w.count + 1 }
  else w

/-- Tells the code points of a label one after the other. `next` is the least one that
can still come. -/
def tellAll (label : List Nat) (plain next : Nat) (w : Written) : List Nat → Written
  | [] => w
  | m :: rest =>
    let start := { w with passed := w.passed + (m - next) * (w.count + 1) }
    let told := label.foldl (pass plain m) start
    tellAll label plain (m + 1) { told with passed := told.passed + 1 } rest

/-- Puts a code point among others in ascending order, each of which is there once. -/
def insertPoint (m : Nat) : List Nat → List Nat
  | [] => [m]
  | n :: rest =>
    if m < n then m :: n :: rest else if m = n then n :: rest else n :: insertPoint m rest

/-- The code points of a label outside ASCII, in ascending order. -/
def foreignPoints (label : List Nat) : List Nat :=
  (label.filter (0x80 ≤ ·)).foldr insertPoint []

/-- The label in ASCII that stands for code points. -/
def encode (label : List Nat) : List Char :=
  let plain := (label.filter (· < 0x80)).map Char.ofNat
  let start := { digits := [], passed := 0, bias := 72, count := plain.length }
  (if plain.isEmpty then [] else plain ++ ['-']) ++
    (tellAll label plain.length 0x80 start (foreignPoints label)).digits

end Punycode
end HostName
end PokerClient
