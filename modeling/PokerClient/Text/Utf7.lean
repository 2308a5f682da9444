import PokerClient.Numeric.Power
import PokerClient.Text.Base64
import PokerClient.Text.Wide

/-!
# UTF-7

ASCII octets stand for themselves, but for a plus sign. Between it and the first
octet that is no letter of base 64 stand the units of 16 bits of a text; a minus
sign behind them belongs to them.
-/

namespace PokerClient
namespace Text
namespace Utf7

open Numeric

/-- Where reading stands in a stretch of units. -/
structure Shift where
  /-- The count of bits that are read and make up no unit yet. -/
  bits : Nat
  value : Nat
  /-- The first half of a character of two units. -/
  high : Option Nat
  deriving DecidableEq, Repr

namespace Shift

def start : Shift := ⟨0, 0, none⟩

/-- The characters that a unit completes. Half a character is none. -/
def take (s : Shift) (unit : Nat) : List Char × Shift :=
  let lost := if s.high.isSome then [replacement] else []
  match s.high, Wide.isLow unit with
  | some high, true => ([Char.ofNat (Wide.pair high unit)], { s with high := none })
  | _, isLow =>
    if Wide.isHigh unit then (lost, { s with high := some unit })
    else (lost ++ [if isLow then replacement else Char.ofNat unit], { s with high := none })

/-- The characters that six more bits complete. -/
def add (s : Shift) (n : Nat) : List Char × Shift :=
  let value := s.value * 64 + n
  if s.bits < 10 then ([], { s with bits := s.bits + 6, value })
  else
    let left := s.bits - 10
    Shift.take { s with bits := left, value := value % twoTo left } (value / twoTo left)

/-- Whether bits are left over that are no padding. -/
def isTorn (s : Shift) : Bool := 6 ≤ s.bits || s.value != 0

end Shift

/-- The number of an octet that is a letter of base 64. -/
def value? (b : Octet) : Option Nat := Base64.Alphabet.standard.value? (Char.ofNat b.toNat)

/-- The character of an octet that stands for itself. -/
def plain (b : Octet) : Char := if b.toNat < 0x80 then Char.ofNat b.toNat else replacement

def minus : Octet := 0x2D

def plus : Octet := 0x2B

/-- The text of octets, with replacement characters for what is no text. -/
def decodeFrom : Option Shift → List Octet → List Char
  | none, [] => []
  | some s, [] => if s.isTorn || s.high.isSome then [replacement] else []
  | some s, b :: rest =>
    match value? b with
    | some n => (s.add n).1 ++ decodeFrom (some (s.add n).2) rest
    | none =>
      if s.isTorn then replacement :: decodeFrom none rest
      else
        (if s.high.isSome && b.toNat < 0x80 then [replacement] else []) ++
          (if b = minus then [] else [plain b]) ++ decodeFrom none rest
  | none, b :: rest =>
    if b = plus then
      match rest with
      | c :: more =>
        if c = minus then '+' :: decodeFrom none more
        else if (value? c).isSome then decodeFrom (some .start) (c :: more)
        else replacement :: decodeFrom none more
      | [] => []
    else plain b :: decodeFrom none rest

def decodeRepaired (bs : List Octet) : List Char := decodeFrom none bs

end Utf7
end Text
end PokerClient
