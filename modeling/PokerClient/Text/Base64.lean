import PokerClient.Text.Octets

/-!
# Base 64

Three octets as four letters, in the standard alphabet and in the one for
addresses. Decoding accepts the written form of each list of octets and no
other: bits left over are zero, and padding is whole or absent.
-/

namespace PokerClient
namespace Text
namespace Base64

/-- The last two letters of an alphabet; the others are the same in all. -/
structure Alphabet where
  letter62 : Char
  letter63 : Char

def Alphabet.standard : Alphabet := ⟨'+', '/'⟩

def Alphabet.address : Alphabet := ⟨'-', '_'⟩

/-- The letter of a number below 64. -/
def Alphabet.letter (α : Alphabet) (n : Nat) : Char :=
  if n < 26 then Char.ofNat ('A'.toNat + n)
  else if n < 52 then Char.ofNat ('a'.toNat + (n - 26))
  else if n < 62 then Char.ofNat ('0'.toNat + (n - 52))
  else if n = 62 then α.letter62 else α.letter63

/-- The number of a letter. -/
def Alphabet.value? (α : Alphabet) (c : Char) : Option Nat :=
  if 'A' ≤ c ∧ c ≤ 'Z' then some (c.toNat - 'A'.toNat)
  else if 'a' ≤ c ∧ c ≤ 'z' then some (c.toNat - 'a'.toNat + 26)
  else if '0' ≤ c ∧ c ≤ '9' then some (c.toNat - '0'.toNat + 52)
  else if c = α.letter62 then some 62
  else if c = α.letter63 then some 63
  else none

/-- The letters of octets, without padding. -/
def encode (α : Alphabet) : List Octet → List Char
  | [] => []
  | [a] => [α.letter (a.toNat / 4), α.letter (a.toNat % 4 * 16)]
  | [a, b] =>
    [α.letter (a.toNat / 4), α.letter (a.toNat % 4 * 16 + b.toNat / 16),
      α.letter (b.toNat % 16 * 4)]
  | a :: b :: c :: rest =>
    α.letter (a.toNat / 4) :: α.letter (a.toNat % 4 * 16 + b.toNat / 16)
      :: α.letter (b.toNat % 16 * 4 + c.toNat / 64) :: α.letter (c.toNat % 64) :: encode α rest

/-- The letters of octets, padded to a multiple of four. -/
def encodePadded (α : Alphabet) (bs : List Octet) : List Char :=
  let cs := encode α bs
  cs ++ List.replicate ((4 - cs.length % 4) % 4) '='

/-- The octets of numbers below 64, taken four at a time. -/
def gather : List Nat → Option (List Octet)
  | [] => some []
  | [_] => none
  | [p, q] => if q % 16 = 0 then some [octet (p * 4 + q / 16)] else none
  | [p, q, r] =>
    if r % 4 = 0 then some [octet (p * 4 + q / 16), octet (q % 16 * 16 + r / 4)] else none
  | p :: q :: r :: s :: rest =>
    (gather rest).map fun bs =>
      octet (p * 4 + q / 16) :: octet (q % 16 * 16 + r / 4) :: octet (r % 4 * 64 + s) :: bs

/-- A text without its padding, of which there may be up to two letters if they
complete the length to a multiple of four. -/
def unpadded? (cs : List Char) : Option (List Char) :=
  let body := (cs.reverse.dropWhile (· == '=')).reverse
  let pad := cs.length - body.length
  if pad = 0 ∨ (pad ≤ 2 ∧ cs.length % 4 = 0) then some body else none

def decode? (α : Alphabet) (cs : List Char) : Option (List Octet) :=
  (unpadded? cs).bind fun body => (body.mapM α.value?).bind gather

end Base64
end Text
end PokerClient
