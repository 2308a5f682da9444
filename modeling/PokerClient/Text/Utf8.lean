import PokerClient.Text.Octets

/-!
# UTF-8

Characters to octets and back. A stretch of octets that is no character ends at
the first octet that cannot continue it, so every such stretch is as long as the
well-formed beginning it has.
-/

namespace PokerClient
namespace Text
namespace Utf8

/-- The octets of a character. -/
def encodeChar (c : Char) : List Octet :=
  let n := c.toNat
  if n < 0x80 then [octet n]
  else if n < 0x800 then [octet (0xC0 + n / 64), octet (0x80 + n % 64)]
  else if n < 0x10000 then
    [octet (0xE0 + n / 4096), octet (0x80 + n / 64 % 64), octet (0x80 + n % 64)]
  else
    [octet (0xF0 + n / 262144), octet (0x80 + n / 4096 % 64), octet (0x80 + n / 64 % 64),
      octet (0x80 + n % 64)]

def encode (cs : List Char) : List Octet := cs.flatMap encodeChar

@[simp] theorem encode_nil : encode [] = [] := rfl

@[simp] theorem encode_cons (c : Char) (cs : List Char) :
    encode (c :: cs) = encodeChar c ++ encode cs := rfl

/-- The count of octets of a text. -/
def size (s : String) : Nat := (encode s.toList).length

def isTail (b : Octet) : Bool := 0x80 ≤ b.toNat && b.toNat < 0xC0

/-- Whether the second octet can follow the first of a character of three. With
`loose` the forms of surrogates are let through. -/
def follows3 (loose : Bool) (a b : Octet) : Bool :=
  isTail b && (a.toNat != 0xE0 || 0xA0 ≤ b.toNat) && (loose || a.toNat != 0xED || b.toNat < 0xA0)

/-- Whether the second octet can follow the first of a character of four. -/
def follows4 (a b : Octet) : Bool :=
  isTail b && (a.toNat != 0xF0 || 0x90 ≤ b.toNat) && (a.toNat != 0xF4 || b.toNat < 0x90)

/-- The character of a code point; the form of a surrogate is read as the
replacement character. -/
def charOf (n : Nat) : Char := if 0xD800 ≤ n ∧ n < 0xE000 then replacement else Char.ofNat n

/-- A character of three octets after its first two fitted. -/
def third (loose : Bool) (a b : Octet) : List Octet → Piece
  | [] => if follows3 false a b then .bad .unexpectedEnd 2 else .bad .invalidContinuation 1
  | c :: _ =>
    if isTail c then
      .char (charOf ((a.toNat - 0xE0) * 4096 + (b.toNat - 0x80) * 64 + (c.toNat - 0x80))) 3
    else if loose && !follows3 false a b then .bad .invalidContinuation 1
    else .bad .invalidContinuation 2

/-- A character of four octets after its first three fitted. -/
def fourth (a b c : Octet) : List Octet → Piece
  | [] => .bad .unexpectedEnd 3
  | d :: _ =>
    if isTail d then
      .char (charOf ((a.toNat - 0xF0) * 262144 + (b.toNat - 0x80) * 4096
        + (c.toNat - 0x80) * 64 + (d.toNat - 0x80))) 4
    else .bad .invalidContinuation 3

/-- The piece that starts with the octet `a`. -/
def first (loose : Bool) (a : Octet) (rest : List Octet) : Piece :=
  if a.toNat < 0x80 then .char (charOf a.toNat) 1
  else if a.toNat < 0xC2 || 0xF5 ≤ a.toNat then .bad .invalidStart 1
  else match rest with
    | [] => .bad .unexpectedEnd 1
    | b :: bs =>
      if a.toNat < 0xE0 then
        if isTail b then .char (charOf ((a.toNat - 0xC0) * 64 + (b.toNat - 0x80))) 2
        else .bad .invalidContinuation 1
      else if a.toNat < 0xF0 then
        if follows3 loose a b then third loose a b bs else .bad .invalidContinuation 1
      else if follows4 a b then
        match bs with
        | [] => .bad .unexpectedEnd 2
        | c :: cs => if isTail c then fourth a b c cs else .bad .invalidContinuation 2
      else .bad .invalidContinuation 1

/-- The pieces of a list of octets. -/
def pieces (loose : Bool) (bs : List Octet) : List Piece := scan (first loose) 0 bs

/-- The text of octets, with one replacement character for each bad stretch. -/
def decodeRepaired (bs : List Octet) : List Char := repaired (pieces false bs)

/-- The text of octets, in which the forms of surrogates are let through. -/
def decodeLoose (bs : List Octet) : Except OctetFault (List Char) :=
  strict "utf-8" bs 0 (pieces true bs)

/-- The byte order mark. -/
def mark : List Octet := [0xEF, 0xBB, 0xBF]

end Utf8
end Text
end PokerClient
