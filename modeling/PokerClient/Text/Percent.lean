import PokerClient.Text.Utf8

/-!
# Percent-encoding

A character outside a safe set becomes one triplet for each of its octets: a
percent sign and two hexadecimal digits in upper case.
-/

namespace PokerClient
namespace Text
namespace Percent

/-- The value of a hexadecimal digit. -/
def hexValue? (c : Char) : Option Nat :=
  if '0' ≤ c ∧ c ≤ '9' then some (c.toNat - '0'.toNat)
  else if 'a' ≤ c ∧ c ≤ 'f' then some (c.toNat - 'a'.toNat + 10)
  else if 'A' ≤ c ∧ c ≤ 'F' then some (c.toNat - 'A'.toNat + 10)
  else none

def isHex (c : Char) : Bool := (hexValue? c).isSome

/-- Letters, digits and the four marks that never need encoding. -/
def isUnreserved (c : Char) : Bool :=
  ('a' ≤ c && c ≤ 'z') || ('A' ≤ c && c ≤ 'Z') || ('0' ≤ c && c ≤ '9')
    || c == '-' || c == '.' || c == '_' || c == '~'

/-- The triplet of an octet. -/
def triplet (b : Octet) : List Char := '%' :: hexPair true b

def encodeChar (safe : Char → Bool) (c : Char) : List Char :=
  if safe c then [c] else (Utf8.encodeChar c).flatMap triplet

def encode (safe : Char → Bool) (cs : List Char) : List Char := cs.flatMap (encodeChar safe)

@[simp] theorem encode_nil (safe : Char → Bool) : encode safe [] = [] := rfl

@[simp] theorem encode_cons (safe : Char → Bool) (c : Char) (cs : List Char) :
    encode safe (c :: cs) = encodeChar safe c ++ encode safe cs := rfl

/-- Encodes a text in which triplets may already stand; these are kept. The
number counts characters of a triplet that are still to be copied. -/
def encodeRest (safe : Char → Bool) : Nat → List Char → List Char
  | _, [] => []
  | k + 1, c :: rest => c :: encodeRest safe k rest
  | 0, c :: rest =>
    match c, rest with
    | '%', a :: b :: _ =>
      if isHex a && isHex b then '%' :: encodeRest safe 2 rest
      else encodeChar safe '%' ++ encodeRest safe 0 rest
    | _, _ => encodeChar safe c ++ encodeRest safe 0 rest

/-- Encodes a text and keeps the triplets it has. -/
def encodeKeeping (safe : Char → Bool) (cs : List Char) : List Char := encodeRest safe 0 cs

/-- The octets of an encoded text; a percent sign without two digits stands for
itself. -/
def octets : List Char → List Octet
  | [] => []
  | '%' :: a :: b :: rest =>
    match hexValue? a, hexValue? b with
    | some h, some l => octet (h * 16 + l) :: octets rest
    | _, _ => octet '%'.toNat :: octets (a :: b :: rest)
  | c :: rest => Utf8.encodeChar c ++ octets rest

/-- The text that an encoded text stands for. -/
def decode (cs : List Char) : List Char := Utf8.decodeRepaired (octets cs)

end Percent
end Text
end PokerClient
