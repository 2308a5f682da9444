import PokerClient.Text.Octets

/-!
# UTF-16 and UTF-32

Texts in units of two or four octets, in either order. A mark at the front may
give the order.
-/

namespace PokerClient
namespace Text
namespace Wide

inductive Order where
  | little
  | big
  deriving DecidableEq, Repr

/-- The unit of two octets. -/
def unit16 (order : Order) (a b : Octet) : Nat :=
  match order with
  | .little => b.toNat * 256 + a.toNat
  | .big => a.toNat * 256 + b.toNat

/-- The unit of four octets. -/
def unit32 (order : Order) (a b c d : Octet) : Nat :=
  match order with
  | .little => unit16 .little c d * 65536 + unit16 .little a b
  | .big => unit16 .big a b * 65536 + unit16 .big c d

def isHigh (n : Nat) : Bool := 0xD800 ≤ n && n < 0xDC00

def isLow (n : Nat) : Bool := 0xDC00 ≤ n && n < 0xE000

/-- The code point of a high and a low surrogate. -/
def pair (high low : Nat) : Nat := 0x10000 + (high - 0xD800) * 0x400 + (low - 0xDC00)

/-- The piece of a UTF-16 text that starts with the octet `a`. With `loose` a
surrogate that stands alone is let through as the replacement character. -/
def first16 (loose : Bool) (order : Order) (a : Octet) : List Octet → Piece
  | [] => .bad .truncated 1
  | b :: rest =>
    let n := unit16 order a b
    if isLow n then if loose then .char replacement 2 else .bad .illegalEncoding 2
    else if !isHigh n then .char (Char.ofNat n) 2
    else match rest with
      | c :: d :: _ =>
        let k := unit16 order c d
        if isLow k then .char (Char.ofNat (pair n k)) 4
        else if loose then .char replacement 2 else .bad .illegalSurrogate 2
      | _ => if loose then .char replacement 2 else .bad .unexpectedEnd (2 + rest.length)

/-- The piece of a UTF-32 text that starts with the octet `a`. -/
def first32 (loose : Bool) (order : Order) (a : Octet) : List Octet → Piece
  | b :: c :: d :: _ =>
    let n := unit32 order a b c d
    if 0xD800 ≤ n ∧ n < 0xE000 then if loose then .char replacement 4 else .bad .surrogate 4
    else if 0x110000 ≤ n then .bad .outOfRange 4
    else .char (Char.ofNat n) 4
  | rest => .bad .truncated (1 + rest.length)

def pieces16 (loose : Bool) (order : Order) (bs : List Octet) : List Piece :=
  scan (first16 loose order) 0 bs

def pieces32 (loose : Bool) (order : Order) (bs : List Octet) : List Piece :=
  scan (first32 loose order) 0 bs

/-- The order that a UTF-16 mark gives, and the octets after the mark. -/
def order16? : List Octet → Option (Order × List Octet)
  | 0xFF :: 0xFE :: rest => some (.little, rest)
  | 0xFE :: 0xFF :: rest => some (.big, rest)
  | _ => none

/-- The order that a UTF-32 mark gives, and the octets after the mark. -/
def order32? : List Octet → Option (Order × List Octet)
  | 0xFF :: 0xFE :: 0 :: 0 :: rest => some (.little, rest)
  | 0 :: 0 :: 0xFE :: 0xFF :: rest => some (.big, rest)
  | _ => none

def name16 : Order → String
  | .little => "utf-16-le"
  | .big => "utf-16-be"

def name32 : Order → String
  | .little => "utf-32-le"
  | .big => "utf-32-be"

/-- The text of UTF-16 octets of which `skipped` have been read already. -/
def decode16 (order : Order) (octets : List Octet) (skipped : Nat) :
    Except OctetFault (List Char) :=
  strict (name16 order) octets skipped (pieces16 true order (octets.drop skipped))

/-- The text of UTF-32 octets of which `skipped` have been read already. -/
def decode32 (order : Order) (octets : List Octet) (skipped : Nat) :
    Except OctetFault (List Char) :=
  strict (name32 order) octets skipped (pieces32 true order (octets.drop skipped))

end Wide
end Text
end PokerClient
