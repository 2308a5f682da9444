import PokerClient.Text.Octets

/-!
# Checksums

The two checksums that guard compressed octets: a cyclic one, and a pair of sums.
-/

namespace PokerClient
namespace Compression

open Text

/-- One bit of a cyclic checksum. -/
def cyclicBit (c : UInt32) : UInt32 :=
  if c &&& 1 = 1 then (c >>> 1) ^^^ 0xEDB88320 else c >>> 1

/-- One octet of a cyclic checksum. -/
def cyclicOctet (c : UInt32) (b : Octet) : UInt32 :=
  (List.range 8).foldl (fun c _ => cyclicBit c) (c ^^^ b.toUInt32)

def cyclicChecksum (octets : List Octet) : Nat :=
  (octets.foldl cyclicOctet 0xFFFFFFFF ^^^ 0xFFFFFFFF).toNat

/-- The modulus of the sums. -/
def sumModulus : Nat := 65521

/-- The sum of the octets and one, and the sum of all these sums. -/
def sums (octets : List Octet) : Nat × Nat :=
  octets.foldl (fun s b =>
    let low := (s.1 + b.toNat) % sumModulus
    (low, (s.2 + low) % sumModulus)) (1, 0)

def sumChecksum (octets : List Octet) : Nat := (sums octets).2 * 65536 + (sums octets).1

end Compression
end PokerClient
