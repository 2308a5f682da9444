import PokerClient.Numeric.Power
import PokerClient.Text.Octets

/-!
# Bits of octets

Octets as a list of bits, the least significant bit of each octet first. Numbers
among them are read in the same order.
-/

namespace PokerClient
namespace Compression

open Numeric Text

abbrev Bits := List Bool

namespace Bits

/-- The `count` least significant bits of a number. -/
def ofNumber : Nat → Nat → Bits
  | 0, _ => []
  | count + 1, n => (n % 2 == 1) :: ofNumber count (n / 2)

def ofOctets (octets : List Octet) : Bits := octets.flatMap fun b => ofNumber 8 b.toNat

/-- The number in the first `count` bits, and the bits after it. -/
def read? : Nat → Bits → Option (Nat × Bits)
  | 0, bits => some (0, bits)
  | _ + 1, [] => none
  | count + 1, b :: rest =>
    match read? count rest with
    | some (n, rest) => some (2 * n + b.toNat, rest)
    | none => none

/-- The bits from the next octet on; nothing is dropped where an octet begins. -/
def align (bits : Bits) : Bits := bits.drop (bits.length % 8)

end Bits
end Compression
end PokerClient
