/-!
# Powers of two and of ten

The scales on which binary and decimal numbers are counted, each by the exponent of
its base.
-/

namespace PokerClient
namespace Numeric

def twoTo (n : Nat) : Nat := Nat.pow 2 n

def tenTo (n : Nat) : Nat := Nat.pow 10 n

theorem twoTo_pos (n : Nat) : 0 < twoTo n := Nat.pow_pos (by decide)

end Numeric
end PokerClient
