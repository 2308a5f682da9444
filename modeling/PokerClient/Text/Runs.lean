/-!
# Runs

A set of code points as the lengths of the runs of code points that are, in turn,
outside and inside of it. Membership is one subtraction a run.
-/

namespace PokerClient
namespace Text

/-- Whether `n` falls into a run of the kind that lies inside, where `inside` is
the kind of the first run. Past the last run the kind changes once more. -/
def inRuns (inside : Bool) : List Nat → Nat → Bool
  | [], _ => inside
  | r :: rest, n => if n < r then inside else inRuns (!inside) rest (n - r)

/-- Whether a code point is in the set that some runs describe. -/
def isIn (runs : List Nat) (n : Nat) : Bool := inRuns false runs n

end Text
end PokerClient
