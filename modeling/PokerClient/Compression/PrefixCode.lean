import PokerClient.Compression.Bits

/-!
# Prefix codes

A prefix code is a tree whose leaves are symbols; the bits of a code lead from
the root to its leaf. A code is given by the lengths of the codes of all symbols,
zero for symbols without one. Shorter codes come before longer ones, and among
codes of one length the symbols are in order.
-/

namespace PokerClient
namespace Compression

open Numeric

inductive PrefixCode where
  | unused
  | symbol (s : Nat)
  | branch (zero one : PrefixCode)
  deriving DecidableEq, Repr

namespace PrefixCode

/-- The greatest length of a code. -/
def maxLength : Nat := 15

/-- The leaf that the front of some bits leads to, and the bits after it, or none
if the bits end before a leaf. -/
def read? : PrefixCode → Bits → Option (Option Nat × Bits)
  | unused, bits => some (none, bits)
  | symbol s, bits => some (some s, bits)
  | branch _ _, [] => none
  | branch zero _, false :: rest => zero.read? rest
  | branch _ one, true :: rest => one.read? rest

/-- The code lengths in use with their symbols, in the order of the leaves. -/
def leaves (lengths : List Nat) : List (Nat × Nat) :=
  (List.range maxLength).flatMap fun n => lengths.zipIdx.filter fun p => p.1 == n + 1

/-- The tree below a node at some depth, which takes the leaves it needs from the
front of those that are left. -/
def grow : Nat → Nat → List (Nat × Nat) → PrefixCode × List (Nat × Nat)
  | _, _, [] => (unused, [])
  | 0, depth, (n, s) :: rest => if n = depth then (symbol s, rest) else (unused, (n, s) :: rest)
  | levels + 1, depth, (n, s) :: rest =>
    if n = depth then (symbol s, rest)
    else
      let zero := grow levels (depth + 1) ((n, s) :: rest)
      let one := grow levels (depth + 1) zero.2
      (branch zero.1 one.1, one.2)

def tree (lengths : List Nat) : PrefixCode := (grow maxLength 0 (leaves lengths)).1

/-- How many codes of the greatest length the codes take up. -/
def space (lengths : List Nat) : Nat :=
  lengths.foldl (fun n length => if length = 0 then n else n + twoTo (maxLength - length)) 0

/-- Whether every sequence of bits leads to a symbol and each symbol has a place. -/
def isComplete (lengths : List Nat) : Bool := space lengths == twoTo maxLength

/-- The code of some lengths. It may be a single code of one bit, or none at all,
which is noticed when a symbol is read. -/
def ofLengths? (lengths : List Nat) : Option PrefixCode :=
  if lengths.all (· == 0) then some (branch unused unused)
  else if isComplete lengths then some (tree lengths)
  else if space lengths ≤ twoTo maxLength && lengths.all (· ≤ 1) then some (tree lengths)
  else none

/-- The code of the lengths of other codes, which has to be complete. Without any
code every bit stands for the length zero. -/
def ofMetaLengths? (lengths : List Nat) : Option PrefixCode :=
  if lengths.all (· == 0) then some (branch (symbol 0) (symbol 0))
  else if isComplete lengths then some (tree lengths)
  else none

end PrefixCode
end Compression
end PokerClient
