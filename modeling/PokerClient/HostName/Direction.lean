import PokerClient.Text.Runs

/-!
# Directions

Labels that are written from right to left have to be readable among others that
are not: their characters and numerals must not mix, and their ends must show the
direction.
-/

namespace PokerClient
namespace HostName

open Text

inductive Direction where
  | unknown
  | left
  | right
  | arabic
  | arabicNumber
  | number
  | separator
  | neutral
  | boundary
  | mark
  deriving DecidableEq, Repr

namespace Direction

/-- Permitted code points that are not known to have a direction. -/
def undirectedRuns : List Nat :=
  [2191, 9, 964, 1, 127, 1, 22, 1, 474, 1, 3072, 29, 414, 1, 35650, 3, 11, 1, 24036, 52, 844,
   26, 998, 70, 316, 62, 831, 3, 318, 99, 749, 20, 1148, 154, 438, 58, 278, 91, 5332, 4044,
   7429, 58, 3078, 58, 321, 25, 286, 2, 6148, 8, 1279, 1, 9, 234, 9023, 1, 34, 1, 11727, 6, 356,
   1, 1088, 560, 53305, 7, 5986, 12, 7490, 622, 9458, 8490]

/-- The directions other than from left to right, each with the runs of permitted
code points that are, in turn, not of it and of it. -/
def runs : List (Direction × List Nat) :=
  [(.right,
     [1488, 37, 459, 43, 9, 2, 10, 22, 4, 1, 9, 1, 3, 1, 23, 25, 65447, 314, 70, 129, 15, 38,
      42, 133, 27, 499, 397, 42, 6, 2, 78, 40, 72, 18, 46, 71, 55305, 197, 93, 34, 7, 15]),
    (.arabic,
     [1568, 43, 35, 2, 1, 101, 15, 2, 7, 2, 10, 23, 1, 30, 29, 89, 11, 1, 174, 47, 17, 42,
      62889, 1, 3724, 36, 524, 22]),
    (.mark,
     [768, 112, 275, 5, 265, 55, 72, 11, 48, 21, 16, 1, 101, 15, 2, 7, 35, 1, 30, 27, 91, 11,
      58, 9, 9, 1, 24, 4, 1, 9, 1, 3, 1, 5, 43, 3, 60, 8, 42, 57, 55, 1, 1, 1, 4, 8, 4, 1, 3, 7,
      10, 2, 29, 1, 58, 1, 4, 4, 8, 1, 20, 2, 26, 5, 57, 1, 4, 17, 30, 2, 3, 14, 57, 1, 4, 8, 4,
      1, 20, 2, 22, 8, 58, 1, 2, 1, 1, 4, 8, 10, 11, 2, 30, 1, 61, 1, 12, 1, 50, 1, 3, 1, 55, 1,
      1, 3, 5, 17, 11, 2, 29, 1, 58, 1, 15, 2, 20, 2, 28, 2, 57, 2, 4, 4, 8, 1, 20, 2, 29, 1,
      72, 1, 7, 5, 90, 1, 2, 7, 12, 8, 98, 1, 2, 9, 11, 6, 74, 2, 27, 5, 55, 14, 1, 8, 5, 58,
      102, 4, 1, 6, 1, 2, 2, 2, 25, 2, 4, 3, 16, 4, 13, 1, 2, 2, 6, 1, 15, 1, 703, 3, 946, 3,
      29, 2, 30, 2, 30, 2, 67, 7, 8, 1, 2, 11, 9, 1, 167, 2, 34, 1, 118, 3, 4, 2, 9, 1, 6, 3,
      219, 2, 2, 1, 58, 1, 1, 9, 1, 1, 2, 8, 6, 13, 48, 31, 49, 4, 48, 1, 1, 5, 1, 1, 5, 1, 40,
      23, 32, 4, 2, 2, 1, 3, 56, 1, 1, 2, 3, 1, 1, 3, 58, 8, 2, 2, 152, 17, 1, 7, 4, 1, 6, 1, 3,
      2, 198, 64, 3823, 3, 141, 1, 96, 32, 554, 4, 107, 2, 30164, 15, 32, 2, 80, 2, 272, 1, 3,
      1, 4, 1, 25, 2, 5, 1, 151, 2, 26, 18, 13, 1, 38, 8, 25, 11, 46, 3, 48, 1, 2, 4, 2, 2, 39,
      1, 67, 6, 2, 2, 2, 2, 12, 1, 8, 1, 47, 1, 51, 1, 1, 3, 2, 2, 5, 2, 1, 1, 42, 2, 8, 1, 238,
      1, 2, 1, 4, 1, 20272, 786, 973, 1, 226, 1, 149, 5, 1670, 15, 40, 8, 165, 2, 573, 4, 387,
      2, 153, 11, 49, 4, 123, 1, 54, 15, 41, 1, 2, 2, 10, 3, 49, 4, 2, 10, 61, 3, 36, 5, 1, 8,
      62, 1, 12, 2, 52, 9, 10, 4, 2, 1, 95, 3, 2, 1, 1, 9, 160, 1, 3, 8, 21, 2, 57, 2, 3, 1, 37,
      15, 195, 8, 2, 3, 1, 1, 23, 1, 84, 6, 1, 1, 4, 2, 1, 2, 238, 4, 6, 2, 1, 2, 27, 2, 85, 8,
      2, 1, 1, 2, 106, 1, 1, 1, 2, 6, 1, 1, 101, 3, 2, 4, 1, 5, 259, 9, 1, 2, 256, 2, 1, 1, 4,
      1, 144, 8, 4, 1, 32, 6, 2, 2, 40, 6, 2, 13, 9, 6, 2, 3, 46, 13, 1, 2, 406, 14, 84, 22, 2,
      7, 1, 2, 1, 2, 122, 21, 1, 1, 72, 2, 3, 1, 1, 1, 347, 2, 19451, 5, 59, 7, 1048, 1, 63, 4,
      81, 1, 19640, 7699, 1360, 43, 261, 7, 375, 1, 61, 4, 1504, 7, 109, 7]),
    (.neutral,
     [183, 1, 513, 2, 11, 10, 28, 1, 136, 1, 10937, 1, 715, 1, 30083, 1, 151, 9, 104, 1]),
    (.number,
     [48, 10, 1718, 10]),
    (.arabicNumber,
     [1632, 10, 67270, 10]),
    (.boundary,
     [8204, 2]),
    (.separator,
     [45, 1])]

/-- The direction of a permitted code point. -/
def of (n : Nat) : Direction :=
  if isIn undirectedRuns n then unknown
  else ((runs.find? fun entry => isIn entry.2 n).map Prod.fst).getD left

/-- Whether a direction makes a label one that goes from right to left. -/
def turns (d : Direction) : Bool := d == right || d == arabic || d == arabicNumber

def isNumeral (d : Direction) : Bool := d == number || d == arabicNumber

end Direction

/-- Why the directions of a label do not go together. Positions count from one. -/
inductive DirectionFault where
  | unknown (position : Nat)
  | first
  | notLeftward (position : Nat)
  | mixedNumerals
  | notRightward (position : Nat)
  | ending
  deriving DecidableEq, Repr

namespace Direction

/-- Checks a label that goes from right to left. `ended` tells whether it could
end here, and `numeral` is the kind of the numerals before. -/
def checkLeftward (position : Nat) (ended : Bool) (numeral : Option Direction) :
    List Direction → Except DirectionFault Unit
  | [] => if ended then .ok () else .error .ending
  | d :: rest =>
    if d = left then .error (.notLeftward position)
    else if d.isNumeral && numeral.any (· != d) then .error .mixedNumerals
    else
      checkLeftward (position + 1) (d.turns || d == number || (d == mark && ended))
        (if d.isNumeral then some d else numeral) rest

/-- Checks a label that goes from left to right. -/
def checkRightward (position : Nat) (ended : Bool) : List Direction → Except DirectionFault Unit
  | [] => if ended then .ok () else .error .ending
  | d :: rest =>
    if d.turns then .error (.notRightward position)
    else checkRightward (position + 1) (d == left || d == number || (d == mark && ended)) rest

/-- Checks the directions of a label. Where nothing goes from right to left there
is no more to check than that all directions are known. -/
def check (ds : List Direction) : Except DirectionFault Unit :=
  match ds.findIdx? (· == unknown) with
  | some i => .error (.unknown (i + 1))
  | none =>
    if !ds.any turns then .ok ()
    else match ds.head? with
      | some left => checkRightward 1 false ds
      | some d => if d == right || d == arabic then checkLeftward 1 false none ds else .error .first
      | none => .ok ()

end Direction
end HostName
end PokerClient
