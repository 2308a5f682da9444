/-!
# White space

The characters with the white space property. The table is a list of ranges, so
membership is one comparison a range.
-/

namespace PokerClient
namespace Text

/-- First and last code points of the ranges of white space. -/
def blankRanges : List (Nat × Nat) :=
  [(0x09, 0x0D), (0x20, 0x20), (0x85, 0x85), (0xA0, 0xA0), (0x1680, 0x1680), (0x2000, 0x200A),
    (0x2028, 0x2029), (0x202F, 0x202F), (0x205F, 0x205F), (0x3000, 0x3000)]

def isBlank (c : Char) : Bool := blankRanges.any fun r => r.1 ≤ c.toNat && c.toNat ≤ r.2

/-- A text without the white space around it. -/
def trim (cs : List Char) : List Char :=
  ((cs.dropWhile isBlank).reverse.dropWhile isBlank).reverse

/-- White space, or one of the four separators of data among the controls. -/
def isGap (c : Char) : Bool := isBlank c || (0x1C ≤ c.toNat && c.toNat ≤ 0x1F)

/-- A text without the white space and the separators around it. -/
def strip (cs : List Char) : List Char :=
  ((cs.dropWhile isGap).reverse.dropWhile isGap).reverse

/-- A text without the given character at its end. -/
def dropEnd (c : Char) (cs : List Char) : List Char := (cs.reverse.dropWhile (· == c)).reverse

/-- Splits at every occurrence of a character. There is always a first part. -/
def splitOn (c : Char) : List Char → List (List Char)
  | [] => [[]]
  | d :: rest =>
    if d = c then [] :: splitOn c rest
    else match splitOn c rest with
      | part :: parts => (d :: part) :: parts
      | [] => [[d]]

/-- The text before the first occurrence of a character, and the text after it
if there is one. -/
def cutAt (c : Char) : List Char → List Char × Option (List Char)
  | [] => ([], none)
  | d :: rest =>
    if d = c then ([], some rest)
    else
      let (before, after) := cutAt c rest
      (d :: before, after)

/-- The text before the last occurrence of a character and the text after it. -/
def cutAtLast? (c : Char) (cs : List Char) : Option (List Char × List Char) :=
  match cutAt c cs.reverse with
  | (_, none) => none
  | (after, some before) => some (before.reverse, after.reverse)

/-- Texts with a separator between them. -/
def joinWith {α : Type} (c : α) : List (List α) → List α
  | [] => []
  | [part] => part
  | part :: parts => part ++ c :: joinWith c parts

/-- ASCII letters in lower case. -/
def lower (cs : List Char) : List Char := cs.map Char.toLower

end Text
end PokerClient
