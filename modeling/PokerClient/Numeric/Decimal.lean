import PokerClient.Numeric.Binary64

/-!
# Decimal numerals

Runs of ASCII digits and the numerals built from them. A numeral is read to an
exact sign, digit count and power of ten, and only then rounded, so how it was
spelled does not matter to the value.
-/

namespace PokerClient
namespace Numeric

/-- The value of an ASCII digit. -/
def digitValue? (c : Char) : Option Nat :=
  if '0' ≤ c ∧ c ≤ '9' then some (c.toNat - '0'.toNat) else none

def isDigit (c : Char) : Bool := (digitValue? c).isSome

/-- The number that a run of digits denotes; other characters count as zero. -/
def natOfDigits (cs : List Char) : Nat :=
  cs.foldl (fun n c => 10 * n + (digitValue? c).getD 0) 0

/-- The digits of a natural number, most significant first. -/
def digitsOfNat (n : Nat) : List Char := Nat.toDigits 10 n

/-- The least `width` digits, with zeros in front. -/
def paddedDigits (width n : Nat) : List Char :=
  let ds := digitsOfNat n
  List.replicate (width - ds.length) '0' ++ ds

/-- The decimal numeral of an integer. -/
def digitsOfInt (z : Int) : List Char :=
  if z < 0 then '-' :: digitsOfNat z.natAbs else digitsOfNat z.natAbs

/-- A sign in front, when there is one, and the rest. -/
def splitSign : List Char → Bool × List Char
  | '-' :: rest => (true, rest)
  | '+' :: rest => (false, rest)
  | rest => (false, rest)

/-- `digits * 10 ^ exponent` with a sign. -/
structure Decimal where
  negative : Bool
  digits : Nat
  exponent : Int
  deriving DecidableEq

namespace Decimal

def toBinary64 (d : Decimal) : Binary64 := Binary64.ofDecimal d.negative d.digits d.exponent

/-- The numeral with the given digits before and after the point. -/
def ofParts (negative : Bool) (whole decimals : List Char) (exponent : Int) : Decimal :=
  { negative, digits := natOfDigits (whole ++ decimals), exponent := exponent - decimals.length }

/-- The exponent part of a numeral, which takes all that is left of the text. -/
def exponent? : List Char → Option Int
  | [] => some 0
  | c :: rest =>
    if c = 'e' ∨ c = 'E' then
      let (negative, ds) := splitSign rest
      if ds.isEmpty || !ds.all isDigit then none
      else some (if negative then -(natOfDigits ds : Int) else natOfDigits ds)
    else none

/-- An unsigned numeral: digits with an optional point among, before or after
them, at least one digit, and an optional exponent. -/
def unsigned? (negative : Bool) (cs : List Char) : Option Decimal :=
  let whole := cs.takeWhile isDigit
  match cs.dropWhile isDigit with
  | '.' :: rest =>
    let decimals := rest.takeWhile isDigit
    if whole.isEmpty && decimals.isEmpty then none
    else (exponent? (rest.dropWhile isDigit)).map (ofParts negative whole decimals)
  | rest =>
    if whole.isEmpty then none
    else (exponent? rest).map (ofParts negative whole [])

end Decimal

/-- A numeral or one of the words for the values without digits, in any case of
letters. Nothing may stand around it. -/
def readNumeral? (cs : List Char) : Option Binary64 :=
  let (negative, rest) := splitSign cs
  let word := rest.map Char.toLower
  if word = "inf".toList ∨ word = "infinity".toList then some (.infinite negative)
  else if word = "nan".toList then some .nan
  else (Decimal.unsigned? negative rest).map Decimal.toBinary64

end Numeric
end PokerClient
