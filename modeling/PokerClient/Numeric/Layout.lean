import PokerClient.Numeric.Shortest

/-!
# Writing binary numbers

The text of a number: shortest digits in positional or scientific form, or a
fixed count of decimal places rounded from the exact value.
-/

namespace PokerClient
namespace Numeric

/-- The decisions of a shortest-digit format. -/
structure Layout where
  /-- The least power of ten of the first digit that is written positionally. -/
  positionalFrom : Int
  /-- The first power of ten that is written scientifically. -/
  scientificFrom : Int
  /-- The least count of digits of an exponent. -/
  exponentWidth : Nat
  nan : String
  infinity : String

/-- Numbers from a ten-thousandth to below ten quadrillion are positional and
keep a digit after the point; others have an exponent of two digits or more. -/
def Layout.standard : Layout :=
  { positionalFrom := -4, scientificFrom := 16, exponentWidth := 2
    nan := "nan", infinity := "inf" }

/-- Digits with the point after the first `point` of them, padded with zeros on
either side, and at least one digit on each side of the point. -/
def positional (ds : List Char) (point : Int) : List Char :=
  match point with
  | .ofNat (p + 1) =>
    if ds.length ≤ p + 1 then ds ++ List.replicate (p + 1 - ds.length) '0' ++ ['.', '0']
    else ds.take (p + 1) ++ '.' :: ds.drop (p + 1)
  | .ofNat 0 => '0' :: '.' :: ds
  | .negSucc k => '0' :: '.' :: List.replicate (k + 1) '0' ++ ds

/-- One digit before the point and the power of ten after a mark. -/
def scientific (width : Nat) (ds : List Char) (power : Int) : List Char :=
  let head := match ds with
    | [] => []
    | [d] => [d]
    | d :: rest => d :: '.' :: rest
  head ++ 'e' :: (if power < 0 then '-' else '+') :: paddedDigits width power.natAbs

namespace Layout

/-- The shortest text of a number in this layout. -/
def write (l : Layout) : Binary64 → List Char
  | .nan => l.nan.toList
  | .infinite s => (if s then ['-'] else []) ++ l.infinity.toList
  | .finite s m e _ =>
    let (n, power) := Shortest.digits m e
    let ds := digitsOfNat n
    let lead := power + ds.length - 1
    (if s then ['-'] else []) ++
      if l.positionalFrom ≤ lead ∧ lead < l.scientificFrom then positional ds (lead + 1)
      else scientific l.exponentWidth ds lead

end Layout

/-- The standard text of a number. -/
def Binary64.text (x : Binary64) : String := String.ofList (Layout.standard.write x)

/-- The nearest number of `places` decimal places, as a count of the last of
them; a tie goes to the even count. -/
def scaledPlaces (places m e : Nat) : Nat :=
  roundHalfEven (m * twoTo e * tenTo places) Binary64.unitsPerOne

/-- A number written with exactly `places` decimal places. -/
def Binary64.fixed (places : Nat) : Binary64 → String
  | .nan => "nan"
  | .infinite s => if s then "-inf" else "inf"
  | .finite s m e _ =>
    let n := scaledPlaces places m e
    let ds := paddedDigits (places + 1) n
    let cut := ds.length - places
    String.ofList ((if s then ['-'] else []) ++ ds.take cut ++
      if places = 0 then [] else '.' :: ds.drop cut)

/-- The binary number nearest to a number rounded to `places` decimal places. -/
def Binary64.roundTo (places : Nat) : Binary64 → Binary64
  | .finite s m e _ => Binary64.ofRatio s (scaledPlaces places m e) (tenTo places)
  | x => x

end Numeric
end PokerClient
