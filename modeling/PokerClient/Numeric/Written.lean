import PokerClient.Numeric.Decimal
import PokerClient.Text.Blank

/-!
# Numbers as people write them

Numerals with white space around them, single low lines between digits, and the
decimal digits of any script.
-/

namespace PokerClient
namespace Numeric

open Text

/-- The code points of the zeros of all scripts with decimal digits; the nine
other digits follow each. -/
def zeroDigits : List Nat :=
  [0x30, 0x660, 0x6F0, 0x7C0, 0x966, 0x9E6, 0xA66, 0xAE6, 0xB66, 0xBE6, 0xC66, 0xCE6, 0xD66, 0xDE6,
    0xE50, 0xED0, 0xF20, 0x1040, 0x1090, 0x17E0, 0x1810, 0x1946, 0x19D0, 0x1A80, 0x1A90, 0x1B50,
    0x1BB0, 0x1C40, 0x1C50, 0xA620, 0xA8D0, 0xA900, 0xA9D0, 0xA9F0, 0xAA50, 0xABF0, 0xFF10,
    0x104A0, 0x10D30, 0x11066, 0x110F0, 0x11136, 0x111D0, 0x112F0, 0x11450, 0x114D0, 0x11650,
    0x116C0, 0x11730, 0x118E0, 0x11950, 0x11C50, 0x11D50, 0x11DA0, 0x16A60, 0x16AC0, 0x16B50,
    0x1D7CE, 0x1D7D8, 0x1D7E2, 0x1D7EC, 0x1D7F6, 0x1E140, 0x1E2F0, 0x1E950, 0x1FBF0]

/-- A digit of any script as the ASCII digit of the same value; other characters
stay. -/
def asciiDigit (c : Char) : Char :=
  match zeroDigits.find? fun z => z ≤ c.toNat && c.toNat < z + 10 with
  | some z => Char.ofNat ('0'.toNat + (c.toNat - z))
  | none => c

/-- A text without its low lines, each of which has to stand between digits. -/
def withoutLowLines? : Option Char → List Char → Option (List Char)
  | prev, [] => if prev = some '_' then none else some []
  | prev, c :: rest =>
    if c = '_' then
      if prev.any isDigit then withoutLowLines? (some c) rest else none
    else if prev = some '_' && !isDigit c then none
    else (withoutLowLines? (some c) rest).map (c :: ·)

/-- A numeral with nothing around it and plain digits, or none. -/
def plainNumeral? (cs : List Char) : Option (List Char) :=
  withoutLowLines? none ((trim cs).map asciiDigit)

/-- A number, or one of the words for the values without digits. -/
def readFloat? (cs : List Char) : Option Binary64 := (plainNumeral? cs).bind readNumeral?

/-- No integer is read from a numeral of more digits than this. -/
def digitLimit : Nat := 4300

/-- An integer with an optional sign. -/
def readInt? (cs : List Char) : Option Int :=
  (plainNumeral? cs).bind fun ds =>
    let (negative, rest) := splitSign ds
    if rest.isEmpty || !rest.all isDigit || digitLimit < rest.length then none
    else some (if negative then -(natOfDigits rest : Int) else natOfDigits rest)

end Numeric
end PokerClient
