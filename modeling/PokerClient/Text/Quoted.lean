import PokerClient.Text.Printable

/-!
# Quoted text

A text between quotation marks, in which everything that would not show is
written as an escape.
-/

namespace PokerClient
namespace Text

/-- The `width` hexadecimal digits of a number, in lower case. -/
def hexDigits (width n : Nat) : List Char :=
  let ds := Nat.toDigits 16 n
  List.replicate (width - ds.length) '0' ++ ds

namespace Quoted

/-- A single mark is used unless the text has one and has no double mark. -/
def markFor (cs : List Char) : Char :=
  if cs.contains '\'' && !cs.contains '"' then '"' else '\''

/-- A character inside marks. -/
def escape (mark c : Char) : List Char :=
  if c = mark ∨ c = '\\' then ['\\', c]
  else if c = '\t' then ['\\', 't']
  else if c = '\n' then ['\\', 'n']
  else if c = '\r' then ['\\', 'r']
  else if isPrintable c then [c]
  else if c.toNat < 0x100 then '\\' :: 'x' :: hexDigits 2 c.toNat
  else if c.toNat < 0x10000 then '\\' :: 'u' :: hexDigits 4 c.toNat
  else '\\' :: 'U' :: hexDigits 8 c.toNat

def write (cs : List Char) : List Char :=
  let mark := markFor cs
  mark :: cs.flatMap (escape mark) ++ [mark]

end Quoted

/-- Code points between quotation marks; one that is no character is written as an
escape. -/
def quotedPoints (ns : List Nat) : String :=
  let mark := Quoted.markFor (ns.map Char.ofNat)
  let write (n : Nat) : List Char :=
    if n.isValidChar then Quoted.escape mark (Char.ofNat n) else '\\' :: 'u' :: hexDigits 4 n
  String.ofList (mark :: ns.flatMap write ++ [mark])

/-- A text between quotation marks. -/
def quoted (s : String) : String := String.ofList (Quoted.write s.toList)

end Text
end PokerClient
