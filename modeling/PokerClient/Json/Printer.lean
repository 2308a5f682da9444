import PokerClient.Json.Value
import PokerClient.Numeric.Layout
import PokerClient.Text.Quoted

/-!
# Writing JSON

The compact text of a value: no space between items, characters outside ASCII
as they are, control characters as escapes. Infinite values, not-a-number and
strings that are no text have no text.
-/

namespace PokerClient
namespace Json

open Numeric Text

/-- A character inside a string. -/
def escapeChar (c : Char) : List Char :=
  match c with
  | '"' => ['\\', '"']
  | '\\' => ['\\', '\\']
  | '\n' => ['\\', 'n']
  | '\r' => ['\\', 'r']
  | '\t' => ['\\', 't']
  | '\x0c' => ['\\', 'f']
  | '\x08' => ['\\', 'b']
  | c => if c.toNat < 0x20 then '\\' :: 'u' :: hexDigits 4 c.toNat else [c]

/-- A string with its quotes. -/
def writeString (s : String) : List Char := '"' :: s.toList.flatMap escapeChar ++ ['"']

/-- What holds the place of half a surrogate pair. No other character of a text
written in JSON is this one. -/
def halfMark : Char := '\x00'

/-- A code point inside a string. -/
def escapePoint (n : Nat) : List Char :=
  if n.isValidChar then escapeChar (Char.ofNat n) else [halfMark]

namespace Value

mutual
/-- The text of a value. -/
def write : Value → List Char
  | null => "null".toList
  | bool b => (if b then "true" else "false").toList
  | int n => digitsOfInt n
  | float x => Layout.standard.write x
  | str s => writeString s
  | torn points => '"' :: points.flatMap escapePoint ++ ['"']
  | list items => '[' :: writeItems items ++ [']']
  | object fields => '\x7b' :: writeFields fields ++ ['\x7d']

def writeItems : List Value → List Char
  | [] => []
  | [v] => v.write
  | v :: w :: rest => v.write ++ ',' :: writeItems (w :: rest)

def writeFields : List (String × Value) → List Char
  | [] => []
  | [(k, v)] => writeString k ++ ':' :: v.write
  | (k, v) :: f :: rest => writeString k ++ ':' :: v.write ++ ',' :: writeFields (f :: rest)
end

mutual
/-- Whether every number in a value is finite. -/
def isFinite : Value → Bool
  | float x => x.isFinite
  | list items => allFinite items
  | object fields => allFieldsFinite fields
  | _ => true

def allFinite : List Value → Bool
  | [] => true
  | v :: rest => v.isFinite && allFinite rest

def allFieldsFinite : List (String × Value) → Bool
  | [] => true
  | (_, v) :: rest => v.isFinite && allFieldsFinite rest
end

mutual
/-- The first code point in a value that is none of a character. -/
def firstHalf? : Value → Option Nat
  | torn points => points.find? fun n => !n.isValidChar
  | list items => firstHalfOf? items
  | object fields => firstHalfIn? fields
  | _ => none

def firstHalfOf? : List Value → Option Nat
  | [] => none
  | v :: rest => v.firstHalf?.or (firstHalfOf? rest)

def firstHalfIn? : List (String × Value) → Option Nat
  | [] => none
  | (_, v) :: rest => v.firstHalf?.or (firstHalfIn? rest)
end

end Value

/-- Why a value cannot be sent. -/
inductive WriteFault where
  /-- It has a number that is not finite. -/
  | notFinite
  /-- From `start` on, `width` characters of its text are none, the first of them
  `half`. -/
  | notText (half start width : Nat)
  deriving DecidableEq, Repr

def WriteFault.describe : WriteFault → String
  | notFinite => "Out of range float values are not JSON compliant"
  | notText half start width =>
    let place :=
      if width = 1 then s!"character '\\u{String.ofList (hexDigits 4 half)}' in position {start}"
      else s!"characters in position {start}-{start + width - 1}"
    s!"'utf-8' codec can't encode {place}: surrogates not allowed"

/-- Why code points that are no text cannot be encoded. -/
def WriteFault.ofPoints (points : List Nat) : WriteFault :=
  let stretch := points.dropWhile Nat.isValidChar
  .notText (stretch.headD 0) (points.takeWhile Nat.isValidChar).length
    (stretch.takeWhile (!·.isValidChar)).length

/-- The text of a value that can be sent. -/
def Value.sent (v : Value) : Except WriteFault (List Char) :=
  if !v.isFinite then .error .notFinite
  else match v.firstHalf? with
    | none => .ok v.write
    | some half =>
      let before := v.write.takeWhile (· != halfMark)
      let stretch := (v.write.dropWhile (· != halfMark)).takeWhile (· == halfMark)
      .error (.notText half before.length stretch.length)

end Json
end PokerClient
