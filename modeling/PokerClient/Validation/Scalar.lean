import PokerClient.Json.Value
import PokerClient.Numeric.Written
import PokerClient.Text.Blank
import PokerClient.Time.Rfc3339
import PokerClient.Validation.Checked

/-!
# Lenient readings

How a JSON value is read where text, a number, a truth value or a moment is
wanted. Numbers and truth values may be given as each other or as text when
nothing is lost; text has to be given as such.
-/

namespace PokerClient
namespace Validation

open Json Numeric Text Time

/-- A reading of a value. -/
abbrev Reading (α : Type) := Value → Checked α

/-- A text that is shown to somebody. What is no character in it is replaced. -/
def text : Reading String
  | .str s => .valid s
  | .torn points => .valid (textOfPoints points)
  | _ => .fail .notText

/-- A string as it was given, be it a text or not. -/
inductive GivenText where
  | whole (s : String)
  | torn (points : List Nat)
  deriving DecidableEq, Repr

namespace GivenText

instance : Coe String GivenText := ⟨whole⟩

def dump : GivenText → Value
  | whole s => .str s
  | torn points => .torn points

end GivenText

/-- A string in which nothing is replaced. -/
def givenText : Reading GivenText
  | .str s => .valid (.whole s)
  | .torn points => .valid (.torn points)
  | _ => .fail .notText

@[simp] theorem text_str (s : String) : text (.str s) = .valid s := rfl

@[simp] theorem givenText_str (s : String) : givenText (.str s) = .valid (.whole s) := rfl

/-- A text in which nothing has to be replaced. -/
def wholeText : Reading String
  | .torn _ => .fail .tornText
  | v => text v

/-- A text of which every low line stands between two other characters, without
these lines. -/
def withoutInnerLines? (cs : List Char) : Option (List Char) :=
  let parts := splitOn '_' cs
  if parts.any List.isEmpty then none else some parts.flatten

/-- What follows the zeros and low lines at the front of a numeral, up to the
first digit that counts or a minus sign. A point keeps the character before it. -/
def afterZeros? (last : Char) : List Char → Option (List Char)
  | [] => some [last]
  | c :: rest =>
    if c = '0' ∨ c = '_' then afterZeros? c rest
    else if isDigit c ∨ c = '-' then some (c :: rest)
    else if c = '.' then some (last :: c :: rest)
    else none

/-- A numeral whose first character counts. -/
def significant? (cs : List Char) : Option (List Char) :=
  match cs with
  | '0' :: rest => afterZeros? '0' rest
  | c :: _ => if isDigit c || c == '-' then some cs else none
  | [] => none

/-- A numeral without a point that is followed by zeros only. -/
def withoutZeroDecimals (cs : List Char) : List Char :=
  let kept := dropEnd '0' cs
  match kept.reverse with
  | '.' :: before => if kept.length < cs.length then before.reverse else cs
  | _ => cs

/-- The text after a plus sign, which no minus sign may follow. -/
def afterPlus? : List Char → Option (List Char)
  | '+' :: '-' :: _ => none
  | '+' :: rest => some rest
  | cs => some cs

/-- A minus sign in front, when there is one, and the rest. -/
def splitMinus : List Char → Bool × List Char
  | '-' :: rest => (true, rest)
  | cs => (false, cs)

/-- An integer as it remains when all that may stand around or among its digits is
taken away. -/
def cleanInteger? (cs : List Char) : Option (List Char) := do
  let (negative, rest) := splitMinus (← afterPlus? (trim cs))
  let ds := withoutZeroDecimals (← significant? rest)
  let ds := (withoutInnerLines? ds).getD ds
  some (if negative then '-' :: ds else ds)

/-- The digits at the front of a text; a zero there stands alone. -/
def leadingDigits (cs : List Char) : List Char :=
  match cs with
  | '0' :: _ => ['0']
  | _ => cs.takeWhile isDigit

/-- Whether the integer at the front of a text has too many characters. -/
def startsTooLong (cs : List Char) : Bool :=
  let (negative, rest) := splitMinus cs
  digitLimit < (leadingDigits rest).length + if negative then 1 else 0

/-- An integer without needless zeros, with nothing after it. -/
def plainInteger? (cs : List Char) : Option Int :=
  let (negative, ds) := splitMinus cs
  if ds.isEmpty || (leadingDigits ds).length != ds.length || startsTooLong cs then none
  else some (if negative then -(natOfDigits ds : Int) else natOfDigits ds)

/-- An integer in a text. One that starts with too many digits is refused as it
stands. -/
def integerOfText (cs : List Char) : Checked Int :=
  if startsTooLong cs then .fail .hugeInteger
  else match plainInteger? cs with
    | some n => .valid n
    | none =>
      match (cleanInteger? cs).bind plainInteger? with
      | some n => .valid n
      | none => .fail .unreadableInteger

def integer : Reading Int
  | .bool b => .valid (if b then 1 else 0)
  | .int n => .valid n
  | .float x =>
    match x.truncate? with
    | none => .fail .notFinite
    | some n =>
      if !x.isIntegral then .fail .fractionalInteger
      else if n.natAbs < twoTo 63 then .valid n
      else .fail .hugeInteger
  | .str s => integerOfText s.toList
  | .torn _ => .fail .tornText
  | _ => .fail .notInteger

/-- A number in a text, with white space around it or with low lines in it. -/
def numberOfText? (cs : List Char) : Option Binary64 :=
  match readNumeral? (trim cs) with
  | some x => some x
  | none => (withoutInnerLines? cs).bind readNumeral?

def number : Reading Binary64
  | .bool b => .valid (Binary64.ofNat (if b then 1 else 0))
  | .int n =>
    let x := Binary64.ofInt n
    if x.isFinite then .valid x else .fail .notNumber
  | .float x => .valid x
  | .str s =>
    match numberOfText? s.toList with
    | some x => .valid x
    | none => .fail .unreadableNumber
  | .torn _ => .fail .tornText
  | _ => .fail .notNumber

/-- The words that are read as truth values, in any case of letters. -/
def truthWords : List (String × Bool) :=
  [("0", false), ("off", false), ("f", false), ("false", false), ("n", false), ("no", false),
    ("1", true), ("on", true), ("t", true), ("true", true), ("y", true), ("yes", true)]

def truthOfInteger (n : Int) : Checked Bool :=
  if n = 0 then .valid false
  else if n = 1 then .valid true
  else .fail .unreadableBoolean

/-- Whether an integer fits into 64 bits with a sign. -/
def fits64 (n : Int) : Bool := -(twoTo 63 : Int) ≤ n && n < (twoTo 63 : Int)

def truth : Reading Bool
  | .bool b => .valid b
  | .int n => if fits64 n then truthOfInteger n else .fail .notBoolean
  | .float x =>
    match x.truncate? with
    | none => .fail .notBoolean
    | some n =>
      if x.isIntegral && n.natAbs < twoTo 63 then truthOfInteger n else .fail .notBoolean
  | .str s =>
    match truthWords.lookup (String.ofList (lower s.toList)) with
    | some b => .valid b
    | none => .fail .unreadableBoolean
  | .torn _ => .fail .tornText
  | _ => .fail .notBoolean

/-- The moment of an instant, if there is one. -/
def momentAt (instant : Option Int) : Checked Moment :=
  match instant.bind Timestamp.ofMicros? with
  | some t => .valid (.ofUtc t)
  | none => .fail .momentOutOfRange

/-- A moment as text or as a count of seconds. A count past 64 bits is read as a
floating point number, or not at all if `wide` is false. -/
def moment (wide : Bool) : Reading Moment
  | .int n =>
    if fits64 n then momentAt (some (instantOfCount n))
    else if wide && (Binary64.ofInt n).isFinite then momentAt (instantOfNumber? (Binary64.ofInt n))
    else .fail .notMoment
  | .float x => momentAt (instantOfNumber? x)
  | .str s =>
    match Moment.ofText s.toList with
    | .ok m => .valid m
    | .error .unreadable => .fail .unreadableMoment
    | .error .outOfRange => .fail .momentOutOfRange
  | .torn _ => .fail .tornText
  | _ => .fail .notMoment

end Validation
end PokerClient
