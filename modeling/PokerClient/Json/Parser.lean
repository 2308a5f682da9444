import PokerClient.Json.Value
import PokerClient.Numeric.Written
import PokerClient.Text.Percent
import PokerClient.Text.Wide

/-!
# Reading JSON

A reader takes the rest of a text and returns what it read with the text after
it, or a fault with the text at which it stands. Nesting is the recursion; the
loops over the items of a container are bounded by the length of the text.
-/

namespace PokerClient
namespace Json

open Numeric Text

/-- What a text lacks at some place. -/
inductive Reason where
  | value
  | propertyName
  | colon
  | comma
  | finish
  | closingQuote
  | plainCharacter
  | escapeLetter
  | escapeDigits
  | noMark
  deriving DecidableEq, Repr

def Reason.describe : Reason → String
  | value => "Expecting value"
  | propertyName => "Expecting property name enclosed in double quotes"
  | colon => "Expecting ':' delimiter"
  | comma => "Expecting ',' delimiter"
  | finish => "Extra data"
  | closingQuote => "Unterminated string starting at"
  | plainCharacter => "Invalid control character at"
  | escapeLetter => "Invalid \\escape"
  | escapeDigits => "Invalid \\uXXXX escape"
  | noMark => "Unexpected UTF-8 BOM (decode using utf-8-sig)"

/-- Why a text is no JSON value. -/
inductive Fault where
  | expected (reason : Reason) (rest : List Char)
  | tooManyDigits (count : Nat)
  | tooDeep
  | loneSurrogate
  deriving DecidableEq

/-- The line and the column at which a text stands after some characters, both
counted from one. -/
def place (passed : List Char) : Nat × Nat :=
  ((passed.filter (· == '\n')).length + 1, (passed.reverse.takeWhile (· != '\n')).length + 1)

/-- A fault in words. The place is counted in characters of the whole text. -/
def Fault.describe (text : List Char) : Fault → String
  | expected reason rest =>
    let start := text.length - rest.length
    let (line, column) := place (text.take start)
    s!"{reason.describe}: line {line} column {column} (char {start})"
  | tooManyDigits count =>
    s!"Exceeds the limit ({digitLimit} digits) for integer string conversion: value has " ++
      s!"{count} digits; use sys.set_int_max_str_digits() to increase the limit"
  | tooDeep => "recursion limit exceeded"
  | loneSurrogate => "lone surrogate in hex escape"

/-- The choices that a reader of JSON leaves open. -/
structure Dialect where
  /-- How deep containers that are not empty may be nested. -/
  depth : Option Nat
  /-- Whether the escape of half a surrogate pair is read. -/
  loneSurrogates : Bool
  /-- How long a number may be up to its point or exponent, with its sign. -/
  wholeWidth : Option Nat

def Dialect.lenient : Dialect := { depth := none, loneSurrogates := true, wholeWidth := none }

def Dialect.strict : Dialect :=
  { depth := some 200, loneSurrogates := false, wholeWidth := some digitLimit }

/-- Reads from the front of a text. -/
abbrev Reader (α : Type) := List Char → Except Fault (α × List Char)

def isSpace (c : Char) : Bool := c == ' ' || c == '\t' || c == '\n' || c == '\r'

def skipSpace (cs : List Char) : List Char := cs.dropWhile isSpace

/-- The number of four hexadecimal digits. -/
def hex4? (a b c d : Char) : Option Nat :=
  match Percent.hexValue? a, Percent.hexValue? b, Percent.hexValue? c, Percent.hexValue? d with
  | some w, some x, some y, some z => some (((w * 16 + x) * 16 + y) * 16 + z)
  | _, _, _, _ => none

/-- The character that a letter after a backslash stands for. -/
def escaped? (c : Char) : Option Char :=
  match c with
  | '"' => some '"'
  | '\\' => some '\\'
  | '/' => some '/'
  | 'b' => some '\x08'
  | 'f' => some '\x0c'
  | 'n' => some '\n'
  | 'r' => some '\r'
  | 't' => some '\t'
  | _ => none

/-- The code units of a string after its opening quote, up to the closing one.
`start` is the text from the opening quote on. -/
def stringUnits (start : List Char) (read : List Nat) : Reader (List Nat)
  | [] => .error (.expected .closingQuote start)
  | c :: rest =>
    if c = '"' then .ok (read.reverse, rest)
    else if c = '\\' then
      match rest with
      | [] => .error (.expected .closingQuote start)
      | 'u' :: p :: q :: r :: s :: t :: more =>
        match hex4? p q r s with
        | some n => stringUnits start (n :: read) (t :: more)
        | none => .error (.expected .escapeDigits rest)
      | 'u' :: _ => .error (.expected .escapeDigits rest)
      | d :: more =>
        match escaped? d with
        | some e => stringUnits start (e.toNat :: read) more
        | none => .error (.expected .escapeLetter (c :: rest))
    else if c.toNat < 0x20 then .error (.expected .plainCharacter (c :: rest))
    else stringUnits start (c.toNat :: read) rest

/-- The code points of code units: a high surrogate and a low one after it are one
code point. -/
def joinUnits (joined : List Nat) : List Nat → List Nat
  | [] => joined.reverse
  | [n] => (n :: joined).reverse
  | n :: k :: rest =>
    if Wide.isHigh n && Wide.isLow k then joinUnits (Wide.pair n k :: joined) rest
    else joinUnits (n :: joined) (k :: rest)

/-- The code points of a string after its opening quote. -/
def readString (d : Dialect) (cs : List Char) : Except Fault (List Nat × List Char) :=
  match stringUnits ('"' :: cs) [] cs with
  | .error f => .error f
  | .ok (units, rest) =>
    let points := joinUnits [] units
    if d.loneSurrogates || points.all Nat.isValidChar then .ok (points, rest)
    else .error .loneSurrogate

/-- The digits after a point, if there are any. -/
def decimals : List Char → List Char × List Char
  | '.' :: rest => if (rest.takeWhile isDigit).isEmpty then ([], '.' :: rest)
    else (rest.takeWhile isDigit, rest.dropWhile isDigit)
  | rest => ([], rest)

/-- An exponent, if there is one. -/
def exponent? : List Char → Option (Int × List Char)
  | [] => none
  | c :: rest =>
    if c = 'e' ∨ c = 'E' then
      let (negative, ds) := splitSign rest
      let digits := ds.takeWhile isDigit
      if digits.isEmpty then none
      else
        let n : Int := natOfDigits digits
        some (if negative then -n else n, ds.dropWhile isDigit)
    else none

/-- The digits before the point: a zero that stands alone, or digits that do not
start with one. -/
def wholeDigits (cs : List Char) : List Char × List Char :=
  match cs with
  | '0' :: rest => (['0'], rest)
  | _ => (cs.takeWhile isDigit, cs.dropWhile isDigit)

/-- A number. It is an integer unless it has a point or an exponent. -/
def readNumber (d : Dialect) (cs : List Char) : Except Fault (Value × List Char) :=
  let (negative, unsigned) := match cs with
    | '-' :: rest => (true, rest)
    | _ => (false, cs)
  let (whole, afterWhole) := wholeDigits unsigned
  if whole.isEmpty then .error (.expected .value cs)
  else if d.wholeWidth.any (· < whole.length + negative.toNat) then
    .error (.tooManyDigits whole.length)
  else
    let (fraction, afterFraction) := decimals afterWhole
    match exponent? afterFraction with
    | some (e, rest) =>
      .ok (.float (Decimal.ofParts negative whole fraction e).toBinary64, rest)
    | none =>
      if fraction.isEmpty then
        if digitLimit < whole.length then .error (.tooManyDigits whole.length)
        else
          let n : Int := natOfDigits whole
          .ok (.int (if negative then -n else n), afterFraction)
      else .ok (.float (Decimal.ofParts negative whole fraction 0).toBinary64, afterFraction)

/-- The values that are written as a word. -/
def words : List (String × Value) :=
  [("null", .null), ("true", .bool true), ("false", .bool false), ("NaN", .float .nan),
    ("Infinity", .float (.infinite false)), ("-Infinity", .float (.infinite true))]

/-- The value of a word at the front of a text. -/
def readWord? (cs : List Char) : Option (Value × List Char) :=
  words.findSome? fun w =>
    if w.1.toList.isPrefixOf cs then some (w.2, cs.drop w.1.length) else none

/-- A value that is no container. -/
def readScalar (d : Dialect) (cs : List Char) : Except Fault (Value × List Char) :=
  match cs with
  | '"' :: rest =>
    match readString d rest with
    | .ok (points, rest) => .ok (.ofPoints points, rest)
    | .error f => .error f
  | _ =>
    match readWord? cs with
    | some found => .ok found
    | none => readNumber d cs

/-- The items of a list from the first one on, up to the closing bracket. -/
def readItems (item : Reader Value) (items : List Value) : Nat → Reader (List Value)
  | 0, cs => .error (.expected .value cs)
  | fuel + 1, cs =>
    match item cs with
    | .error f => .error f
    | .ok (v, rest) =>
      match skipSpace rest with
      | ']' :: rest => .ok ((v :: items).reverse, rest)
      | ',' :: rest => readItems item (v :: items) fuel (skipSpace rest)
      | rest => .error (.expected .comma rest)

/-- The fields of an object from the first one on, up to the closing brace. The
last of several fields of one name counts. -/
def readFields (d : Dialect) (item : Reader Value) (fields : Fields) : Nat → Reader Fields
  | 0, cs => .error (.expected .propertyName cs)
  | fuel + 1, cs =>
    match cs with
    | '"' :: rest =>
      match readString d rest with
      | .error f => .error f
      | .ok (name, rest) =>
        match skipSpace rest with
        | ':' :: rest =>
          match item (skipSpace rest) with
          | .error f => .error f
          | .ok (v, rest) =>
            match skipSpace rest with
            | '\x7d' :: rest => .ok (fields.put (textOfPoints name) v, rest)
            | ',' :: rest =>
              readFields d item (fields.put (textOfPoints name) v) fuel (skipSpace rest)
            | rest => .error (.expected .comma rest)
        | rest => .error (.expected .colon rest)
    | _ => .error (.expected .propertyName cs)

/-- A value whose items, at most `fuel` of them, are read by `item`; without such
a reader a container has to be empty. -/
def readNested (d : Dialect) (fuel : Nat) (item : Option (Reader Value)) (cs : List Char) :
    Except Fault (Value × List Char) :=
  match cs with
  | '[' :: rest =>
    match skipSpace rest, item with
    | ']' :: rest, _ => .ok (.list [], rest)
    | rest, some item =>
      match readItems item [] fuel rest with
      | .ok (items, rest) => .ok (.list items, rest)
      | .error f => .error f
    | _, none => .error .tooDeep
  | '\x7b' :: rest =>
    match skipSpace rest, item with
    | '\x7d' :: rest, _ => .ok (.object [], rest)
    | rest, some item =>
      match readFields d item [] fuel rest with
      | .ok (fields, rest) => .ok (.object fields, rest)
      | .error f => .error f
    | _, none => .error .tooDeep
  | _ => readScalar d cs

/-- A value with containers nested up to the given depth. -/
def readValue (d : Dialect) (fuel : Nat) : Nat → Reader Value
  | 0 => readNested d fuel none
  | depth + 1 => readNested d fuel (some (readValue d fuel depth))

/-- The value that a whole text stands for. A container has no more items than
the text has characters, and without a bound of its own the nesting is bounded
in the same way. -/
def parse (d : Dialect) (text : List Char) : Except Fault Value :=
  match readValue d (text.length + 1) (d.depth.getD text.length) (skipSpace text) with
  | .error f => .error f
  | .ok (v, rest) =>
    match skipSpace rest with
    | [] => .ok v
    | rest => .error (.expected .finish rest)

/-- The value of a text without a byte order mark. -/
def parseText (d : Dialect) (text : List Char) : Except Fault Value :=
  if text.head? = some '\ufeff' then .error (.expected .noMark text) else parse d text

end Json
end PokerClient
