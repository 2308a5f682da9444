import PokerClient.Failure
import PokerClient.Text.Charset
import PokerClient.Text.Percent

/-!
# Media types

A media type has parameters behind semicolons. The value of a parameter can be
cut into numbered parts, and a part can be encoded, in which case the charset of
the value stands in front of it.
-/

namespace PokerClient
namespace Http
namespace MediaType

open Numeric Text

/-- The parts between semicolons that stand outside quotation marks. -/
def cut (quoted escaped : Bool) : List Char → List (List Char)
  | [] => [[]]
  | c :: rest =>
    if c = ';' ∧ quoted = false then [] :: cut false false rest
    else
      let mark := c = '"' ∧ escaped = false
      match cut (if mark then !quoted else quoted) (c = '\\') rest with
      | part :: parts => (c :: part) :: parts
      | [] => [[c]]

/-- Name and value of a parameter. -/
def nameAndValue (part : List Char) : List Char × List Char :=
  match cutAt '=' part with
  | (name, some value) => (lower (strip name), strip value)
  | (name, none) => (strip name, [])

/-- A text in which a backslash before the given character is left out. -/
def unescape (c : Char) : List Char → List Char
  | [] => []
  | [d] => [d]
  | d :: e :: rest =>
    if d = '\\' ∧ e = c then c :: unescape c rest else d :: unescape c (e :: rest)

/-- A text without the marks around it. -/
def unquoted (cs : List Char) : List Char :=
  let inner := (cs.drop 1).dropLast
  if cs.length < 2 then cs
  else if cs.head? = some '"' ∧ cs.getLast? = some '"' then unescape '"' (unescape '\\' inner)
  else if cs.head? = some '<' ∧ cs.getLast? = some '>' then inner
  else cs

/-- A part of the value of a parameter. -/
structure Part where
  parameter : List Char
  number : Option Nat
  text : List Char
  encoded : Bool

/-- A part, if a name is that of a part: a star behind the name of the parameter,
which may have a number and another star behind it. -/
def part? (name value : List Char) : Option Part :=
  match cutAt '*' name with
  | (_, none) => none
  | (parameter, some rest) =>
    let digits := if rest.getLast? = some '*' then rest.dropLast else rest
    let isWord := !parameter.isEmpty && parameter.all fun c => c.isAlphanum || c == '_'
    if !isWord || !digits.all isDigit || (digits.isEmpty && !rest.isEmpty) then none
    else some {
      parameter
      number := if rest.isEmpty then none else some (natOfDigits digits)
      text := unquoted value
      encoded := name.getLast? == some '*' }

/-- The order in which parts are put together. -/
def Part.precedes (a b : Part) : Bool :=
  let x := a.number.getD 0
  let y := b.number.getD 0
  let s := String.ofList a.text
  let t := String.ofList b.text
  x < y || (x == y && (s < t || (s == t && (!a.encoded || b.encoded))))

/-- The characters of octets in an encoded text, one for each octet. -/
def decoded : List Char → List Char
  | [] => []
  | '%' :: a :: b :: rest =>
    match Percent.hexValue? a, Percent.hexValue? b with
    | some h, some l => Char.ofNat (h * 16 + l) :: decoded rest
    | _, _ => '%' :: decoded (a :: b :: rest)
  | c :: rest => c :: decoded rest

/-- The octets of a text; a character past the first 256 is spelled out. -/
def spelled (cs : List Char) : List Octet :=
  cs.flatMap fun c =>
    if c.toNat < 0x100 then [octet c.toNat]
    else (if c.toNat < 0x10000 then '\\' :: 'u' :: hexDigits 4 c.toNat
      else '\\' :: 'U' :: hexDigits 8 c.toNat).map fun d => octet d.toNat

/-- A text in the charset that is named in front of it between single marks, or
the text as it is if it cannot be read in it. -/
def inOwnCharset (codecs : Charset.Codecs) (cs : List Char) : List Char :=
  match cutAt '\'' cs with
  | (_, none) => cs
  | (name, some rest) =>
    match cutAt '\'' rest with
    | (_, none) => cs
    | (_, some text) =>
      let name := if name.isEmpty then "us-ascii".toList else name
      ((Charset.ofName? name).bind fun charset =>
        charset.decodeStrict? codecs (spelled text)).getD text

/-- The value that parts make up. -/
def assembled (codecs : Charset.Codecs) (parts : List Part) : List Char :=
  let sorted := parts.mergeSort Part.precedes
  let value := sorted.flatMap fun p => if p.encoded then decoded p.text else p.text
  if parts.any Part.encoded then inOwnCharset codecs value else value

/-- The parts of each parameter, in the order in which the parameters begin. -/
def grouped : List Part → List (List Part)
  | [] => []
  | p :: rest =>
    let same (g : List Part) : Bool := g.any fun q => q.parameter == p.parameter
    (p :: ((grouped rest).filter same).flatten) :: (grouped rest).filter (!same ·)

/-- The word for the number of a part. -/
def kindOfNumber (p : Part) : String := if p.number.isSome then "int" else "NoneType"

/-- Parts with a number cannot be put in order with parts without one. -/
def checkNumbers : List Part → Except Escape Unit
  | [] => .ok ()
  | p :: rest =>
    match rest.find? fun q => q.number.isSome != p.number.isSome with
    | some q => .error (.notComparable (kindOfNumber q) (kindOfNumber p))
    | none => .ok ()

def isCharset (name : List Char) : Bool := lower name == "charset".toList

/-- The name of the charset that a media type has as a parameter. -/
def charset? (codecs : Charset.Codecs) (mediaType : String) :
    Except Escape (Option (List Char)) := do
  let parameters := (cut false false mediaType.toList).map nameAndValue
  let later := parameters.drop 1
  let groups := grouped (later.filterMap fun p => part? p.1 p.2)
  groups.forM checkNumbers
  let whole := parameters.take 1 ++ later.filter fun p => (part? p.1 p.2).isNone
  let value : Option (List Char) := match whole.find? fun p => isCharset p.1 with
    | some p => some (unquoted p.2)
    | none =>
      (groups.find? fun group => group.any fun p => isCharset p.parameter).map (assembled codecs)
  return value.filter fun cs => cs.all fun c => c.toNat < 0x80

end MediaType
end Http
end PokerClient
