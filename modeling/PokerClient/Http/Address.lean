import PokerClient.Numeric.Decimal
import PokerClient.Text.Blank
import PokerClient.Text.Percent

/-!
# Network addresses

Hosts that are numbers: four octets in decimal, or eight groups of hexadecimal
digits of which one run of zeros may be left out.
-/

namespace PokerClient
namespace Http

open Numeric Text

namespace Address

/-- Whether a host has the shape of four numbers between points, so that it has to
be an address. Numbers between other marks make up a name. -/
def looksNumeric (host : List Char) : Bool :=
  let parts := splitOn '.' host
  parts.length == 4 && parts.all fun part => !part.isEmpty && part.all isDigit

/-- A decimal octet without zeros in front. -/
def isOctet (cs : List Char) : Bool :=
  !cs.isEmpty && cs.all isDigit && cs.length ≤ 3 && (cs == ['0'] || cs.head? != some '0')
    && natOfDigits cs ≤ 255

def isFourOctets (cs : List Char) : Bool :=
  let parts := splitOn '.' cs
  parts.length == 4 && parts.all isOctet

/-- Up to four hexadecimal digits. -/
def isGroup (cs : List Char) : Bool := !cs.isEmpty && cs.length ≤ 4 && cs.all Percent.isHex

/-- The parts between colons, where four octets at the end count as two parts. -/
def groups? (cs : List Char) : Option (List (List Char)) :=
  let parts := splitOn ':' cs
  match parts.getLast? with
  | none => none
  | some last =>
    if last.contains '.' then
      if isFourOctets last then some (parts.dropLast ++ [['0'], ['0']]) else none
    else some parts

/-- Where parts other than the first and the last are empty. -/
def gaps (parts : List (List Char)) : List Nat :=
  (List.range parts.length).filter fun i =>
    0 < i && i + 1 < parts.length && (parts.getD i []).isEmpty

/-- Eight groups, or fewer with one gap for the others. -/
def isGroups (parts : List (List Char)) : Bool :=
  match gaps parts with
  | [] => parts.length == 8 && parts.all isGroup
  | [i] =>
    let before := parts.take i
    let after := parts.drop (i + 1)
    let before := if before == [[]] then [] else before
    let after := if after == [[]] then [] else after
    before.length + after.length < 8 && before.all isGroup && after.all isGroup
  | _ => false

/-- An address of groups, with a zone behind a percent sign if there is one. -/
def isGrouped (cs : List Char) : Bool :=
  let (address, zone) := cutAt '%' cs
  zone.all (fun z => !z.isEmpty && !z.contains '%')
    && (splitOn ':' address).length ≥ 3
    && match groups? address with
      | some parts => parts.length ≤ 9 && isGroups parts
      | none => false

end Address
end Http
end PokerClient
