import PokerClient.Compression.Checksum
import PokerClient.Compression.Deflate

/-!
# Compressed formats

Deflated octets stand by themselves, or between a short header and a checksum, or
in a file format with a longer header, a checksum and a size. What comes after
the end of a format is passed over.
-/

namespace PokerClient
namespace Compression

open Numeric Text

inductive Format where
  | bare
  | wrapped
  | gzip
  deriving DecidableEq, Repr

/-- A step that takes octets of a header from those that are left. -/
abbrev Header := StateT (List Octet) (Except Halt)

namespace Header

variable {α : Type}

def fail (f : Fault) : Header α := fun _ => .error (.fault f)

/-- The next `count` octets. -/
def take (count : Nat) : Header (List Octet) := fun left =>
  let octets := left.take count
  if octets.length = count then .ok (octets, left.drop count) else .error .endOfInput

/-- The number in octets, the least significant one first. -/
def number (octets : List Octet) : Nat := octets.foldr (fun b n => b.toNat + 256 * n) 0

/-- Passes over the octets up to a zero. -/
def skipText : Header Unit := fun left =>
  match left.dropWhile (· != 0) with
  | _ :: rest => .ok ((), rest)
  | [] => .error .endOfInput

/-- Whether a flag is set. -/
def hasFlag (flags mask : Nat) : Bool := flags / mask % 2 == 1

/-- The header of the file format, whose own octets may be guarded by half a
checksum. -/
def gzip (all : List Octet) : Header Unit := do
  if (← take 2) ≠ [0x1F, 0x8B] then fail .header
  let kind ← take 2
  let flags := number (kind.drop 1)
  if kind.head? ≠ some 8 then fail .method
  if 0x20 ≤ flags then fail .headerFlags
  let _ ← take 6
  if hasFlag flags 4 then
    let _ ← take (number (← take 2))
  if hasFlag flags 8 then skipText
  if hasFlag flags 16 then skipText
  if hasFlag flags 2 then
    let read := all.take (all.length - (← get).length)
    if number (← take 2) ≠ cyclicChecksum read % 65536 then fail .headerChecksum

/-- The short header. It can ask for a dictionary, and there is none. -/
def wrapped : Header Unit := do
  let octets ← take 2
  let method := number (octets.take 1)
  let flags := number (octets.drop 1)
  if (method * 256 + flags) % 31 ≠ 0 then fail .header
  if method % 16 ≠ 8 then fail .method
  if 7 < method / 16 then fail .window
  if hasFlag flags 32 then
    let _ ← take 4
    fail .dictionary

end Header

namespace Inflate

/-- The octets put out so far. -/
def putOut : Inflate (List Octet) := return (← get).output.toList

/-- A number of four octets, the most significant one first. -/
def bigNumber : Inflate Nat := do
  let a ← number 8
  let b ← number 8
  let c ← number 8
  let d ← number 8
  return ((a * 256 + b) * 256 + c) * 256 + d

/-- What has to follow the deflated octets of a format. -/
def trailer : Format → Inflate Unit
  | .bare => return ()
  | .wrapped => do
    if (← bigNumber) ≠ sumChecksum (← putOut) then fail .checksum
  | .gzip => do
    if (← number 32) ≠ cyclicChecksum (← putOut) then fail .checksum
    if (← number 32) ≠ (← putOut).length % twoTo 32 then fail .size

end Inflate

namespace Format

def header (f : Format) (octets : List Octet) : Header Unit :=
  match f with
  | bare => return ()
  | wrapped => Header.wrapped
  | gzip => Header.gzip octets

/-- The octets of which others are the compressed form, or as many of them as the
compressed form holds if it ends too early. -/
def inflate (f : Format) (octets : List Octet) : Except Fault (List Octet) :=
  match (f.header octets).run octets with
  | .error .endOfInput => .ok []
  | .error (.fault fault) => .error fault
  | .ok (_, rest) =>
    Inflate.output (do
      Inflate.deflated
      Inflate.trailer f) rest

end Format
end Compression
end PokerClient
