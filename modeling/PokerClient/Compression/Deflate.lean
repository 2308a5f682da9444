import PokerClient.Compression.Fault
import PokerClient.Compression.PrefixCode

/-!
# Deflated octets

Blocks of octets that are stored as they are, or as symbols of two prefix codes:
an octet, the end of the block, or a length and a distance that name a stretch of
the output to repeat. What was put out stays when reading stops.
-/

namespace PokerClient
namespace Compression

open Text

/-- What is left to read and what was put out. -/
structure Progress where
  bits : Bits
  output : Array Octet

/-- A step that reads bits and puts out octets. -/
abbrev Inflate := ExceptT Halt (StateM Progress)

namespace Inflate

variable {α : Type}

def fail (f : Fault) : Inflate α := throw (.fault f)

/-- The number in the next `count` bits. -/
def number (count : Nat) : Inflate Nat := do
  match (← get).bits.read? count with
  | some (n, rest) => do
    modify fun p => { p with bits := rest }
    return n
  | none => throw .endOfInput

/-- The next symbol of a code. -/
def symbol (code : PrefixCode) (f : Fault) : Inflate Nat := do
  match code.read? (← get).bits with
  | some (some s, rest) => do
    modify fun p => { p with bits := rest }
    return s
  | some (none, _) => fail f
  | none => throw .endOfInput

def put (b : Octet) : Inflate Unit := modify fun p => { p with output := p.output.push b }

/-- Octets with some more of them, each repeated from a distance back. -/
def extend (distance : Nat) : Nat → Array Octet → Array Octet
  | 0, output => output
  | count + 1, output =>
    extend distance count (output.push (output.getD (output.size - distance) 0))

/-- Puts out what stands some distance back. -/
def repeatBack (distance length : Nat) : Inflate Unit := do
  if (← get).output.size < distance then fail .tooFarBack
  else modify fun p => { p with output := extend distance length p.output }

def align : Inflate Unit := modify fun p => { p with bits := p.bits.align }

/-- Octets as they are. -/
def copy : Nat → Inflate Unit
  | 0 => return ()
  | count + 1 => do
    put (octet (← number 8))
    copy count

/-- A block of stored octets. Their count is given twice, once with all bits
turned. -/
def stored : Inflate Unit := do
  align
  let length ← number 16
  let turned ← number 16
  if length + turned ≠ 65535 then fail .storedLength
  else copy length

/-- The least length of each length symbol and the count of its further bits. -/
def lengthSymbols : List (Nat × Nat) :=
  [(3, 0), (4, 0), (5, 0), (6, 0), (7, 0), (8, 0), (9, 0), (10, 0), (11, 1), (13, 1), (15, 1),
    (17, 1), (19, 2), (23, 2), (27, 2), (31, 2), (35, 3), (43, 3), (51, 3), (59, 3), (67, 4),
    (83, 4), (99, 4), (115, 4), (131, 5), (163, 5), (195, 5), (227, 5), (258, 0)]

/-- The least distance of each distance symbol and the count of its further bits. -/
def distanceSymbols : List (Nat × Nat) :=
  [(1, 0), (2, 0), (3, 0), (4, 0), (5, 1), (7, 1), (9, 2), (13, 2), (17, 3), (25, 3), (33, 4),
    (49, 4), (65, 5), (97, 5), (129, 6), (193, 6), (257, 7), (385, 7), (513, 8), (769, 8),
    (1025, 9), (1537, 9), (2049, 10), (3073, 10), (4097, 11), (6145, 11), (8193, 12), (12289, 12),
    (16385, 13), (24577, 13)]

/-- The number that a symbol and its further bits stand for. -/
def quantity (symbols : List (Nat × Nat)) (s : Nat) (f : Fault) : Inflate Nat :=
  match symbols[s]? with
  | some (least, bits) => do return least + (← number bits)
  | none => fail f

/-- The symbol that ends a block. -/
def endSymbol : Nat := 256

/-- The symbols of a block to its end. Each takes a bit at least, so there are no
more symbols than bits. -/
def symbols (literals distances : PrefixCode) : Nat → Inflate Unit
  | 0 => throw .endOfInput
  | left + 1 => do
    let s ← symbol literals .literal
    if s < endSymbol then do
      put (octet s)
      symbols literals distances left
    else if s = endSymbol then return ()
    else do
      let length ← quantity lengthSymbols (s - endSymbol - 1) .literal
      let d ← symbol distances .distance
      let distance ← quantity distanceSymbols d .distance
      repeatBack distance length
      symbols literals distances left

/-- The order in which the lengths of the codes for lengths are given. -/
def metaOrder : List Nat := [16, 17, 18, 0, 8, 7, 9, 6, 10, 5, 11, 4, 12, 3, 13, 2, 14, 1, 15]

/-- Numbers of three bits. -/
def triples : Nat → Inflate (List Nat)
  | 0 => return []
  | count + 1 => do
    let n ← number 3
    return n :: (← triples count)

/-- A length of a code that is given several times, and how often. -/
def run (s : Nat) (previous : Option Nat) : Inflate (Nat × Nat) := do
  if s = 16 then do
    let n ← number 2
    match previous with
    | some length => return (length, 3 + n)
    | none => fail .lengthRepeat
  else if s = 17 then return (0, 3 + (← number 3))
  else return (0, 11 + (← number 7))

/-- The lengths of `total` codes; `passed` holds those read, the last one first. -/
def codeLengths (code : PrefixCode) (total : Nat) : Nat → List Nat → Inflate (List Nat)
  | 0, passed => return passed.reverse
  | left + 1, passed => do
    if total ≤ passed.length then return passed.reverse
    else
      let s ← symbol code .codeLengths
      if s < 16 then codeLengths code total left (s :: passed)
      else do
        let (length, count) ← run s passed.head?
        if total < passed.length + count then fail .lengthRepeat
        else codeLengths code total left (List.replicate count length ++ passed)

/-- The two codes that a block begins with. -/
def codes : Inflate (PrefixCode × PrefixCode) := do
  let literals := 257 + (← number 5)
  let distances := 1 + (← number 5)
  let given := 4 + (← number 4)
  if 286 < literals ∨ 30 < distances then fail .symbolCount
  else
    let metaLengths := metaOrder.zip (← triples given)
    let lengths := (List.range 19).map fun s => (metaLengths.lookup s).getD 0
    match PrefixCode.ofMetaLengths? lengths with
    | none => fail .codeLengths
    | some code => do
      let total := literals + distances
      let lengths ← codeLengths code total total []
      if lengths.getD endSymbol 0 = 0 then fail .missingEnd
      else match PrefixCode.ofLengths? (lengths.take literals) with
        | none => fail .literalLengths
        | some literalCode =>
          match PrefixCode.ofLengths? (lengths.drop literals) with
          | none => fail .distanceLengths
          | some distanceCode => return (literalCode, distanceCode)

/-- The code of octets, ends and lengths in blocks that bring no codes along. -/
def fixedLiterals : PrefixCode :=
  PrefixCode.tree (List.replicate 144 8 ++ List.replicate 112 9 ++ List.replicate 24 7
    ++ List.replicate 8 8)

/-- The code of distances in blocks that bring no codes along. -/
def fixedDistances : PrefixCode := PrefixCode.tree (List.replicate 32 5)

/-- One block of the kind that a number names. -/
def block (kind : Nat) : Inflate Unit := do
  let left := (← get).bits.length
  match kind with
  | 0 => stored
  | 1 => symbols fixedLiterals fixedDistances left
  | 2 => do
    let (literals, distances) ← codes
    symbols literals distances left
  | _ => fail .blockType

/-- Blocks up to the one that is marked as the last. Each takes some bits. -/
def blocks : Nat → Inflate Unit
  | 0 => throw .endOfInput
  | left + 1 => do
    let mark ← number 3
    block (mark / 2)
    if mark % 2 = 1 then return () else blocks left

/-- All blocks and the bits up to the end of an octet. -/
def deflated : Inflate Unit := do
  blocks (← get).bits.length
  align

/-- The octets that a step puts out when it is given some octets to read. -/
def output (x : Inflate Unit) (octets : List Octet) : Except Fault (List Octet) :=
  match StateT.run (ExceptT.run x) { bits := Bits.ofOctets octets, output := #[] } with
  | (.ok _, p) => .ok p.output.toList
  | (.error .endOfInput, p) => .ok p.output.toList
  | (.error (.fault f), _) => .error f

end Inflate
end Compression
end PokerClient
