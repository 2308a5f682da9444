/-!
# Octets and their reading

A text encoding reads a list of octets as a list of pieces: characters, and
stretches that encode none. Strict decoding stops at the first such stretch and
says where it stands; lenient decoding writes one replacement character for it.
-/

namespace PokerClient
namespace Text

abbrev Octet := UInt8

def octet (n : Nat) : Octet := UInt8.ofNat n

/-- Why a stretch of octets encodes no character. -/
inductive Reason where
  | invalidStart
  | invalidContinuation
  | unexpectedEnd
  | truncated
  | illegalEncoding
  | illegalSurrogate
  | surrogate
  | outOfRange
  deriving DecidableEq, Repr

namespace Reason

def describe : Reason → String
  | invalidStart => "invalid start byte"
  | invalidContinuation => "invalid continuation byte"
  | unexpectedEnd => "unexpected end of data"
  | truncated => "truncated data"
  | illegalEncoding => "illegal encoding"
  | illegalSurrogate => "illegal UTF-16 surrogate"
  | surrogate => "code point in surrogate code point range"
  | outOfRange => "code point not in range(0x110000)"

end Reason

/-- A character with the count of octets that encode it, or a stretch of octets
that encodes none. -/
inductive Piece where
  | char (c : Char) (width : Nat)
  | bad (reason : Reason) (width : Nat)
  deriving DecidableEq

namespace Piece

/-- The count of octets of a piece. -/
def width : Piece → Nat
  | .char _ w => w
  | .bad _ w => w

end Piece

/-- The pieces of a list of octets, where `first` reads the piece at the front.
The number counts octets of the previous piece that are still to be passed. -/
def scan (first : Octet → List Octet → Piece) : Nat → List Octet → List Piece
  | _, [] => []
  | k + 1, _ :: rest => scan first k rest
  | 0, a :: rest =>
    let p := first a rest
    p :: scan first (p.width - 1) rest

theorem scan_eq_drop (first : Octet → List Octet → Piece) (k : Nat) (bs : List Octet) :
    scan first k bs = scan first 0 (bs.drop k) := by
  induction k generalizing bs with
  | zero => simp
  | succ k ih => cases bs <;> simp [scan, ih]

/-- What stands for a stretch that encodes no character. -/
def replacement : Char := '\ufffd'

/-- The text of pieces, with a replacement character for each bad one. -/
def repaired : List Piece → List Char
  | [] => []
  | .char c _ :: rest => c :: repaired rest
  | .bad _ _ :: rest => replacement :: repaired rest

/-- Where decoding stopped: the named encoding met `width` octets from `start`
that encode no character, the first of them `first`. -/
structure OctetFault where
  encoding : String
  reason : Reason
  start : Nat
  width : Nat
  first : Octet
  deriving DecidableEq

/-- The two hexadecimal digits of an octet. -/
def hexPair (upper : Bool) (b : Octet) : List Char :=
  let digit (n : Nat) : Char :=
    if n < 10 then Char.ofNat ('0'.toNat + n)
    else Char.ofNat ((if upper then 'A' else 'a').toNat + (n - 10))
  [digit (b.toNat / 16), digit (b.toNat % 16)]

def OctetFault.describe (f : OctetFault) : String :=
  let place :=
    if f.width = 1 then
      s!"byte 0x{String.ofList (hexPair false f.first)} in position {f.start}"
    else s!"bytes in position {f.start}-{f.start + f.width - 1}"
  s!"'{f.encoding}' codec can't decode {place}: {f.reason.describe}"

/-- The text of pieces, or the first fault. `octets` are the octets that the
pieces were read from and `start` is where they begin. -/
def strict (encoding : String) (octets : List Octet) :
    Nat → List Piece → Except OctetFault (List Char)
  | _, [] => .ok []
  | start, .char c width :: rest =>
    match strict encoding octets (start + width) rest with
    | .ok cs => .ok (c :: cs)
    | .error f => .error f
  | start, .bad reason width :: _ =>
    .error { encoding, reason, start, width, first := octets.getD start 0 }

end Text
end PokerClient
