import PokerClient.HostName.Direction
import PokerClient.HostName.Joining
import PokerClient.HostName.Permitted
import PokerClient.HostName.Punycode
import PokerClient.Text.Composition
import PokerClient.Text.Quoted

/-!
# Labels

A host name is a sequence of labels with points between them. A label stands for
code points, which have to be permitted where they are.
-/

namespace PokerClient
namespace HostName

open Text

/-- Why a host name stands for nothing. Positions count from one. -/
inductive Fault where
  | tooLong
  | noContent
  | finalHyphen
  | notDecodable
  | emptyLabel
  | notComposed
  | innerHyphens
  | outerHyphen
  | leadingMark
  | notPermitted (label : List Nat) (position n : Nat)
  | misplacedJoiner (label : List Nat) (position n : Nat)
  | misplaced (label : List Nat) (position n : Nat)
  | direction (label : List Nat) (f : DirectionFault)
  deriving DecidableEq, Repr

/-- The kinds of faults. -/
inductive FaultKind where
  | shape
  | codePoint
  | context
  | direction
  deriving DecidableEq, Repr

namespace Fault

def kind : Fault → FaultKind
  | notPermitted _ _ _ => .codePoint
  | misplaced _ _ _ => .context
  | direction _ _ => .direction
  | _ => .shape

/-- A code point as a number. -/
def shown (n : Nat) : String := String.ofList ('U' :: '+' :: (hexDigits 4 n).map Char.toUpper)

def describe : Fault → String
  | tooLong => "Domain too long"
  | noContent => "Malformed A-label, no Punycode eligible content found"
  | finalHyphen => "A-label must not end with a hyphen"
  | notDecodable => "Invalid A-label"
  | emptyLabel => "Empty Label"
  | notComposed => "Label must be in Normalization Form C"
  | innerHyphens => "Label has disallowed hyphens in 3rd and 4th position"
  | outerHyphen => "Label must not start or end with a hyphen"
  | leadingMark => "Label begins with an illegal combining character"
  | notPermitted label position n =>
    s!"Codepoint {shown n} at position {position} of {quotedPoints label} not allowed"
  | misplacedJoiner label position n =>
    s!"Unknown codepoint adjacent to joiner {shown n} at position {position} " ++
      s!"in {quotedPoints label}"
  | misplaced label position n =>
    s!"Codepoint {shown n} not allowed at position {position} in {quotedPoints label}"
  | direction label (.unknown position) =>
    s!"Unknown directionality in label {quotedPoints label} at position {position}"
  | direction label .first =>
    s!"First codepoint in label {quotedPoints label} must be directionality L, R or AL"
  | direction _ (.notLeftward position) =>
    s!"Invalid direction for codepoint at position {position} in a right-to-left label"
  | direction _ .mixedNumerals => "Can not mix numeral types in a right-to-left label"
  | direction _ (.notRightward position) =>
    s!"Invalid direction for codepoint at position {position} in a left-to-right label"
  | direction _ .ending => "Label ends with illegal codepoint directionality"

end Fault

/-! ## Code points among their neighbours -/

/-- The class of marks that end a syllable without a vowel. -/
def vowelKiller : Nat := 9

/-- The two joiners. -/
def isJoiner (n : Nat) : Bool := n == 0x200C || n == 0x200D

/-- Whether nothing is known of a code point but that it is permitted. -/
def isObscure (n : Nat) : Bool :=
  Composition.combiningClass n == 0 && Direction.of n == .unknown

/-- Whether a joiner may stand between the code points before, the nearest first,
and those after. One of them keeps letters apart that would join. -/
def allowsJoiner (n : Nat) (before after : List Nat) : Bool :=
  before.head?.any (Composition.combiningClass · == vowelKiller)
    || (n == 0x200C && !before.head?.any isObscure
      && (nearestJoining? before == some .dual || nearestJoining? before == some .leftward)
      && (nearestJoining? after == some .dual || nearestJoining? after == some .rightward))

def isArabicNumeral (n : Nat) : Bool := 0x660 ≤ n && n ≤ 0x669

def isFarArabicNumeral (n : Nat) : Bool := 0x6F0 ≤ n && n ≤ 0x6F9

/-- Whether a sign may stand between the code points before, the nearest first,
and those after; none if it is no sign of the kind that depends on them. -/
def allowsSign? (n : Nat) (before after : List Nat) : Option Bool :=
  let all := before ++ after
  if n = 0xB7 then some (before.head? == some 0x6C && after.head? == some 0x6C)
  else if n = 0x375 then some (after.head?.any (isIn greekRuns))
  else if n = 0x5F3 ∨ n = 0x5F4 then some (before.head?.any (isIn hebrewRuns))
  else if n = 0x30FB then some (all.any fun m => m != 0x30FB && isJapanese m)
  else if isArabicNumeral n then some (!all.any isFarArabicNumeral)
  else if isFarArabicNumeral n then some (!all.any isArabicNumeral)
  else none

/-- Checks the code points of a label one by one. Those passed are in `before`,
the last one first. -/
def checkPoints (label before : List Nat) : List Nat → Except Fault Unit
  | [] => .ok ()
  | n :: after =>
    let position := before.length + 1
    if isPermitted n then checkPoints label (n :: before) after
    else if isJoiner n then
      if allowsJoiner n before after then checkPoints label (n :: before) after
      else .error (.misplacedJoiner label position n)
    else match allowsSign? n before after with
      | some true => checkPoints label (n :: before) after
      | some false => .error (.misplaced label position n)
      | none => .error (.notPermitted label position n)

/-! ## Labels and names -/

def hyphen : Nat := 0x2D

/-- Checks the code points that a label stands for. -/
def check (label : List Nat) : Except Fault Unit := do
  if label.isEmpty then .error .emptyLabel
  if !Composition.isComposed label then .error .notComposed
  if (label.drop 2).take 2 == [hyphen, hyphen] then .error .innerHyphens
  if label.head? == some hyphen || label.getLast? == some hyphen then .error .outerHyphen
  if label.head?.any Composition.isMark then .error .leadingMark
  checkPoints label [] label
  (Direction.check (label.map Direction.of)).mapError (.direction label)

/-- What an encoded label starts with. -/
def mark : List Char := ['x', 'n', '-', '-']

/-- The code points that a label stands for. -/
def readLabel (cs : List Char) : Except Fault (List Nat) := do
  let cs := lower cs
  let label ←
    if mark.isPrefixOf cs then
      let encoded := cs.drop mark.length
      if encoded.isEmpty then .error .noContent
      else if encoded.getLast? = some '-' then .error .finalHyphen
      else match Punycode.decode? encoded with
        | some label => .ok label
        | none => .error .notDecodable
    else .ok (cs.map Char.toNat)
  check label
  return label

/-- The labels of a name. The last one may be followed by a point. -/
def labels (name : List Char) : List (List Char) :=
  let parts := splitOn '.' name
  if parts.getLast? = some [] then parts.dropLast else parts

/-- The code points that a host name stands for. -/
def read (name : List Char) : Except Fault (List Nat) :=
  if 254 < name.length then .error .tooLong
  else do
    let points ← (labels name).mapM readLabel
    return joinWith '.'.toNat (points ++ if name.getLast? = some '.' then [[]] else [])

/-- Whether a name starts with an encoded label. -/
def isEncoded (name : List Char) : Bool := mark.isPrefixOf name

/-- Whether a name in ASCII and its labels are short enough. -/
def isWritable (name : List Char) : Bool :=
  (labels name).all (fun label => label.length ≤ 63)
    && name.length ≤ if name.getLast? = some '.' then 254 else 253

/-- The points that can stand between labels. -/
def isPoint (c : Char) : Bool := c == '.' || c == '\u3002' || c == '\uff0e' || c == '\uff61'

/-- A label in ASCII. One that is in ASCII already has to stand for something. -/
def encodeLabel (label : List Char) : Except Fault (List Char) :=
  let points := label.map Char.toNat
  if label.all (·.toNat < 0x80) then (readLabel label).map fun _ => label
  else (check points).map fun _ => mark ++ Punycode.encode points

/-- A name in ASCII. -/
def encode (name : List Char) : Except Fault (List Char) :=
  if name.isEmpty then .error .emptyLabel
  else if 254 < name.length then .error .tooLong
  else do
    let name := name.map fun c => if isPoint c then '.' else c
    let encoded ← (labels name).mapM encodeLabel
    let joined := joinWith '.' (encoded ++ if name.getLast? = some '.' then [[]] else [])
    if isWritable joined then return joined else .error .tooLong

end HostName
end PokerClient
