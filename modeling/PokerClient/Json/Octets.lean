import PokerClient.Json.Parser
import PokerClient.Text.Utf8
import PokerClient.Text.Wide

/-!
# JSON in octets

The encoding of a JSON text shows in its first octets: in a byte order mark, or
else in where zeros stand, as a JSON text starts with an ASCII character.
-/

namespace PokerClient
namespace Json

open Text

/-- How a JSON text is encoded. -/
inductive Encoding where
  | utf8
  | utf16 (order : Wide.Order)
  | utf32 (order : Wide.Order)
  deriving DecidableEq, Repr

/-- The encoding that the zeros among the first octets show. -/
def Encoding.ofZeros : List Octet → Encoding
  | [a, b] => if a = 0 then .utf16 .big else if b = 0 then .utf16 .little else .utf8
  | a :: b :: c :: d :: _ =>
    if a = 0 then if b = 0 then .utf32 .big else .utf16 .big
    else if b = 0 then if c = 0 ∧ d = 0 then .utf32 .little else .utf16 .little
    else .utf8
  | _ => .utf8

/-- The text of octets, by their mark or their zeros. -/
def decodeOctets (bs : List Octet) : Except OctetFault (List Char) :=
  match Wide.order32? bs, Wide.order16? bs with
  | some (order, _), _ => Wide.decode32 order bs 4
  | none, some (order, _) => Wide.decode16 order bs 2
  | none, none =>
    if Utf8.mark.isPrefixOf bs then Utf8.decodeLoose (bs.drop 3)
    else match Encoding.ofZeros bs with
      | .utf16 order => Wide.decode16 order bs 0
      | .utf32 order => Wide.decode32 order bs 0
      | _ => Utf8.decodeLoose bs

/-- Why octets are no JSON value. -/
inductive Refusal where
  | encoding (fault : OctetFault)
  | text (whole : List Char) (fault : Fault)

def Refusal.describe : Refusal → String
  | .encoding fault => fault.describe
  | .text whole fault => fault.describe whole

/-- The value that octets stand for. -/
def ofOctets (bs : List Octet) : Except Refusal Value :=
  match decodeOctets bs with
  | .error f => .error (.encoding f)
  | .ok text =>
    match parse .lenient text with
    | .ok v => .ok v
    | .error f => .error (.text text f)

end Json
end PokerClient
