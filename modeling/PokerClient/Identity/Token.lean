import PokerClient.Json.Octets
import PokerClient.Text.Base64
import PokerClient.Text.Blank

/-!
# Signed tokens

A token has a header, claims and a signature with points between them, each part
in base 64. The signature is not verified, as the key is not at hand, but it has
to be well formed.
-/

namespace PokerClient
namespace Identity

open Json Text

/-- The header and the claims of a token. -/
structure Token where
  header : Fields
  claims : Fields

namespace Token

/-- The three parts of a token as text. -/
def parts? (cs : List Char) : Option (List Char × List Char × List Char) :=
  (cutAtLast? '.' cs).bind fun (signed, signature) =>
    match cutAt '.' signed with
    | (header, some claims) => some (header, claims, signature)
    | (_, none) => none

/-- The object that octets stand for. -/
def object? (bs : List Octet) : Option Fields :=
  match ofOctets bs with
  | .ok (.object fields) => some fields
  | _ => none

/-- A key name, if there is one, has to be text. -/
def keyNamed (header : Fields) : Bool :=
  match header.get? "kid" with
  | none => true
  | some (.str _) => true
  | some (.torn _) => true
  | some _ => false

/-- The claims have to be encoded like all else. -/
def encodedClaims (header : Fields) : Bool :=
  match header.get? "b64" with
  | some (.bool false) => false
  | _ => true

/-- The names that a reader of the token has to know about. The only one known is
that of the field on the encoding of the claims. -/
def knownMarks (header : Fields) : Bool :=
  match header.get? "crit" with
  | none => true
  | some (.list names) =>
    !names.isEmpty && header.has "b64" && names.all fun
      | .str s => s == "b64"
      | _ => false
  | some _ => false

def ofText? (text : String) : Option Token := do
  let (header, claims, signature) ← parts? text.toList
  let header ← object? (← Base64.decode? .address header)
  let claims ← Base64.decode? .address claims
  let _ ← Base64.decode? .address signature
  let claims ← object? claims
  if keyNamed header && encodedClaims header && knownMarks header then some { header, claims }
  else none

end Token
end Identity
end PokerClient
