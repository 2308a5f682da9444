import PokerClient.Http.ContentCoding
import PokerClient.Http.MediaType

/-!
# Responses

How the octets of an answer are read as text or as a value. An answer can name
the charset of its text; without a charset that is known the text is UTF-8.
-/

namespace PokerClient
namespace Http

open Json Text

/-- An answer that can be read. The body is missing if it was never fetched. -/
structure Response where
  status : Int
  headers : HeaderList
  body : Option (List Octet)

/-- A reply whose body is fetched. -/
def Response.ofReply (r : Reply) : Except Compression.Fault Response :=
  r.decoded.map fun octets => { status := r.status, headers := r.headers, body := some octets }

/-- A reply whose body is not fetched. -/
def Response.unread (r : Reply) : Response :=
  { status := r.status, headers := r.headers, body := none }

/-- The charset of the text of a response. -/
def Response.charset (codecs : Charset.Codecs) (r : Response) : Except Escape Charset :=
  match header? r.headers "content-type" with
  | some mediaType => do
    let name ← MediaType.charset? codecs mediaType
    return (name.bind Charset.ofName?).getD .utf8
  | none => .ok .utf8

namespace Response

def isSuccess (r : Response) : Bool := 200 ≤ r.status && r.status ≤ 299

/-- The text of a response. -/
def text (codecs : Charset.Codecs) (r : Response) : Except Escape String :=
  match r.body with
  | none => .error .unreadBody
  | some [] => .ok ""
  | some octets => do
    let charset ← r.charset codecs
    match charset.decode codecs octets with
    | .ok cs => return String.ofList cs
    | .error f => .error (.noText f)

/-- The value that the body of a response stands for. -/
def json (r : Response) : Except Stop Value :=
  match r.body with
  | none => .error (.escape .unreadBody)
  | some octets =>
    match ofOctets octets with
    | .ok v => .ok v
    | .error refusal => .error (.failure (.notJson refusal))

end Response
end Http
end PokerClient
