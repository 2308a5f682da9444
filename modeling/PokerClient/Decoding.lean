import PokerClient.Envelope
import PokerClient.Http.Response
import PokerClient.Login

/-!
# Decoding answers

Answers about tables come in an envelope, the answer to a login does not. Both
ways look at the status first, then at the syntax, then at the shape. A login
answer that does come in an envelope is taken out of it.
-/

namespace PokerClient

open Http Json Text.Charset Validation

namespace Decoding

/-- What stands for an error body without text. -/
def unknownError : String := "Unknown error"

/-- The text of an error body. A body that was never fetched has none, nor has one of
which a codec could make no text. -/
def errorBody (codecs : Codecs) (r : Response) : Except Escape String :=
  match r.text codecs with
  | .ok "" => .ok unknownError
  | .ok body => .ok body
  | .error .unreadBody => .ok unknownError
  | .error (.noText (.undecodable _)) => .ok unknownError
  | .error e => .error e

/-- Refuses a response whose status is no success. -/
def checkStatus (codecs : Codecs) (r : Response) : Except Stop Unit :=
  if r.isSuccess then .ok ()
  else match errorBody codecs r with
    | .ok body => .error (.failure (.status r.status body))
    | .error e => .error (.escape e)

/-- The data of an answer in an envelope. -/
def envelope (codecs : Codecs) (r : Response) : Except Stop Value := do
  checkStatus codecs r
  let payload ← r.json
  (Envelope.unwrap payload).mapError .failure

/-- Whether a value says how a request went without saying who logged in. -/
def isEnvelope : Value → Bool
  | .object fields => Fields.has fields "success" && !Fields.has fields "user"
  | _ => false

/-- The login in a value. -/
def loginOf (payload : Value) : Except Failure Login := do
  let payload ← if isEnvelope payload then Envelope.unwrap payload else pure payload
  match Login.check payload with
  | .valid login => .ok login
  | .invalid issues => .error (.notLogin issues.length)

/-- The login in a value that is no envelope. -/
def bareLogin (v : Value) : Except Failure Login :=
  match Login.check v with
  | .valid login => .ok login
  | .invalid issues => .error (.notLogin issues.length)

theorem loginOf_eq (v : Value) :
    loginOf v = (if isEnvelope v then Envelope.unwrap v else pure v) >>= bareLogin := by
  unfold loginOf
  split <;> rfl

/-- The answer to a login. -/
def login (codecs : Codecs) (r : Response) : Except Stop Login := do
  checkStatus codecs r
  let payload ← r.json
  (loginOf payload).mapError .failure

end Decoding
end PokerClient
