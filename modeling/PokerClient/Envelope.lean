import PokerClient.Failure
import PokerClient.Validation.FieldName

/-!
# Envelopes

An answer about tables is wrapped in an envelope, which says whether the request
succeeded and holds either data or the reason why not. The reason may be given
as a bare text or inside an object.
-/

namespace PokerClient

open Json Validation

/-- The reason that an envelope gives. -/
structure EnvelopeError where
  message : Option String
  deriving DecidableEq, Repr

namespace EnvelopeError

def ofFields (fields : Fields) : Checked EnvelopeError :=
  EnvelopeError.mk <$> optional fields ["message"] none (nullable text)

def check : Reading EnvelopeError := record ofFields

def dump (e : EnvelopeError) : Value := .object [("message", orNull .str e.message)]

end EnvelopeError

structure Envelope where
  success : Bool
  data : Value
  error : Option EnvelopeError

namespace Envelope

/-- A bare text is the reason itself. -/
def checkReason : Reading (Option EnvelopeError)
  | .str s => .valid (some { message := some s })
  | .torn points => .valid (some { message := some (textOfPoints points) })
  | v => nullable EnvelopeError.check v

def ofFields (fields : Fields) : Checked Envelope :=
  Envelope.mk
    <$> required fields ["success"] truth
    <*> optional fields ["data"] .null anything
    <*> optional fields ["error"] none checkReason

def check : Reading Envelope := record ofFields

def dump (e : Envelope) : Value :=
  .object [("success", .bool e.success), ("data", e.data),
    ("error", orNull EnvelopeError.dump e.error)]

/-- The reason that an envelope gives, if it gives one in words. -/
def reason? (e : Envelope) : Option String :=
  e.error.bind fun error => error.message.filter (· != "")

/-- The data of an envelope that reports success. -/
def unwrap (payload : Value) : Except Failure Value :=
  match check payload with
  | .invalid issues => .error (.notEnvelope issues.length)
  | .valid e => if e.success then .ok e.data else .error (.rejected e.reason?)

end Envelope
end PokerClient
