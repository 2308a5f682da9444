import PokerClient.Failure
import PokerClient.Http.Reference
import PokerClient.Json.Printer
import PokerClient.Settings
import PokerClient.Text.Base64

/-!
# Requests

A connection holds what all requests to a backend have in common. The path of a
request is appended to the URL of the connection, and its body is JSON.
-/

namespace PokerClient
namespace Http

open Json Numeric Text

/-- How requests introduce themselves. -/
structure Credentials where
  userAgent : String
  authorization : Option String
  deriving DecidableEq, Repr

namespace Credentials

/-- Whether a value can stand in a header. -/
def isHeaderValue (s : String) : Bool := s.toList.all isPlain

/-- The header of an access token. -/
def bearer (token : String) : String := s!"Bearer {token}"

def build (settings : Settings) (token : Option String) : Except Failure Credentials :=
  if !isHeaderValue settings.userAgent then .error (.badHeader "User-Agent")
  else
    let authorization := token.map bearer
    if !authorization.all isHeaderValue then .error (.badHeader "Authorization")
    else .ok { userAgent := settings.userAgent, authorization }

end Credentials

/-- What every answer is asked to be. -/
def acceptedType : String := "application/json"

structure Connection where
  base : Url
  credentials : Credentials
  requestTimeout : Binary64
  connectTimeout : Binary64

/-- A connection to a backend. -/
def Connection.build (settings : Settings) (token : Option String) (url : String) :
    Except Failure Connection := do
  let credentials ← Credentials.build settings token
  let trimmed := dropEnd '/' url.toList
  if trimmed.isEmpty then .error .emptyUrl
  match Url.parse trimmed >>= Url.asBase with
  | .ok base =>
    return { base, credentials, requestTimeout := settings.requestTimeout,
             connectTimeout := settings.connectTimeout }
  | .error f => .error (.unusableUrl url f.describe)

structure Request where
  method : String
  url : Url
  host : Option String
  userAgent : String
  authorization : Option String
  contentType : Option String
  contentLength : Option Nat
  body : List Char

namespace Request

/-- The methods that announce a body even if there is none. -/
def announcesBody (method : String) : Bool := ["POST", "PUT", "PATCH"].contains method

/-- The authorization that the user and the password in a URL ask for. -/
def basic (u : Url) : String :=
  String.ofList ("Basic ".toList ++
    Base64.encodePadded .standard
      (Utf8.encode u.username ++ octet ':'.toNat :: Utf8.encode u.password))

def hostOf (u : Url) : Option String :=
  if u.host.isEmpty then none else some (String.ofList u.netloc)

/-- Checks that the host of a URL stands for something. -/
def checkHost (u : Url) : Except Escape Unit :=
  match u.readableHost with
  | .ok _ => .ok ()
  | .error f => .error (.badHost f)

/-- A request of a connection. What the URL says of the user goes before the
authorization of the connection. -/
def build (c : Connection) (method path : String) (body : Option Value) :
    Except Escape Request :=
  let method := String.ofList (method.toList.map Char.toUpper)
  match Url.parse path.toList >>= fun u => u.under c.base with
  | .error f => .error (.invalidUrl f.describe)
  | .ok url => do
    let request : Request :=
      { method, url, host := hostOf url, userAgent := c.credentials.userAgent
        authorization :=
          if url.username.isEmpty && url.password.isEmpty then c.credentials.authorization
          else some (basic url)
        contentType := none
        contentLength := if announcesBody method then some 0 else none
        body := [] }
    let request ← match body with
      | none => pure request
      | some v =>
        match v.sent with
        | .error f => .error (.unsendable f)
        | .ok text =>
          pure { request with
            contentType := some acceptedType
            contentLength := some (Utf8.encode text).length
            body := text }
    checkHost url
    return request

end Request
end Http
end PokerClient
