import PokerClient.Action

/-!
# Exchanges

A request and the answers to it, with redirects. Every redirect is worked out,
whether it is followed or not, so that a bad one is noticed.
-/

namespace PokerClient
namespace Http

open Text

/-- Why an exchange ends without a response. -/
inductive Interruption where
  | network (reason : String)
  | escape (e : Escape)

/-- The errors by which a transport says that the network failed. -/
def networkErrors : List String :=
  ["RequestError", "TransportError", "TimeoutException", "ConnectTimeout", "ReadTimeout",
    "WriteTimeout", "PoolTimeout", "NetworkError", "ConnectError", "ReadError", "WriteError",
    "CloseError", "ProtocolError", "LocalProtocolError", "RemoteProtocolError", "ProxyError",
    "UnsupportedProtocol", "DecodingError", "TooManyRedirects"]

/-- The reply of an answer. An error without text is told by its name. -/
def replyOf : Answer → Except Interruption Reply
  | .gaveUp name message =>
    if networkErrors.contains name then .error (.network (if message = "" then name else message))
    else .error (.escape (.transport name message))
  | .reply r => .ok r

/-- Whether a URL starts with a scheme, so that its answer can be looked at for
cookies. -/
def hasScheme (u : Url) : Bool :=
  let cs := u.write
  let inside (c : Char) : Bool := c != '/' && c != ':'
  !(cs.takeWhile inside).isEmpty && (cs.dropWhile inside).head? == some ':'

namespace Redirect

def statuses : List Int := [301, 302, 303, 307, 308]

/-- Where a reply sends the request. -/
def location? (r : Reply) : Option String :=
  if statuses.contains r.status then header? r.headers "location" else none

/-- The method of the request that follows. -/
def method (status : Int) (method : String) : String :=
  if (status = 303 ∨ status = 302) ∧ method ≠ "HEAD" then "GET"
  else if status = 301 ∧ method = "POST" then "GET"
  else method

/-- Checks that the host of a URL stands for something. -/
def checkHost (u : Url) : Except Interruption Unit := (Request.checkHost u).mapError .escape

/-- The URL of the request that follows. -/
def url (current : Url) (location : String) : Except Interruption Url := do
  let escaping {α : Type} (x : Except UrlFault α) : Except Interruption α :=
    x.mapError fun f => .escape (.invalidUrl f.describe)
  let next ← (Url.parse location.toList).mapError fun f =>
    .network s!"Invalid URL in location header: {f.describe}."
  let next ←
    if next.scheme.isEmpty then pure next
    else do
      checkHost next
      if next.host.isEmpty then escaping (next.withHostOf current) else pure next
  let next ← if next.isAbsolute then pure next else escaping (next.seenFrom current)
  let fragment := Percent.decode (current.fragment.getD [])
  let next ←
    if !fragment.isEmpty && (Percent.decode (next.fragment.getD [])).isEmpty then
      escaping (next.withFragment fragment)
    else pure next
  checkHost next
  return next

def sameOrigin (u v : Url) : Bool :=
  u.scheme == v.scheme && u.host == v.host && u.effectivePort? == v.effectivePort?

/-- Whether the only difference is that the connection becomes a secure one. -/
def becomesSecure (u v : Url) : Bool :=
  u.host == v.host && u.scheme == "http".toList && u.effectivePort? == some 80
    && v.scheme == "https".toList && v.effectivePort? == some 443

/-- The request that follows. The authorization does not leave its origin, and a
request whose method changes loses its body. -/
def request (r : Request) (status : Int) (next : Url) : Request :=
  let newMethod := method status r.method
  let same := sameOrigin next r.url
  let dropsBody := newMethod ≠ r.method && newMethod == "GET"
  { method := newMethod
    url := next
    host := if same then r.host else some (String.ofList next.netloc)
    userAgent := r.userAgent
    authorization := if same || becomesSecure r.url next then r.authorization else none
    contentType := r.contentType
    contentLength := if dropsBody then none else r.contentLength
    body := if dropsBody then [] else r.body }

/-- The redirects that are followed before giving up. -/
def limit : Nat := 20

end Redirect

/-- A URL as an error shows it; a mark of an empty fragment does not show. -/
def shownUrl (u : Url) : String :=
  let cs := u.write
  String.ofList (if cs.getLast? = some '#' then cs.dropLast else cs)

/-- The reply to one request. -/
def exchangeOnce (r : Request) : Action (Except Interruption Reply) := do
  match replyOf (← Action.send r) with
  | .error stop => return .error stop
  | .ok reply =>
    if hasScheme r.url then return .ok reply
    else return .error (.escape (.unknownUrlType (shownUrl r.url)))

/-- The request that a reply asks for, if it is a redirect. -/
def next? (r : Request) (reply : Reply) : Except Interruption (Option Request) :=
  match Redirect.location? reply with
  | none => .ok none
  | some location =>
    (Redirect.url r.url location).map fun url => some (Redirect.request r reply.status url)

/-- The body of a reply together with the request that it asks for, which is
worked out before the body is fetched. -/
def fetched (r : Request) (reply : Reply) : Except Interruption (Response × Option Request) := do
  let next ← next? r reply
  let response ← (Response.ofReply reply).mapError fun f => .network f.describe
  return (response, next)

/-- The response to a request, after as many redirects as are followed. -/
def exchange (follow : Bool) : Nat → Request → Action (Except Interruption Response)
  | left, r => do
    match ← exchangeOnce r with
    | .error stop => return .error stop
    | .ok reply =>
      match fetched r reply with
      | .error stop => return .error stop
      | .ok (response, none) => return .ok response
      | .ok (response, some request) =>
        if !follow then return .ok response
        else match left with
          | 0 => return .error (.network "Exceeded maximum allowed redirects.")
          | left + 1 => exchange follow left request

/-- Sends a request of a connection. Whatever goes wrong with the network is a
failure. -/
def send (c : Connection) (method path : String) (body : Option Json.Value)
    (follow : Bool := false) : Action Response := do
  let request ← Action.ofEscape (Request.build c method path body)
  match ← exchange follow Redirect.limit request with
  | .ok response => return response
  | .error (.network reason) => Action.fail (.unreached method path reason)
  | .error (.escape e) => Action.escape e

end Http
end PokerClient
