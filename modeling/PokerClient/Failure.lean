import PokerClient.HostName.Label
import PokerClient.Json.Octets
import PokerClient.Json.Printer
import PokerClient.Text.Charset
import PokerClient.Text.Quoted
import PokerClient.Time.Span
import PokerClient.Validation.Issue

/-!
# Failures

A failure is a cause that an operation reports in its result; its kind and its
wording follow from the cause. An escape is what an operation does not report
and hands on to its caller.
-/

namespace PokerClient

open Json Numeric Text Time Validation

/-- The kinds of failures that a result can name. -/
inductive FailureKind where
  | client
  | network
  | construction
  | httpStatus
  | envelope
  | malformedResponse
  | rejected
  | store
  | notAuthenticated
  deriving DecidableEq, Repr

namespace FailureKind

/-- The word that names a kind. -/
def code : FailureKind → String
  | client => "client"
  | network => "network"
  | construction => "client_construction"
  | httpStatus => "http_status"
  | envelope => "envelope"
  | malformedResponse => "malformed_response"
  | rejected => "backend_rejected"
  | store => "store"
  | notAuthenticated => "not_authenticated"

/-- A kind and the more general kinds it belongs to. -/
def lineage : FailureKind → List FailureKind
  | client => [client]
  | malformedResponse => [malformedResponse, envelope, client]
  | rejected => [rejected, envelope, client]
  | kind => [kind, client]

end FailureKind

/-- What the secret store was asked to do. -/
inductive StoreRequest where
  | read
  | write
  | erase
  deriving DecidableEq, Repr

/-- Why an operation failed. -/
inductive Failure where
  /-- A failure of which only kind and wording are given. -/
  | stated (kind : FailureKind) (message : String)
  | badHeader (name : String)
  | emptyUrl
  | unusableUrl (url reason : String)
  | unreached (method path reason : String)
  /-- The backend answered with a status that is no success. -/
  | status (code : Int) (body : String)
  | notJson (refusal : Refusal)
  | notEnvelope (issues : Nat)
  | notLogin (issues : Nat)
  | notTables (issues : Nat)
  | notTable (issues : Nat)
  /-- The backend said no, with a reason or without. -/
  | rejected (message : Option String)
  | secretStore (request : StoreRequest) (label reason : String)
  | loginRequired

namespace Failure

def kind : Failure → FailureKind
  | stated kind _ => kind
  | badHeader _ => .construction
  | emptyUrl => .construction
  | unusableUrl _ _ => .construction
  | unreached _ _ _ => .network
  | status _ _ => .httpStatus
  | notJson _ => .malformedResponse
  | notEnvelope _ => .malformedResponse
  | notLogin _ => .malformedResponse
  | notTables _ => .malformedResponse
  | notTable _ => .malformedResponse
  | rejected _ => .rejected
  | secretStore _ _ _ => .store
  | loginRequired => .notAuthenticated

def message : Failure → String
  | stated _ message => message
  | badHeader name => s!"Invalid value for header '{name}'"
  | emptyUrl => "Backend URL is empty"
  | unusableUrl url reason => s!"Cannot build HTTP client for '{url}': {reason}"
  | unreached method path reason => s!"{method} {path} failed: {reason}"
  | status _ body => body
  | notJson refusal => s!"Response is not valid JSON: {refusal.describe}"
  | notEnvelope issues => s!"Response is not a valid envelope: {issues} errors"
  | notLogin issues => s!"Login response is missing user or tokens: {issues} errors"
  | notTables issues => s!"Table list has unexpected shape: {issues} errors"
  | notTable issues => s!"Created table has unexpected shape: {issues} errors"
  | rejected message => message.getD "Request failed"
  | secretStore .read label reason => s!"Failed to read credential from {label}: {reason}"
  | secretStore .write label reason => s!"Failed to store credential in {label}: {reason}"
  | secretStore .erase label reason => s!"Failed to delete credential from {label}: {reason}"
  | loginRequired => "Not authenticated: log in first"

/-- The word that names the kind of a failure. -/
def code (f : Failure) : String := f.kind.code

end Failure

/-- What an operation hands on to its caller instead of a result. -/
inductive Escape where
  | invalid (issues : List Issue)
  /-- A clock that is not placed was compared with one that is. -/
  | unplacedClock
  /-- The clock was subtracted from a time without being placed. -/
  | unplacedDifference
  | dateOutOfRange
  | span (fault : SpanFault)
  /-- A request body cannot be written. -/
  | unsendable (f : WriteFault)
  /-- A token is no text, so that its credential cannot be written. -/
  | unwritable (f : WriteFault)
  | unknownUrlType (url : String)
  | invalidUrl (reason : String)
  /-- A host name stands for nothing. -/
  | badHost (f : HostName.Fault)
  | unreadBody
  /-- A body has no text in its charset. -/
  | noText (f : Text.Charset.Fault)
  | badSeconds (name text : String)
  /-- A factory was called without arguments that it needs. -/
  | missingArguments (factory : String) (names : List String)
  | unexpectedArgument (factory name : String)
  /-- A factory takes from `least` to `most` arguments. -/
  | excessArguments (factory : String) (least most given : Nat)
  | repeatedArgument (factory name : String)
  | repeatedKeyword (factory name : String)
  /-- A value of the named type was multiplied. -/
  | notMultipliable (typeName : String)
  /-- Values of the two named types were compared. -/
  | notComparable (left right : String)
  /-- The transport gave up for a reason that is no network failure. -/
  | transport (name message : String)

namespace Escape

/-- Names between quotation marks, the last one after an "and". -/
def listNames : List String → String
  | [] => ""
  | [a] => s!"'{a}'"
  | [a, b] => s!"'{a}' and '{b}'"
  | a :: rest => s!"'{a}', " ++ listMore rest
where
  listMore : List String → String
    | [] => ""
    | [a] => s!"and '{a}'"
    | a :: rest => s!"'{a}', " ++ listMore rest

def message : Escape → String
  | invalid issues => s!"{issues.length} validation errors"
  | unplacedClock => "can't compare offset-naive and offset-aware datetimes"
  | unplacedDifference => "can't subtract offset-naive and offset-aware datetimes"
  | dateOutOfRange => "date value out of range"
  | span fault => fault.describe
  | unsendable f => f.describe
  | unwritable f => s!"Error serializing to JSON: UnicodeEncodeError: {f.describe}"
  | unknownUrlType url => s!"unknown url type: {quoted url}"
  | invalidUrl reason => reason
  | badHost f => f.describe
  | unreadBody =>
    "Attempted to access streaming response content, without having called \x60read()\x60."
  | noText f => f.describe
  | badSeconds name text => s!"{name} must be a number of seconds, got {quoted text}"
  | missingArguments factory names =>
    s!"{factory}() missing {names.length} required positional argument" ++
      (if names.length = 1 then "" else "s") ++ s!": {listNames names}"
  | unexpectedArgument factory name => s!"{factory}() got an unexpected keyword argument '{name}'"
  | excessArguments factory least most given =>
    s!"{factory}() takes " ++
      (if least = most then s!"{most} positional argument" ++ (if most = 1 then "" else "s")
        else s!"from {least} to {most} positional arguments") ++
      s!" but {given} " ++ (if given = 1 then "was" else "were") ++ " given"
  | repeatedArgument factory name => s!"{factory}() got multiple values for argument '{name}'"
  | repeatedKeyword factory name =>
    s!"{factory}() got multiple values for keyword argument '{name}'"
  | notMultipliable typeName => s!"unsupported operand type(s) for *: '{typeName}' and 'int'"
  | notComparable left right =>
    s!"'<' not supported between instances of '{left}' and '{right}'"
  | transport _ message => message

end Escape

/-- What ends an operation early: a failure, which its result reports, or an
escape. -/
inductive Stop where
  | failure (f : Failure)
  | escape (e : Escape)

end PokerClient
