import PokerClient.Decoding
import PokerClient.Endpoint
import PokerClient.Http.Exchange
import PokerClient.Identity.Claims
import PokerClient.Outcome
import PokerClient.Rejection
import PokerClient.Store

/-!
# Accounts

Logging in and out, and what can be said about the session without asking the
backend. A login that cannot be stored has failed.
-/

namespace PokerClient

open Http Json Time Validation

namespace Account

/-- What a player types. -/
def loginBody (identifier password : String) : Value :=
  .object [(Endpoint.identifierField, .str identifier), ("password", .str password)]

/-- Asks the backend for tokens. -/
def signIn (c : Client) (url identifier password : String) : Action Login := do
  let connection ← Action.ofFailure (Connection.build c.settings none url)
  let response ← Http.send connection "POST" Endpoint.login (some (loginBody identifier password))
  Action.ofStop (Decoding.login c.codecs response)

/-- Asks the backend for tokens and makes a credential of them. -/
def obtain (c : Client) (now : Moment) (url identifier password : String) :
    Action (Login × Credential GivenText) := do
  let login ← signIn c url identifier password
  let credential ← Action.ofEscape
    (c.store.policy.issue now login.tokens.accessToken login.tokens.refreshToken)
  return (login, credential)

/-- Stores the credential of a login. -/
def keep (c : Client) (k : Conditions) (granted : Login × Credential GivenText) :
    Action (Login × Credential GivenText) := do
  c.store.set k granted.2
  return granted

/-- Asks the backend for tokens and stores a credential made of them. -/
def establish (c : Client) (k : Conditions) (url identifier password : String) :
    Action (Login × Credential GivenText) :=
  obtain c k.now url identifier password >>= keep c k

/-- The outcome of a login that failed. A refusal is told in the backend's own
words where it has any. -/
def refused : Failure → Action LoginOutcome
  | .status code body => do
    let message := Rejection.message body
    Action.log .warning .account s!"Login rejected with HTTP {code}: {message}"
    return { success := false, message, failure := some FailureKind.httpStatus.code }
  | f => do
    Action.log .warning .account s!"Login failed ({f.code}): {f.message}"
    return .failed f

/-- The outcome of a login that was stored. -/
def loginOutcome {Token : Type} (login : Login) (credential : Credential Token) : LoginOutcome :=
  { success := true
    message := if login.message = "" then "Login successful" else login.message
    user := some login.user
    tokens := some login.tokens
    expiresAt := some (Moment.ofUtc credential.expiresAt) }

/-- What is reported of a login. -/
def reportLogin : Except Failure (Login × Credential GivenText) → Action LoginOutcome
  | .error f => refused f
  | .ok (login, credential) => do
    let expiresAt := Moment.ofUtc credential.expiresAt
    Action.log .info .account
      s!"Logged in as '{login.user.username}', credential valid until {expiresAt.text}"
    return loginOutcome login credential

def login (c : Client) (k : Conditions) (url identifier password : String) :
    Action LoginOutcome := do
  reportLogin (← (establish c k url identifier password).attempt)

/-- What is reported of a logout. -/
def reportLogout : Except Failure Unit → Action Outcome
  | .error f => do
    Action.log .warning .account s!"Logout failed: {f.message}"
    return .failed f
  | .ok () => do
    Action.log .info .account "Logged out"
    return { success := true, message := "Logged out" }

/-- Forgets the credential. Logging out twice is no failure. -/
def logout (c : Client) (k : Conditions) : Action Outcome := do
  reportLogout (← (c.store.delete k).attempt)

def notLoggedIn : String := "Not logged in"

/-- The outcome of asking for the access token, by what the store holds. -/
def tokenOutcome : Option Credential → TokenOutcome
  | none => { success := true, message := notLoggedIn }
  | some credential =>
    { success := true
      accessToken := some credential.accessToken
      expiresAt := some (Moment.ofUtc credential.expiresAt) }

/-- What is reported of the access token. -/
def reportToken : Except Failure (Option Credential) → Action TokenOutcome
  | .error f => return .failed f
  | .ok found => return tokenOutcome found

/-- The access token, if there is one that is usable. -/
def token (c : Client) (k : Conditions) : Action TokenOutcome := do
  reportToken (← (c.store.get k).attempt)

/-- What the token of a credential says about its user. -/
def describe (credential : Credential) : UserOutcome :=
  match Identity.user? credential.accessToken with
  | none =>
    { success := true, message := "Authenticated, identity unknown", authenticated := true }
  | some user =>
    { success := true, authenticated := true, identityKnown := true, user := some user }

/-- The outcome of asking who is logged in, by what the store holds. -/
def userOutcome : Option Credential → UserOutcome
  | none => { success := true, message := notLoggedIn }
  | some credential => describe credential

/-- What is reported of who is logged in. -/
def reportUser : Except Failure (Option Credential) → Action UserOutcome
  | .error f => return .failed f
  | .ok found => return userOutcome found

/-- Who is logged in. -/
def user (c : Client) (k : Conditions) : Action UserOutcome := do
  reportUser (← (c.store.get k).attempt)

end Account
end PokerClient
