import PokerClient.Account
import PokerClient.CommandLine
import PokerClient.Lobby
import PokerClient.Probe

/-!
# Verification

Checks a backend the way a client meets it: the probe, the list of tables
without a login, and on request a login and a logout. The first check that fails
ends the verification. The credential is kept in memory.
-/

namespace PokerClient

open Http Text.Charset Time

namespace Verification

def say (level : Level) (message : String) : Action Unit := Action.log level .verification message

/-- The kind of a failure in words. -/
def reasonOf (failure : Option String) : String := failure.getD "None"

/-- Logs in with the account of the environment, and out again. -/
def checkLogin (c : Client) (k : Conditions) (env : Settings.Environment) (url : String) :
    Action Bool := do
  let email := (env.lookup "POKER_TEST_EMAIL").getD ""
  let password := (env.lookup "POKER_TEST_PASSWORD").getD ""
  if email = "" ∨ password = "" then
    say .error "--login needs POKER_TEST_EMAIL and POKER_TEST_PASSWORD"
    return false
  else
    let login ← Account.login c k url email password
    if !login.success then
      say .error s!"Login failed ({reasonOf login.failure}): {login.message}"
      return false
    else
      let outcome ← Account.user c k
      let identity := match outcome.user with
        | some user => user.username
        | none => "identity unknown"
      let expiry := match login.expiresAt with
        | some m => m.spacedText
        | none => "None"
      say .info s!"Logged in ({identity}), credential valid until {expiry}"
      let _ ← Account.logout c k
      say .info "VERIFICATION PASSED"
      return true

/-- Lists the tables. -/
def checkLobby (c : Client) (k : Conditions) (url : String) : Action Bool := do
  let listing ← Lobby.list c k url
  if !listing.success then
    say .error s!"Listing tables failed ({reasonOf listing.failure}): {listing.message}"
    return false
  else
    say .info s!"Lobby has {listing.tables.length} tables"
    return true

/-- Probes the backend. -/
def checkConnection (c : Client) (watch : Probe.Stopwatch) (url : String) : Action Bool := do
  let status ← Probe.check c.settings watch url
  if !status.connected then
    say .error s!"Backend {url} is not reachable"
    return false
  else
    let latency := match status.latency with
      | some x => x.text
      | none => "None"
    say .info s!"Backend reachable in {latency}ms"
    return true

/-- All checks in order. -/
def verify (c : Client) (k : Conditions) (watch : Probe.Stopwatch) (env : Settings.Environment)
    (url : String) (withLogin : Bool) : Action Bool := do
  if !(← checkConnection c watch url) then return false
  else if !(← checkLobby c k url) then return false
  else if !withLogin then return true
  else checkLogin c k env url

/-- The URL to verify: the one that is named, unless it is empty, or the one of
the environment. -/
def target (env : Settings.Environment) (named : Option String) : Except Escape String :=
  match named.filter (· != "") with
  | some url => .ok url
  | none => (Settings.ofEnvironment env).map Settings.backendUrl

/-- The exit code of the program. -/
def exitCode (arguments : List String) (env : Settings.Environment) (codecs : Codecs)
    (now : Moment) (watch : Probe.Stopwatch) : Action Nat := do
  match CommandLine.parse arguments with
  | .help => return 0
  | .misuse => return 2
  | .verify named withLogin =>
    let url ← Action.ofEscape (target env named)
    let settings ← Action.ofEscape (Settings.ofEnvironment env)
    let ok ← verify { store := {}, settings, codecs } { now } watch env url withLogin
    return if ok then 0 else 1

end Verification
end PokerClient
