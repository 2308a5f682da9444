import PokerClient.Failure
import PokerClient.Validation.FieldName

/-!
# Settings

What the operations of a client share: how requests introduce themselves, how
long they may take, and where the credential is kept. Settings can be taken from
the environment.
-/

namespace PokerClient

open Json Numeric Validation

def defaultService : String := "primo-poker"

def defaultAccount : String := "auth-token"

/-- The name of a place in the secret store. -/
def slotLabel (service account : String) : String := s!"{service}/{account}"

structure Settings where
  backendUrl : String := "https://primo-poker-server.alabamamike.workers.dev"
  keyringService : String := defaultService
  keyringAccount : String := defaultAccount
  requestTimeout : Binary64 := Binary64.ofNat 30
  connectTimeout : Binary64 := Binary64.ofNat 10
  userAgent : String := "PrimoPoker-Desktop/0.1.0"
  deriving DecidableEq

namespace Settings

def standard : Settings := {}

def ofFields (fields : Fields) : Checked Settings :=
  Settings.mk
    <$> optional fields ["backend_url"] standard.backendUrl text
    <*> optional fields ["keyring_service"] standard.keyringService text
    <*> optional fields ["keyring_account"] standard.keyringAccount text
    <*> optional fields ["request_timeout"] standard.requestTimeout number
    <*> optional fields ["connect_timeout"] standard.connectTimeout number
    <*> optional fields ["user_agent"] standard.userAgent text

def check : Reading Settings := record ofFields

def dump (s : Settings) : Value :=
  .object [("backend_url", .str s.backendUrl), ("keyring_service", .str s.keyringService),
    ("keyring_account", .str s.keyringAccount), ("request_timeout", .float s.requestTimeout),
    ("connect_timeout", .float s.connectTimeout), ("user_agent", .str s.userAgent)]

/-- The variables of an environment. -/
abbrev Environment := List (String × String)

/-- A count of seconds from a variable. -/
def seconds (env : Environment) (name : String) (default : Binary64) : Except Escape Binary64 :=
  match env.lookup name with
  | none => .ok default
  | some raw =>
    match readFloat? raw.toList with
    | some x => .ok x
    | none => .error (.badSeconds name raw)

/-- The settings that an environment asks for. -/
def ofEnvironment (env : Environment) : Except Escape Settings := do
  let requestTimeout ← seconds env "POKER_REQUEST_TIMEOUT" standard.requestTimeout
  let connectTimeout ← seconds env "POKER_CONNECT_TIMEOUT" standard.connectTimeout
  return {
    backendUrl := (env.lookup "POKER_BACKEND_URL").getD standard.backendUrl
    keyringService := (env.lookup "POKER_KEYRING_SERVICE").getD standard.keyringService
    keyringAccount := (env.lookup "POKER_KEYRING_ACCOUNT").getD standard.keyringAccount
    requestTimeout
    connectTimeout
    userAgent := (env.lookup "POKER_USER_AGENT").getD standard.userAgent }

end Settings
end PokerClient
