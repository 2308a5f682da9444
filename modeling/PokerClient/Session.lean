import PokerClient.Account
import PokerClient.Lobby
import PokerClient.Probe

/-!
# Sessions

A session is a client with a slot and a clock over a sequence of steps. What a
step needs from outside, the answers of the network and the moods of the
keyring, comes with the step; only slot and clock are carried to the next one.
-/

namespace PokerClient

open Http Json Time Validation

/-- What a step of a session does. -/
inductive Command where
  | login (identifier password : String)
  | logout
  | token
  | user
  | list
  | create (config : Value)
  | join (tableId : String) (buyIn : Value)
  | check (watch : Probe.Stopwatch)
  | get
  | set (credential : Value)
  | delete
  /-- Replaces the content of the slot behind the back of the store. -/
  | put (slot : Option String)
  /-- Moves the clock. -/
  | advance (span : Span)

/-- What a step of a session reports. -/
inductive Report where
  | login (o : LoginOutcome)
  | logout (o : Outcome)
  | token (o : TokenOutcome)
  | user (o : UserOutcome)
  | list (o : ListOutcome)
  | create (o : CreateOutcome)
  | join (o : JoinOutcome)
  | check (s : ConnectionStatus)
  | credential (c : Option Credential)
  | done
  | clock (m : Moment)

structure SessionStep where
  command : Command
  url : String
  answers : List Answer := []
  faults : Faults := {}

structure Session where
  client : Client
  now : Moment
  slot : Option String
  /-- What the network answers when a step has no answers left. -/
  otherwise : Answer

namespace Session

/-- A value that has to be a table configuration. -/
def configOf (v : Value) : Except Escape TableConfig :=
  match TableConfig.check v with
  | .valid config => .ok config
  | .invalid issues => .error (.invalid issues)

/-- A value that has to be a credential. -/
def credentialOf (v : Value) : Except Escape (Credential GivenText) := do
  match ← Credential.check givenText true v with
  | .valid credential => return credential
  | .invalid issues => .error (.invalid issues)

/-- What a step does to the world. -/
def perform (c : Client) (k : Conditions) (url : String) : Command → Action Report
  | .login identifier password => .login <$> Account.login c k url identifier password
  | .logout => .logout <$> Account.logout c k
  | .token => .token <$> Account.token c k
  | .user => .user <$> Account.user c k
  | .list => .list <$> Lobby.list c k url
  | .create config => do
    let config ← Action.ofEscape (configOf config)
    .create <$> Lobby.create c k url config
  | .join tableId buyIn => .join <$> Lobby.join c k url tableId buyIn
  | .check watch => .check <$> Probe.check c.settings watch url
  | .get => .credential <$> c.store.get k
  | .set credential => do
    let credential ← Action.ofEscape (credentialOf credential)
    c.store.set k credential
    return .done
  | .delete => do
    c.store.delete k
    return .done
  | .put slot => do
    Action.store slot
    return .done
  | .advance span =>
    match k.now.add? span with
    | some now => return .clock now
    | none => .escape .dateOutOfRange

/-- The clock after a step. -/
def clockAfter (now : Moment) : Command → Moment
  | .advance span => (now.add? span).getD now
  | _ => now

/-- The world at the start of a step. -/
def world (s : Session) (step : SessionStep) : World :=
  { slot := s.slot, answers := step.answers, otherwise := s.otherwise }

def conditions (s : Session) (step : SessionStep) : Conditions :=
  { now := s.now, faults := step.faults }

/-- What comes of a step. -/
def run (s : Session) (step : SessionStep) : Ran Report :=
  perform s.client (s.conditions step) step.url step.command (s.world step)

/-- The session after a step. -/
def after (s : Session) (step : SessionStep) : Session :=
  { s with now := clockAfter s.now step.command, slot := (s.run step).world.slot }

/-- What comes of every step. -/
def runAll : Session → List SessionStep → List (Ran Report)
  | _, [] => []
  | s, step :: steps => s.run step :: runAll (s.after step) steps

end Session
end PokerClient
