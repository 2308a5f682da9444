import PokerClient.Proofs.Network
import PokerClient.Proofs.WillingStore

/-!
# Sessions that hold a credential

A session keeps the written form of a credential and reads it again at every
step. Here is one that holds the credential itself, and asks nothing but the clock
whether it is still usable. Where the keyring refuses nothing and nobody else
touches the slot, nothing that can be seen of a run tells the two apart.
-/

namespace PokerClient

open Http Json Time Validation

/-- A session with a credential in place of its written form. -/
structure CellSession where
  client : Client
  now : Moment
  cell : Option Credential
  /-- What the network answers when a step has no answers left. -/
  otherwise : Answer

/-- What comes of a step of such a session. -/
structure CellRan where
  result : Except Stop Report
  requests : List Request
  cell : Option Credential

/-- What can be seen of a step: what it reports, what it sends, and the slot that it
leaves. -/
structure Sight where
  result : Except Stop Report
  requests : List Request
  slot : Option String

def Ran.sight (r : Ran Report) : Sight :=
  { result := r.result, requests := r.trail.requests, slot := r.world.slot }

def CellRan.sight (r : CellRan) : Sight :=
  { result := r.result, requests := r.requests, slot := r.cell.map Credential.blob }

namespace CellSession

/-- A credential is kept, unless a token keeps it from being written. -/
def keepable (credential : Credential GivenText) : Action Unit :=
  Action.ofEscape (credential.writable.map fun _ => ())

/-- The cell after a credential was to be kept in it. -/
def filled (cell : Option Credential) (credential : Credential GivenText) : Option Credential :=
  match credential.writable with
  | .ok credential => some credential
  | .error _ => cell

/-- What a login obtains, if its credential can be kept. -/
def obtainKeepable (c : Client) (now : Moment) (url identifier password : String) :
    Action (Login × Credential GivenText) := do
  let granted ← Account.obtain c now url identifier password
  keepable granted.2
  return granted

/-- What a step does that was told what a read of the cell found. Nothing here has
access to the cell. -/
def perform (c : Client) (now : Moment) (url : String) (found : Option Credential) :
    Command → Action Report
  | .login identifier password => .login <$> do
    Account.reportLogin (← (obtainKeepable c now url identifier password).attempt)
  | .logout => return .logout { success := true, message := "Logged out" }
  | .token => return .token (Account.tokenOutcome found)
  | .user => return .user (Account.userOutcome found)
  | .list => .list <$> Lobby.listWith c (found.map Credential.accessToken) url
  | .create config => do
    let config ← Action.ofEscape (Session.configOf config)
    .create <$> Lobby.createWith c (Lobby.grantedToken found) url config
  | .join tableId buyIn => .join <$> Lobby.joinWith c (Lobby.grantedToken found) url tableId buyIn
  | .check watch => .check <$> Probe.check c.settings watch url
  | .get => return .credential found
  | .set credential => do
    let credential ← Action.ofEscape (Session.credentialOf credential)
    keepable credential
    return .done
  | .delete => return .done
  | .put _ => return .done
  | .advance span =>
    match now.add? span with
    | some now => return .clock now
    | none => .escape .dateOutOfRange

/-- The cell after a step: what was obtained or set, or nothing when that was asked
for, or what a read of the cell found. -/
def cellAfter (c : Client) (now : Moment) (url : String) (cell : Option Credential)
    (network : World) : Command → Option Credential
  | .login identifier password =>
    match (Account.obtain c now url identifier password network).result with
    | .ok granted => filled cell granted.2
    | .error _ => cell
  | .set credential =>
    match Session.credentialOf credential with
    | .ok credential => filled cell credential
    | .error _ => cell
  | .create config =>
    match Session.configOf config with
    | .ok _ => held now cell
    | .error _ => cell
  | .token | .user | .list | .join _ _ | .get => held now cell
  | .logout | .delete => none
  | .check _ | .put _ | .advance _ => cell

/-- The network at a step, and a slot that nothing is ever put into. -/
def network (t : CellSession) (step : SessionStep) : World :=
  { slot := none, answers := step.answers, otherwise := t.otherwise }

/-- What comes of a step. -/
def run (t : CellSession) (step : SessionStep) : CellRan :=
  let ran := perform t.client t.now step.url (held t.now t.cell) step.command (t.network step)
  { result := ran.result
    requests := ran.trail.requests
    cell := cellAfter t.client t.now step.url t.cell (t.network step) step.command }

/-- The session after a step. -/
def after (t : CellSession) (step : SessionStep) : CellSession :=
  { t with now := Session.clockAfter t.now step.command, cell := (t.run step).cell }

/-- What comes of every step. -/
def runAll : CellSession → List SessionStep → List CellRan
  | _, [] => []
  | t, step :: steps => t.run step :: runAll (t.after step) steps

/-- The session that keeps the written form. -/
def written (t : CellSession) : Session :=
  { client := t.client, now := t.now, slot := t.cell.map Credential.blob, otherwise := t.otherwise }

theorem keepable_quiet (credential : Credential GivenText) : Quiet (keepable credential) :=
  Quiet.ofEscape _

theorem obtainKeepable_slotless (c : Client) (now : Moment) (url identifier password : String) :
    Slotless (obtainKeepable c now url identifier password) :=
  Slotless.bind (Account.obtain_slotless c now url identifier password) fun granted =>
    Slotless.of_quiet (Quiet.bind (keepable_quiet granted.2) fun _ => Quiet.pure _)

theorem perform_slotless (c : Client) (now : Moment) (url : String) (found : Option Credential)
    (command : Command) : Slotless (perform c now url found command) := by
  cases command with
  | login identifier password =>
    refine Slotless.map _ (Slotless.bind (Slotless.attempt ?_) fun granted => ?_)
    · exact obtainKeepable_slotless c now url identifier password
    · exact Slotless.of_quiet (Account.reportLogin_quiet granted)
  | list => exact Slotless.map _ (Lobby.listWith_slotless c _ url)
  | create config =>
    refine Slotless.bind (Slotless.of_quiet (Quiet.ofEscape _)) fun config => ?_
    have htoken := Slotless.of_quiet (Lobby.grantedToken_quiet found)
    exact Slotless.map _ (Lobby.createWith_slotless c htoken url config)
  | join tableId buyIn =>
    have htoken := Slotless.of_quiet (Lobby.grantedToken_quiet found)
    exact Slotless.map _ (Lobby.joinWith_slotless c htoken url tableId buyIn)
  | check watch => exact Slotless.map _ (Probe.check_slotless c.settings watch url)
  | set credential =>
    exact Slotless.bind (Slotless.of_quiet (Quiet.ofEscape _)) fun credential =>
      Slotless.of_quiet (Quiet.bind (keepable_quiet credential) fun _ => Quiet.pure _)
  | advance span =>
    rw [perform]
    cases now.add? span with
    | none => exact Slotless.of_quiet (Quiet.escape _)
    | some m => exact Slotless.of_quiet (Quiet.pure _)
  | logout | token | user | get | delete | put slot => exact Slotless.of_quiet (Quiet.pure _)

section Simulation

variable (c : Client) {k : Conditions} {n : Int} {cell : Option Credential} {w : World}
  (hfaults : k.faults = {}) (hn : k.now.instant? = some n)
  (hslot : w.slot = cell.map Credential.blob)
include hfaults hn hslot

/-- An operation that takes what a read comes to, be it a failure, does what it does
with what the cell holds. -/
theorem attempted_asIf {α : Type} {f : Except Failure (Option Credential) → Action α}
    (hf : ∀ found, Slotless (f found)) :
    AsIf ((c.store.get k).attempt >>= f) (f (.ok (held k.now cell))) w
      ((held k.now cell).map Credential.blob) := by
  have hget := (c.store.get_willing hfaults hn hslot).attempt.bind hf
  rwa [Action.attempt_pure, pure_bind] at hget

theorem token_asIf :
    AsIf (Account.token c k) (pure (Account.tokenOutcome (held k.now cell))) w
      ((held k.now cell).map Credential.blob) :=
  attempted_asIf c hfaults hn hslot fun found =>
    Slotless.of_quiet (Account.reportToken_quiet found)

theorem user_asIf :
    AsIf (Account.user c k) (pure (Account.userOutcome (held k.now cell))) w
      ((held k.now cell).map Credential.blob) :=
  attempted_asIf c hfaults hn hslot fun found =>
    Slotless.of_quiet (Account.reportUser_quiet found)

theorem list_asIf (url : String) :
    AsIf (Lobby.list c k url)
      (Lobby.listWith c ((held k.now cell).map Credential.accessToken) url) w
      ((held k.now cell).map Credential.blob) := by
  have htoken : AsIf (Lobby.optionalToken c k)
      (pure ((held k.now cell).map Credential.accessToken)) w
      ((held k.now cell).map Credential.blob) :=
    attempted_asIf c hfaults hn hslot fun found =>
      Slotless.of_quiet (Lobby.tokenIfAny_quiet found)
  have hlist := htoken.bind fun token => Lobby.listWith_slotless c token url
  rwa [pure_bind] at hlist

theorem requiredToken_asIf :
    AsIf (Lobby.requiredToken c k) (Lobby.grantedToken (held k.now cell)) w
      ((held k.now cell).map Credential.blob) := by
  have hget := (c.store.get_willing hfaults hn hslot).bind fun found =>
    Slotless.of_quiet (Lobby.grantedToken_quiet found)
  rwa [pure_bind] at hget

theorem create_asIf (url : String) (config : TableConfig) :
    AsIf (Lobby.create c k url config)
      (Lobby.createWith c (Lobby.grantedToken (held k.now cell)) url config) w
      ((held k.now cell).map Credential.blob) := by
  have htoken := requiredToken_asIf c hfaults hn hslot
  refine (htoken.bind fun token => ?_).attempt.bind fun created => ?_
  · exact Slotless.bind (Lobby.request_slotless c token url _ _ _) fun _ =>
      Slotless.of_quiet (Quiet.ofFailure _)
  · exact Slotless.of_quiet (Lobby.reportCreation_quiet _ created)

theorem join_asIf (url tableId : String) (buyIn : Value) :
    AsIf (Lobby.join c k url tableId buyIn)
      (Lobby.joinWith c (Lobby.grantedToken (held k.now cell)) url tableId buyIn) w
      ((held k.now cell).map Credential.blob) := by
  have htoken := requiredToken_asIf c hfaults hn hslot
  refine (htoken.bind fun token => ?_).attempt.bind fun joined => ?_
  · exact Lobby.request_slotless c token url _ _ _
  · exact Slotless.of_quiet (Lobby.reportSeat_quiet _ _ joined)

end Simulation

section Storing

variable (c : Client) {k : Conditions} {cell : Option Credential} {w : World}
  (hfaults : k.faults = {}) (hslot : w.slot = cell.map Credential.blob)
include hfaults

theorem logout_asIf :
    AsIf (Account.logout c k) (pure { success := true, message := "Logged out" }) w none := by
  have hlogout : AsIf (Account.logout c k) (do
      Action.log .info .account "Logged out"
      return { success := true, message := "Logged out" }) w none :=
    (c.store.delete_willing hfaults w).attempt.bind fun deleted =>
      Slotless.of_quiet (Account.reportLogout_quiet deleted)
  exact ⟨hlogout.result, hlogout.world, hlogout.requests⟩

include hslot

/-- A credential that can be written fills the slot; any other one leaves it alone. -/
theorem set_keepable (credential : Credential GivenText) :
    AsIf (c.store.set k credential) (keepable credential) w
      ((filled cell credential).map Credential.blob) := by
  unfold keepable filled
  cases hc : credential.writable with
  | error e =>
    rw [Store.set_of_unwritable hc, ← hslot]
    exact ⟨rfl, rfl, rfl⟩
  | ok written =>
    rw [Credential.writable_eq_ok_iff.1 hc]
    exact c.store.set_willing hfaults written w

/-- What was obtained is stored, and what failed to be obtained leaves the cell alone. -/
theorem establish_asIf (url identifier password : String) :
    AsIf (Account.establish c k url identifier password)
      (obtainKeepable c k.now url identifier password) w
      ((cellAfter c k.now url cell w (.login identifier password)).map Credential.blob) := by
  have hslotless := Account.obtain_slotless c k.now url identifier password
  unfold Account.establish obtainKeepable
  rw [cellAfter]
  cases hr : (Account.obtain c k.now url identifier password w).result with
  | error stop =>
    have hx := Action.bind_of_error (Account.keep c k) hr
    have hy := Action.bind_of_error (fun granted => do keepable granted.2; return granted) hr
    have hsame := AsIf.of_slotless hslotless w
    rw [hslot] at hsame
    exact ⟨by rw [hx, hy], by rw [hx, hy]; exact hsame.world, by rw [hx, hy]⟩
  | ok granted =>
    have hcell : (Account.obtain c k.now url identifier password w).world.slot =
        cell.map Credential.blob := (hslotless.keepsSlot w).trans hslot
    exact AsIf.after hr ((set_keepable c hfaults hcell granted.2).bind fun _ =>
      Slotless.of_quiet (Quiet.pure granted))

theorem login_asIf (url identifier password : String) :
    AsIf (Account.login c k url identifier password)
      ((obtainKeepable c k.now url identifier password).attempt >>= Account.reportLogin) w
      ((cellAfter c k.now url cell w (.login identifier password)).map Credential.blob) :=
  (establish_asIf c hfaults hslot url identifier password).attempt.bind fun granted =>
    Slotless.of_quiet (Account.reportLogin_quiet granted)

theorem set_asIf (url : String) (v : Value) :
    AsIf (Session.perform c k url (.set v)) (perform c k.now url (held k.now cell) (.set v)) w
      ((cellAfter c k.now url cell w (.set v)).map Credential.blob) := by
  rw [Session.perform, perform, cellAfter]
  cases hv : Session.credentialOf v with
  | error e =>
    rw [← hslot]
    exact ⟨rfl, rfl, rfl⟩
  | ok credential =>
    exact AsIf.after (x := Action.ofEscape _) (a := credential) rfl
      ((set_keepable c hfaults hslot credential).bind fun _ =>
        Slotless.of_quiet (Quiet.pure Report.done))

end Storing

/-- A step of a session does what the step does that is told what the cell holds, and
leaves the written form of what the cell is to hold. -/
theorem perform_asIf (c : Client) {k : Conditions} {n : Int} {cell : Option Credential} {w : World}
    (hfaults : k.faults = {}) (hn : k.now.instant? = some n)
    (hslot : w.slot = cell.map Credential.blob) (url : String) (command : Command)
    (hput : ∀ slot, command ≠ .put slot) :
    AsIf (Session.perform c k url command) (perform c k.now url (held k.now cell) command) w
      ((cellAfter c k.now url cell w command).map Credential.blob) := by
  have hstays : AsIf (perform c k.now url (held k.now cell) command)
      (perform c k.now url (held k.now cell) command) w (cell.map Credential.blob) := by
    rw [← hslot]
    exact AsIf.of_slotless (perform_slotless c k.now url _ command) w
  cases command with
  | login identifier password => exact (login_asIf c hfaults hslot url identifier password).map _
  | logout => exact (logout_asIf c hfaults).map _
  | token => exact (token_asIf c hfaults hn hslot).map _
  | user => exact (user_asIf c hfaults hn hslot).map _
  | list => exact (list_asIf c hfaults hn hslot url).map _
  | create v =>
    rw [Session.perform, perform, cellAfter]
    cases hv : Session.configOf v with
    | error e =>
      rw [← hslot]
      exact ⟨rfl, rfl, rfl⟩
    | ok config =>
      have hcreate := (create_asIf c hfaults hn hslot url config).map Report.create
      exact AsIf.of_bind (z := Action.ofEscape _) (b := config) rfl rfl rfl hcreate
  | join tableId buyIn => exact (join_asIf c hfaults hn hslot url tableId buyIn).map _
  | check watch => exact hstays
  | get => exact (c.store.get_willing hfaults hn hslot).map _
  | set v => exact set_asIf c hfaults hslot url v
  | delete =>
    exact (c.store.delete_willing hfaults w).bind fun _ => Slotless.of_quiet (Quiet.pure _)
  | put slot => exact absurd rfl (hput slot)
  | advance span => exact hstays

/-- What is obtained over the network does not depend on the slot. -/
theorem cellAfter_withSlot (c : Client) (now : Moment) (url : String) (cell : Option Credential)
    (w : World) (slot : Option String) (command : Command) :
    cellAfter c now url cell (w.withSlot slot) command = cellAfter c now url cell w command := by
  cases command with
  | login identifier password =>
    rw [cellAfter, cellAfter, Account.obtain_slotless c now url identifier password w slot]
    rfl
  | _ => rfl

variable {t : CellSession} {step : SessionStep}

/-- One step shows the same. -/
theorem run_written (hclock : t.now.offset.isSome) (hfaults : step.faults = {})
    (hput : ∀ slot, step.command ≠ .put slot) :
    (t.written.run step).sight = (t.run step).sight := by
  obtain ⟨offset, hoffset⟩ := Option.isSome_iff_exists.1 hclock
  have hn : t.now.instant? = some (t.now.wall.micros - offset.micros) := by
    rw [Moment.instant?, hoffset]
    rfl
  have hnetwork : t.network step = (t.written.world step).withSlot none := rfl
  have hslotless := perform_slotless t.client t.now step.url (held t.now t.cell) step.command
    (t.written.world step) none
  have hslot : (t.written.world step).slot = t.cell.map Credential.blob := rfl
  have hasIf := perform_asIf t.client (k := t.written.conditions step) hfaults hn hslot step.url
    step.command hput
  unfold Ran.sight CellRan.sight Session.run run
  rw [hnetwork, cellAfter_withSlot, hslotless]
  refine Sight.mk.injEq .. ▸ ⟨hasIf.result, hasIf.requests, ?_⟩
  exact congrArg World.slot hasIf.world

/-- One step keeps the written form what it is. -/
theorem after_written (hclock : t.now.offset.isSome) (hfaults : step.faults = {})
    (hput : ∀ slot, step.command ≠ .put slot) :
    t.written.after step = (t.after step).written := by
  have hslot : (t.written.run step).world.slot = (t.run step).cell.map Credential.blob :=
    congrArg Sight.slot (run_written hclock hfaults hput)
  unfold Session.after
  rw [hslot]
  rfl

theorem isSome_offset_clockAfter (now : Moment) (command : Command) :
    (Session.clockAfter now command).offset.isSome = now.offset.isSome := by
  cases command with
  | advance span =>
    show ((now.add? span).getD now).offset.isSome = now.offset.isSome
    cases hadd : now.add? span with
    | none => rfl
    | some sum => rw [Option.getD_some, Moment.offset_add? hadd, Moment.isSome_offsetAt]
  | _ => rfl

/-- Nothing that can be seen of a run tells a session that keeps the written form from
one that holds the credential. -/
theorem runAll_written (t : CellSession) (steps : List SessionStep)
    (hclock : t.now.offset.isSome) (hfaults : ∀ step ∈ steps, step.faults = {})
    (hput : ∀ step ∈ steps, ∀ slot, step.command ≠ .put slot) :
    (t.written.runAll steps).map Ran.sight = (t.runAll steps).map CellRan.sight := by
  induction steps generalizing t with
  | nil => rfl
  | cons step steps ih =>
    -- The clock stays placed and the slot stays a written form, so that the rest is a run
    -- of the same kind.
    have hstep := hfaults step List.mem_cons_self
    have hcommand := hput step List.mem_cons_self
    have hrun := run_written hclock hstep hcommand
    have hafter := after_written hclock hstep hcommand
    have hnow : (t.after step).now.offset.isSome := by
      show (Session.clockAfter t.now step.command).offset.isSome
      rw [isSome_offset_clockAfter]
      exact hclock
    have hrest := ih (t.after step) hnow (fun s hs => hfaults s (List.mem_cons_of_mem _ hs))
      fun s hs => hput s (List.mem_cons_of_mem _ hs)
    rw [Session.runAll, runAll, List.map_cons, List.map_cons, hrun, hafter, hrest]

/-- A keyring with a credential that is replaced by a login, and expires later on. -/
theorem runAll_written_of_expiring :
    let held : Credential :=
      { accessToken := "old", refreshToken := "r", expiresAt := ⟨5, by decide⟩ }
    let issued : Credential :=
      { accessToken := "a", refreshToken := "r", expiresAt := ⟨14, by decide⟩ }
    let t : CellSession :=
      { client :=
          { store := { kind := .keyring, policy := { validity := ⟨10⟩ } }, settings := .standard }
        now := .ofUtc ⟨4, by decide⟩, cell := some held, otherwise := .gaveUp "ReadError" "" }
    let login : Login :=
      { user :=
          { id := "u", username := "n", email := "", displayName := none, playerId := none
            roles := [] }
        tokens := { accessToken := "a", refreshToken := "r", expiresAt := none }, message := "" }
    let granted : Reply :=
      { status := 200, headers := [], octets := Text.Utf8.encode (login.dump .camel).write }
    let steps : List SessionStep :=
      [{ command := .get, url := "" },
        { command := .login "p" "q", url := "https://poker.test", answers := [.reply granted] },
        { command := .advance ⟨10⟩, url := "" }, { command := .list, url := "" }]
    t.now.offset.isSome ∧ (∀ step ∈ steps, step.faults = {}) ∧
      (∀ step ∈ steps, ∀ slot, step.command ≠ .put slot) ∧
      (t.runAll steps).map CellRan.cell = [some held, some issued, some issued, none] ∧
      (t.written.runAll steps).map Ran.sight = (t.runAll steps).map CellRan.sight := by
  intro held issued t login granted steps
  have hclock : t.now.offset.isSome := rfl
  have hfaults : ∀ step ∈ steps, step.faults = {} := by simp [steps]
  have hput : ∀ step ∈ steps, ∀ slot, step.command ≠ .put slot := by simp [steps]
  exact ⟨hclock, hfaults, hput, by decide +kernel, runAll_written t steps hclock hfaults hput⟩

end CellSession
end PokerClient
