import Mathlib
import PokerClient.Proofs.SecretRequests

/-!
# Secrets stay out of sight

Two sessions that differ in secrets alone, that is in passwords and in the tokens that
are stored or granted, look the same from outside: they write the same to the log, send
their requests to the same places, and the slot holds a credential in the one while it
does in the other, until the same time.
-/

namespace PokerClient

open Http Json Time Validation

/-! ## Operations side by side -/

namespace Account

variable (c : Client) (k : Conditions) (url identifier password password' : String)

theorem loginBody_alike :
    BodiesAlike (some (loginBody identifier password)) (some (loginBody identifier password')) :=
  .sent rfl rfl

theorem signIn_alike : Alike .secret LoginsAlike (signIn c url identifier password)
    (signIn c url identifier password') := by
  have htoken : Option.Rel Interchangeable none none := .none
  have hconnection := Connection.build_alike c.settings url htoken
  refine Alike.bind (Alike.ofFailure hconnection) fun connection connection' hc => ?_
  have hbody := loginBody_alike identifier password password'
  refine Alike.bind (send_alike hc "POST" Endpoint.login hbody) fun response response' hr => ?_
  exact Alike.ofStop (Decoding.login_alike c.codecs hr)

/-- Two logins with their credentials that differ in tokens alone. -/
def GrantedAlike (granted granted' : Login × Credential GivenText) : Prop :=
  LoginsAlike granted.1 granted'.1 ∧ GivenCredentialsAlike granted.2 granted'.2

theorem issue_alike (p : Policy) (now : Moment) {t t' : Tokens} (h : TokensAlike t t') :
    EndsAlike GivenCredentialsAlike (p.issue now t.accessToken t.refreshToken)
      (p.issue now t'.accessToken t'.refreshToken) := by
  unfold Policy.issue
  split
  · exact .ok ⟨h.access, h.refresh, rfl⟩
  · exact .error _

theorem obtain_alike (now : Moment) :
    Alike .secret GrantedAlike (obtain c now url identifier password)
      (obtain c now url identifier password') := by
  refine Alike.bind (signIn_alike c url identifier password password') fun l l' hl => ?_
  have hissue := issue_alike c.store.policy now hl.tokens
  exact Alike.bind (Alike.ofEscape hissue) fun _ _ hc => Alike.pure ⟨hl, hc⟩

theorem keep_alike {granted granted' : Login × Credential GivenText}
    (h : GrantedAlike granted granted') :
    Alike .secret GrantedAlike (keep c k granted) (keep c k granted') :=
  Alike.bind (Store.set_alike c.store k h.2) fun _ _ _ => Alike.pure h

/-- What the log says of a login names the user and the time, and no token. -/
theorem reportLogin_alike {granted granted' : Except Failure (Login × Credential GivenText)}
    (h : EndsAlike GrantedAlike granted granted') :
    Alike .secret (fun _ _ => True) (reportLogin granted) (reportLogin granted') := by
  cases h with
  | error f => exact (Alike.of_quiet (reportLogin_quiet _)).forget
  | @ok granted granted' h =>
    obtain ⟨login, credential⟩ := granted
    obtain ⟨login', credential'⟩ := granted'
    obtain ⟨hl, hc⟩ := h
    unfold reportLogin
    dsimp only at hl hc ⊢
    rw [hl.user, hc.expiresAt]
    exact Alike.bind (Alike.of_quiet (Quiet.log _ _ _)) fun _ _ _ => Alike.pure trivial

theorem login_alike :
    Alike .secret (fun _ _ => True) (login c k url identifier password)
      (login c k url identifier password') := by
  have hestablish : Alike .secret GrantedAlike (establish c k url identifier password)
      (establish c k url identifier password') :=
    Alike.bind (obtain_alike c url identifier password password' k.now) fun _ _ h =>
      keep_alike c k h
  exact Alike.bind hestablish.attempt fun _ _ h => reportLogin_alike h

theorem logout_alike : Alike .secret (fun _ _ => True) (logout c k) (logout c k) := by
  refine Alike.bind (Store.erase_alike c.store k.faults).attempt fun deleted deleted' h => ?_
  cases h with
  | error f => exact (Alike.of_quiet (reportLogout_quiet _)).forget
  | ok h => exact (Alike.of_quiet (reportLogout_quiet _)).forget

theorem token_alike : Alike .secret (fun _ _ => True) (token c k) (token c k) := by
  refine Alike.bind (Store.get_alike c.store k).attempt fun found found' h => ?_
  cases h with
  | error f => exact Alike.pure trivial
  | ok h => exact Alike.pure trivial

theorem user_alike : Alike .secret (fun _ _ => True) (user c k) (user c k) := by
  refine Alike.bind (Store.get_alike c.store k).attempt fun found found' h => ?_
  cases h with
  | error f => exact Alike.pure trivial
  | ok h => exact Alike.pure trivial

end Account

namespace Lobby

variable (c : Client) (k : Conditions) (url : String)

theorem requiredToken_alike :
    Alike .secret Interchangeable (requiredToken c k) (requiredToken c k) := by
  refine Alike.bind (Store.get_alike c.store k) fun found found' h => ?_
  cases h with
  | none => exact Alike.fail _
  | some hc => exact Alike.pure hc.access

theorem optionalToken_alike :
    Alike .secret (Option.Rel Interchangeable) (optionalToken c k) (optionalToken c k) := by
  refine Alike.bind (Store.get_alike c.store k).attempt fun found found' h => ?_
  cases h with
  | error f => exact Alike.bind (Alike.of_quiet (Quiet.log _ _ _)) fun _ _ _ => Alike.pure .none
  | ok h =>
    cases h with
    | none => exact Alike.pure .none
    | some hc => exact Alike.pure (.some hc.access)

theorem request_alike {token token' : Option String} (h : Option.Rel Interchangeable token token')
    (method path : String) (body : Option Value) :
    Alike .secret DataAlike (request c token url method path body)
      (request c token' url method path body) := by
  have hconnection := Connection.build_alike c.settings url h
  refine Alike.bind (Alike.ofFailure hconnection) fun connection connection' hc => ?_
  refine Alike.bind (send_alike hc method path (.same body)) fun response response' hr => ?_
  exact Alike.ofStop (Decoding.envelope_alike c.codecs hr)

theorem list_alike : Alike .secret (fun _ _ => True) (list c k url) (list c k url) := by
  have hread (data data' : Value) (h : DataAlike data data') :
      Alike .secret Eq (Action.ofFailure (TableList.ofData data))
        (Action.ofFailure (TableList.ofData data')) := by
    rw [h.tables]
    exact Alike.of_quiet (Quiet.ofFailure _)
  refine Alike.bind (optionalToken_alike c k) fun token token' htoken => ?_
  have htables := Alike.bind (request_alike c url htoken "GET" Endpoint.tables none) hread
  refine Alike.bind htables.attempt fun tables tables' h => ?_
  rw [h.eq]
  exact (Alike.of_quiet (reportTables_quiet _)).forget

theorem create_alike (config : TableConfig) :
    Alike .secret (fun _ _ => True) (create c k url config) (create c k url config) := by
  have hread (data data' : Value) (h : DataAlike data data') :
      Alike .secret Eq (Action.ofFailure (createdTable data))
        (Action.ofFailure (createdTable data')) := by
    rw [h.createdTable]
    exact Alike.of_quiet (Quiet.ofFailure _)
  have hcreated : Alike .secret Eq
      (requiredToken c k >>= fun token => do
        let data ← request c (some token) url "POST" Endpoint.tables (some (config.dump .camel))
        Action.ofFailure (createdTable data))
      (requiredToken c k >>= fun token => do
        let data ← request c (some token) url "POST" Endpoint.tables (some (config.dump .camel))
        Action.ofFailure (createdTable data)) :=
    Alike.bind (requiredToken_alike c k) fun token token' htoken =>
      Alike.bind (request_alike c url (.some htoken) "POST" Endpoint.tables _) hread
  refine Alike.bind hcreated.attempt fun created created' h => ?_
  rw [h.eq]
  exact (Alike.of_quiet (reportCreation_quiet _ _)).forget

/-- What the log says of a seat does not show the data that came with it. -/
theorem reportSeat_alike (tableId : String) (buyIn : Value) {joined joined' : Except Failure Value}
    (h : EndsAlike DataAlike joined joined') :
    Alike .secret (fun _ _ => True) (reportSeat tableId buyIn joined)
      (reportSeat tableId buyIn joined') := by
  cases h with
  | error f => exact (Alike.of_quiet (reportSeat_quiet _ _ _)).forget
  | ok hdata => exact Alike.bind (Alike.of_quiet (Quiet.log _ _ _)) fun _ _ _ => Alike.pure trivial

theorem join_alike (tableId : String) (buyIn : Value) :
    Alike .secret (fun _ _ => True) (join c k url tableId buyIn) (join c k url tableId buyIn) := by
  have hjoined : Alike .secret DataAlike
      (requiredToken c k >>= fun token =>
        request c (some token) url "POST" (Endpoint.join tableId) (some (joinBody buyIn)))
      (requiredToken c k >>= fun token =>
        request c (some token) url "POST" (Endpoint.join tableId) (some (joinBody buyIn))) :=
    Alike.bind (requiredToken_alike c k) fun token token' htoken =>
      request_alike c url (.some htoken) "POST" (Endpoint.join tableId) _
  exact Alike.bind hjoined.attempt fun _ _ h => reportSeat_alike tableId buyIn h

end Lobby

namespace Probe

theorem check_alike (settings : Settings) (watch : Stopwatch) (url : String) :
    Alike .secret (fun _ _ => True) (check settings watch url) (check settings watch url) := by
  have htoken : Option.Rel Interchangeable none none := .none
  have hconnection := Connection.build_alike settings url htoken
  have hask : Alike .secret ResponsesAlike (ask settings url) (ask settings url) :=
    Alike.bind (Alike.ofFailure hconnection) fun _ _ hc =>
      send_alike hc "GET" Endpoint.health (.same none)
  refine Alike.bind hask.attempt fun answer answer' h => ?_
  cases h with
  | error f => exact Alike.bind (Alike.of_quiet (Quiet.log _ _ _)) fun _ _ _ => Alike.pure trivial
  | ok hr =>
    dsimp only
    rw [hr.status]
    exact Alike.bind (Alike.of_quiet (Quiet.log _ _ _)) fun _ _ _ => Alike.pure trivial

end Probe

/-! ## Sessions side by side -/

/-- Two commands that differ in secrets alone. -/
inductive CommandsAlike : Command → Command → Prop
  | same (command : Command) : CommandsAlike command command
  | login (identifier password password' : String) :
      CommandsAlike (.login identifier password) (.login identifier password')
  | set {v v' : Value} {c c' : Credential} (h : Session.credentialOf v = .ok ↑c)
      (h' : Session.credentialOf v' = .ok ↑c') (hc : CredentialsAlike c c') :
      CommandsAlike (.set v) (.set v')
  | put {slot slot' : Option String} (h : SlotsAlike slot slot') :
      CommandsAlike (.put slot) (.put slot')

/-- Two steps that differ in secrets alone. -/
structure StepsAlike (step step' : SessionStep) : Prop where
  command : CommandsAlike step.command step'.command
  url : step.url = step'.url
  answers : List.Forall₂ AnswersAlike step.answers step'.answers
  faults : step.faults = step'.faults

/-- Two sessions that differ in secrets alone. -/
structure SessionsAlike (s s' : Session) : Prop where
  client : s.client = s'.client
  now : s.now = s'.now
  slot : SlotsAlike s.slot s'.slot
  otherwise : AnswersAlike s.otherwise s'.otherwise

/-- What a run shows to whoever reads the log, sees where requests go and what the secret
store is asked for, and knows whether the slot holds something and until when. -/
structure OutsideView where
  entries : List LogEntry
  requests : List Exposed
  calls : List StoreRequest
  occupied : Bool
  expiresAt : Option Timestamp
  deriving DecidableEq

/-- The time in a credential in the slot. -/
def storedExpiry (slot : Option String) : Option Timestamp :=
  slot.bind fun blob => match Credential.ofBlob blob with
    | .ok (.valid c) => some c.expiresAt
    | _ => none

def Ran.outsideView {α : Type} (r : Ran α) : OutsideView :=
  { entries := r.trail.entries
    requests := r.trail.requests.map Request.exposed
    calls := r.trail.calls
    occupied := r.world.slot.isSome
    expiresAt := storedExpiry r.world.slot }

theorem SlotsAlike.isSome {slot slot' : Option String} (h : SlotsAlike slot slot') :
    slot.isSome = slot'.isSome := by
  cases h with
  | same => rfl
  | credentials h h' hc => rfl

theorem SlotsAlike.storedExpiry {slot slot' : Option String} (h : SlotsAlike slot slot') :
    storedExpiry slot = storedExpiry slot' := by
  cases h with
  | same => rfl
  | credentials h h' hc =>
    unfold PokerClient.storedExpiry
    rw [Option.bind_some, Option.bind_some, h, h']
    exact congrArg some hc.expiresAt

theorem RunsAlike.outsideView {α β : Type} {R : α → β → Prop} {r : Ran α} {r' : Ran β}
    (h : RunsAlike .secret R r r') : r.outsideView = r'.outsideView := by
  have hslot : SlotsAlike r.world.slot r'.world.slot := h.world.slot
  unfold Ran.outsideView
  rw [h.trail.entries, h.trail.requests, h.trail.calls, hslot.isSome, hslot.storedExpiry]

namespace Session

variable {s s' : Session} {step step' : SessionStep}

theorem perform_alike (c : Client) (k : Conditions) (url : String) {command command' : Command}
    (h : CommandsAlike command command') :
    Alike .secret (fun _ _ => True) (perform c k url command) (perform c k url command') := by
  cases h with
  | login identifier password password' =>
    exact (Account.login_alike c k url identifier password password').forget_map _ _
  | set h h' hc =>
    rw [perform, perform, h, h']
    refine Alike.bind (Alike.ofEscape (.ok hc.given)) fun credential credential' hc => ?_
    exact Alike.bind (Store.set_alike c.store k hc) fun _ _ _ => Alike.pure trivial
  | put h => exact Alike.bind (Store.store_alike h) fun _ _ _ => Alike.pure trivial
  | same =>
    cases command with
    | login identifier password =>
      exact (Account.login_alike c k url identifier password password).forget_map _ _
    | logout => exact (Account.logout_alike c k).forget_map _ _
    | token => exact (Account.token_alike c k).forget_map _ _
    | user => exact (Account.user_alike c k).forget_map _ _
    | list => exact (Lobby.list_alike c k url).forget_map _ _
    | create v =>
      refine Alike.bind (Alike.of_quiet (Quiet.ofEscape _)) fun config config' hconfig => ?_
      rw [hconfig]
      exact (Lobby.create_alike c k url config').forget_map _ _
    | join tableId buyIn =>
      exact (Lobby.join_alike c k url tableId buyIn).forget_map _ _
    | check watch => exact (Probe.check_alike c.settings watch url).forget_map _ _
    | get => exact (Store.get_alike c.store k).forget_map _ _
    | set v =>
      refine Alike.bind (Alike.of_quiet (Quiet.ofEscape _)) fun credential credential' hc => ?_
      rw [hc]
      exact Alike.bind (Store.set_alike c.store k (GivenCredentialsAlike.refl _))
        fun _ _ _ => Alike.pure trivial
    | delete =>
      exact Alike.bind (Store.erase_alike c.store k.faults) fun _ _ _ => Alike.pure trivial
    | put slot => exact Alike.bind (Store.store_alike (.same slot)) fun _ _ _ => Alike.pure trivial
    | advance span =>
      have hquiet : Quiet (perform c k url (.advance span)) := by
        rw [perform]
        cases k.now.add? span with
        | some now => exact Quiet.pure _
        | none => exact Quiet.escape _
      exact (Alike.of_quiet hquiet).forget

theorem clockAfter_alike (now : Moment) {command command' : Command}
    (h : CommandsAlike command command') : clockAfter now command = clockAfter now command' := by
  cases h <;> rfl

/-- One step in sessions that differ in secrets alone. -/
theorem run_alike (hs : SessionsAlike s s') (hstep : StepsAlike step step') :
    RunsAlike .secret (fun _ _ => True) (s.run step) (s'.run step') := by
  have hworld : WorldsAlike (s.world step) (s'.world step') :=
    ⟨hs.slot, hstep.answers, hs.otherwise⟩
  have hconditions : s.conditions step = s'.conditions step' := by
    unfold conditions
    rw [hs.now, hstep.faults]
  have hperform := perform_alike s'.client (s'.conditions step') step'.url hstep.command
  unfold run
  rw [hs.client, hconditions, hstep.url]
  exact hperform _ _ hworld

theorem after_alike (hs : SessionsAlike s s') (hstep : StepsAlike step step') :
    SessionsAlike (s.after step) (s'.after step') := by
  have hrun := run_alike hs hstep
  refine ⟨hs.client, ?_, hrun.world.slot, hs.otherwise⟩
  show clockAfter s.now step.command = clockAfter s'.now step'.command
  rw [hs.now, clockAfter_alike s'.now hstep.command]

/-- Sessions that differ in secrets alone look the same from outside at every step. -/
theorem runAll_outsideView {steps steps' : List SessionStep} (hs : SessionsAlike s s')
    (hsteps : List.Forall₂ StepsAlike steps steps') :
    (s.runAll steps).map Ran.outsideView = (s'.runAll steps').map Ran.outsideView := by
  induction hsteps generalizing s s' with
  | nil => rfl
  | @cons step step' steps steps' hstep hsteps ih =>
    have hview := (run_alike hs hstep).outsideView
    have hrest := ih (after_alike hs hstep)
    rw [runAll, runAll, List.map_cons, List.map_cons, hview, hrest]

/-- A login over a stored credential, a credential put into the slot and one that is set,
with one secret or another in the place of every token and password. -/
theorem runAll_outsideView_of_login :
    let credential (secret : String) : Credential :=
      { accessToken := secret, refreshToken := secret, expiresAt := ⟨62135596801000000, by decide⟩ }
    let value (secret : String) : Value := .object
      [("access_token", .str secret), ("refresh_token", .str secret), ("expires_at", .int 1)]
    let payload (secret : String) : Value := .object
      [("user", .object [("id", .str "u"), ("username", .str "n")]),
        ("tokens", .object [("accessToken", .str secret), ("refreshToken", .str secret)])]
    let granted (secret : String) : Answer := .reply
      { status := 200, headers := [], octets := Text.Utf8.encode (payload secret).write }
    let s (secret : String) : Session :=
      { client := { store := { kind := .keyring }, settings := .standard }
        now := .ofUtc default, slot := some (credential secret).blob
        otherwise := .gaveUp "ReadError" "" }
    let steps (secret : String) : List SessionStep :=
      [{ command := .list, url := "https://poker.test" },
        { command := .login "p" secret, url := "https://poker.test", answers := [granted secret] },
        { command := .put (some (credential secret).blob), url := "" },
        { command := .set (value secret), url := "" }]
    SessionsAlike (s "a") (s "b") ∧ List.Forall₂ StepsAlike (steps "a") (steps "b") ∧
      (s "a").slot ≠ (s "b").slot ∧
      ((s "a").runAll (steps "a")).map Ran.outsideView =
        ((s "b").runAll (steps "b")).map Ran.outsideView := by
  intro credential value payload granted s steps
  have haccess : Interchangeable "a" "b" := Or.inr ⟨by decide, by decide⟩
  have hcredential : CredentialsAlike (credential "a") (credential "b") := ⟨haccess, rfl⟩
  have hslot : SlotsAlike (some (credential "a").blob) (some (credential "b").blob) :=
    .written hcredential
  have hsession : SessionsAlike (s "a") (s "b") := ⟨rfl, rfl, hslot, .gaveUp _ _⟩
  have hblock : TokenBlocksAlike [("accessToken", .str "a"), ("refreshToken", .str "a")]
      [("accessToken", .str "b"), ("refreshToken", .str "b")] := by
    refine ⟨?_, ?_, ?_⟩
    · intro name hname
      rcases List.mem_pair.1 hname with rfl | rfl
      · exact .texts haccess
      · exact .same none
    · intro name hname
      rcases List.mem_pair.1 hname with rfl | rfl
      · exact .texts trivial
      · exact .same none
    · intro name hnotAccess hnotRefresh
      have hother : "accessToken" ≠ name ∧ "refreshToken" ≠ name :=
        ⟨fun h => hnotAccess (h ▸ List.mem_cons_self),
          fun h => hnotRefresh (h ▸ List.mem_cons_self)⟩
      simp [Fields.get?, hother]
  have hpayload : PayloadsAlike (payload "a") (payload "b") := by
    refine .mk ?_ rfl rfl hblock
    intro name hname
    simp [Fields.get?, Ne.symm hname]
  have hgranted : AnswersAlike (granted "a") (granted "b") := by
    have ha : ofOctets (Text.Utf8.encode (payload "a").write) = .ok (payload "a") := by cbv
    have hb : ofOctets (Text.Utf8.encode (payload "b").write) = .ok (payload "b") := by cbv
    exact .reply (.grants rfl ⟨⟨by decide, by decide⟩, _, rfl, ha⟩
      ⟨⟨by decide, by decide⟩, _, rfl, hb⟩ (.bare hpayload))
  have hset : CommandsAlike (.set (value "a")) (.set (value "b")) :=
    .set rfl rfl hcredential
  have hsteps : List.Forall₂ StepsAlike (steps "a") (steps "b") := by
    refine .cons ⟨.same _, rfl, .nil, rfl⟩ (.cons ⟨.login _ _ _, rfl, .cons hgranted .nil, rfl⟩ ?_)
    exact .cons ⟨.put hslot, rfl, .nil, rfl⟩ (.cons ⟨hset, rfl, .nil, rfl⟩ .nil)
  have hdiffers : (s "a").slot ≠ (s "b").slot := by decide +kernel
  exact ⟨hsession, hsteps, hdiffers, runAll_outsideView hsession hsteps⟩

end Session
end PokerClient
