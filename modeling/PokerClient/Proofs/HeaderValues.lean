import PokerClient.Proofs.Base64Text
import PokerClient.Proofs.PathPrefix
import PokerClient.Proofs.Probing

/-!
# What stands in a header

A client is only built if the user agent and the token are plain text: characters from the
space to the tilde. So whatever is in the slot, no request has a header that ends early, and
an operation with a value that is not plain reports so and sends nothing.
-/

namespace PokerClient

open Http Json Text

namespace Http

/-- A text of characters that can stand in a header. -/
def PlainText (s : String) : Prop := ∀ c ∈ s.toList, 0x20 ≤ c.toNat ∧ c.toNat ≤ 0x7E

/-- The first header that a client cannot be built with. -/
inductive BadHeader (settings : Settings) (token : Option String) : String → Prop
  | userAgent (h : ¬ PlainText settings.userAgent) : BadHeader settings token "User-Agent"
  | authorization {t : String} (hagent : PlainText settings.userAgent) (ht : token = some t)
      (h : ¬ PlainText t) : BadHeader settings token "Authorization"

variable {settings : Settings} {token : Option String} {name : String}

theorem isHeaderValue_iff {s : String} :
    Credentials.isHeaderValue s = true ↔ PlainText s := by
  unfold Credentials.isHeaderValue PlainText
  simp only [List.all_eq_true, isPlain, Bool.and_eq_true, decide_eq_true_eq]

theorem isHeaderValue_eq_false {s : String} (h : ¬ PlainText s) :
    Credentials.isHeaderValue s = false := by
  rw [← Bool.not_eq_true, isHeaderValue_iff]
  exact h

theorem all_isHeaderValue_iff :
    token.all Credentials.isHeaderValue = true ↔ ∀ t ∈ token, PlainText t := by
  cases token with
  | none => simp
  | some t => simp [isHeaderValue_iff]

theorem BadHeader.exists_of_not
    (h : ¬ (PlainText settings.userAgent ∧ ∀ t ∈ token, PlainText t)) :
    ∃ name, BadHeader settings token name := by
  by_cases hagent : PlainText settings.userAgent
  · cases token with
    | none => exact absurd ⟨hagent, nofun⟩ h
    | some t =>
      by_cases ht : PlainText t
      · refine absurd ⟨hagent, ?_⟩ h
        rintro _ ⟨⟩
        exact ht
      · exact ⟨_, .authorization hagent rfl ht⟩
  · exact ⟨_, .userAgent hagent⟩

/-! ## Building a client -/

theorem Credentials.build_bad (h : BadHeader settings token name) :
    Credentials.build settings token = .error (.badHeader name) := by
  unfold Credentials.build
  cases h with
  | userAgent h =>
    rw [isHeaderValue_eq_false h]
    rfl
  | @authorization t hagent ht h =>
    have hbearer : (token.map bearer).all isHeaderValue = false := by
      rw [ht]
      exact (Credentials.isHeaderValue_bearer t).trans (isHeaderValue_eq_false h)
    dsimp only
    rw [isHeaderValue_iff.2 hagent, hbearer]
    rfl

theorem Credentials.exists_build_iff : (∃ c, Credentials.build settings token = .ok c) ↔
    PlainText settings.userAgent ∧ ∀ t ∈ token, PlainText t := by
  rw [Credentials.exists_build, isHeaderValue_iff, all_isHeaderValue_iff]

theorem Credentials.build_eq_error {f : Failure} : Credentials.build settings token = .error f ↔
    ∃ name, BadHeader settings token name ∧ f = .badHeader name := by
  constructor
  · intro hf
    have hnone : ¬ ∃ c, Credentials.build settings token = .ok c := by
      rintro ⟨c, hc⟩
      cases hc.symm.trans hf
    obtain ⟨name, hname⟩ := BadHeader.exists_of_not (mt Credentials.exists_build_iff.2 hnone)
    exact ⟨name, hname, Except.error.inj (hf.symm.trans (Credentials.build_bad hname))⟩
  · rintro ⟨name, hname, rfl⟩
    exact Credentials.build_bad hname

/-- Headers are looked at before the URL is. -/
theorem Connection.build_bad (h : BadHeader settings token name) (url : String) :
    Connection.build settings token url = .error (.badHeader name) := by
  unfold Connection.build
  rw [Credentials.build_bad h]
  rfl

theorem prepared?_bad (h : BadHeader settings token name) (url : String) (call : Call) :
    prepared? settings token url call = none := by
  unfold prepared?
  rw [Connection.build_bad h]
  rfl

/-! ## Headers of a request -/

theorem plainText_bearer {t : String} (h : PlainText t) : PlainText (Credentials.bearer t) := by
  rw [← isHeaderValue_iff, Credentials.isHeaderValue_bearer]
  exact isHeaderValue_iff.2 h

theorem plain_letter {n : Nat} (hn : n < 64) : 0x20 ≤ (Base64.Alphabet.standard.letter n).toNat ∧
    (Base64.Alphabet.standard.letter n).toNat ≤ 0x7E := by
  have hall : ∀ m : Fin 64, 0x20 ≤ (Base64.Alphabet.standard.letter m).toNat ∧
      (Base64.Alphabet.standard.letter m).toNat ≤ 0x7E := by decide
  exact hall ⟨n, hn⟩

/-- A user of whatever characters is named in letters of base 64. -/
theorem plainText_basic (u : Url) : PlainText (Request.basic u) := by
  have hprefix : PlainText "Basic " := isHeaderValue_iff.1 (by decide)
  intro c hc
  unfold Request.basic at hc
  generalize Utf8.encode u.username ++ octet ':'.toNat :: Utf8.encode u.password = named at hc
  rw [String.toList_ofList, List.mem_append] at hc
  rcases hc with hc | hc
  · exact hprefix c hc
  unfold Base64.encodePadded at hc
  rw [List.mem_append, Base64.encode_eq_map] at hc
  rcases hc with hc | hc
  · obtain ⟨n, hn, rfl⟩ := List.mem_map.1 hc
    exact plain_letter (Base64.sextets_lt _ n hn)
  · rw [List.eq_of_mem_replicate hc]
    decide

/-- The headers of a request that say who asks are plain text. -/
def Request.PlainHeaders (r : Request) : Prop :=
  PlainText r.userAgent ∧ ∀ value ∈ r.authorization, PlainText value

theorem plainHeaders_of_prepared {url : String} {call : Call} {r : Request}
    (hr : prepared? settings token url call = some r) : r.PlainHeaders := by
  obtain ⟨c, hc, hbuild⟩ := prepared?_eq_some.1 hr
  have hcredentials := (Connection.build_eq_ok hc).1
  have hmade := Credentials.build_eq_ok hcredentials
  obtain ⟨hagent, htoken⟩ := Credentials.exists_build_iff.1 ⟨_, hcredentials⟩
  constructor
  · rw [(Request.made hbuild).userAgent, hmade]
    exact hagent
  · intro value hvalue
    rcases Request.build_authorization hbuild with hauthorization | ⟨u, hauthorization⟩
    · rw [hauthorization, hmade] at hvalue
      obtain ⟨t, ht, rfl⟩ := Option.map_eq_some_iff.1 hvalue
      exact plainText_bearer (htoken t ht)
    · rw [hauthorization] at hvalue
      cases hvalue
      exact plainText_basic u

end Http

/-! ## What is reported of a client that cannot be built -/

/-- The outcome of an operation that has a bad header. -/
def Outcome.unbuilt (header : String) : Outcome :=
  { success := false
    message := s!"Invalid value for header '{header}'"
    failure := some "client_construction" }

/-- What a step reports if its client cannot be built because of a header. A probe tells
that there is no connection, and no latency. -/
inductive Command.Unbuilt (url header : String) : Command → Report → Prop
  | login (identifier password : String) : Unbuilt url header (.login identifier password)
      (.login { Outcome.unbuilt header with })
  | list : Unbuilt url header .list (.list { Outcome.unbuilt header with })
  | create (v : Value) : Unbuilt url header (.create v) (.create { Outcome.unbuilt header with })
  | join (tableId : String) (buyIn : Value) : Unbuilt url header (.join tableId buyIn)
      (.join { Outcome.unbuilt header with tableId })
  | check (watch : Probe.Stopwatch) : Unbuilt url header (.check watch)
      (.check { connected := false, backendUrl := url, latency := none })

section Unbuilt

variable {c : Client} {k : Conditions} {url name : String} {token : Option String} {w : World}

theorem Account.login_unbuilt (h : BadHeader c.settings none name)
    (identifier password : String) : (Account.login c k url identifier password w).result =
      .ok { Outcome.unbuilt name with } := by
  have hestablish : (establish c k url identifier password w).result =
      .error (.failure (.badHeader name)) := by
    unfold establish obtain signIn
    rw [Connection.build_bad h]
    rfl
  unfold login
  rw [Action.attempted_of_failure hestablish]
  rfl

theorem Probe.check_unbuilt (h : BadHeader c.settings none name) (watch : Stopwatch) :
    (check c.settings watch url w).result =
      .ok { connected := false, backendUrl := url, latency := none } :=
  check_of_failure watch (ask_of_refused (Connection.build_bad h url))

namespace Lobby

theorem request_unbuilt (h : BadHeader c.settings token name) (method path : String)
    (body : Option Value) : (request c token url method path body w).result =
      .error (.failure (.badHeader name)) := by
  unfold request
  rw [Connection.build_bad h]
  rfl

theorem listWith_unbuilt (h : BadHeader c.settings token name) :
    (listWith c token url w).result = .ok { Outcome.unbuilt name with } := by
  unfold listWith
  rw [Action.attempted_of_failure (e := .badHeader name)]
  · rfl
  · rw [Action.bind_result, request_unbuilt h]
    rfl

theorem list_unbuilt (ht : (optionalToken c k w).result = .ok token)
    (h : BadHeader c.settings token name) :
    (list c k url w).result = .ok { Outcome.unbuilt name with } := by
  unfold list
  rw [Action.bind_result, ht]
  exact listWith_unbuilt h

theorem createWith_unbuilt {t : String} {token : Action String} (config : TableConfig)
    (ht : (token w).result = .ok t) (h : BadHeader c.settings (some t) name) :
    (createWith c token url config w).result = .ok { Outcome.unbuilt name with } := by
  unfold createWith
  rw [Action.attempted_of_failure (e := .badHeader name)]
  · rfl
  · rw [Action.bind_result, ht]
    dsimp only [Except.bind]
    rw [Action.bind_result, request_unbuilt h]
    rfl

theorem joinWith_unbuilt {t : String} {token : Action String} (tableId : String) (buyIn : Value)
    (ht : (token w).result = .ok t) (h : BadHeader c.settings (some t) name) :
    (joinWith c token url tableId buyIn w).result = .ok { Outcome.unbuilt name with tableId } := by
  unfold joinWith
  rw [Action.attempted_of_failure (e := .badHeader name)]
  · rfl
  · rw [Action.bind_result, ht]
    exact request_unbuilt h _ _ _

theorem optionalToken_of_got {found : Option Credential}
    (hgot : (c.store.get k w).result = .ok found) :
    (optionalToken c k w).result = .ok (found.map Credential.accessToken) := by
  unfold optionalToken
  rw [Action.attempted_of_ok hgot]
  rfl

theorem optionalToken_of_escape {e : Escape}
    (hgot : (c.store.get k w).result = .error (.escape e)) :
    (optionalToken c k w).result = .error (.escape e) :=
  Action.attempted_of_escape hgot

theorem optionalToken_of_failure {f : Failure}
    (hgot : (c.store.get k w).result = .error (.failure f)) :
    (optionalToken c k w).result = .ok none := by
  unfold optionalToken
  rw [Action.attempted_of_failure hgot]
  rfl

end Lobby

end Unbuilt

/-! ## Sessions -/

theorem Command.asks_cases {command : Command} (h : command.Asks) :
    command = .list ∨ command.Needs ∨ command.Anonymous := by
  cases command with
  | list => exact .inl rfl
  | _ => exact .inr h

namespace Session

variable {s : Session} {step : SessionStep} {token : Option String} {name : String}

/-- A step gets as far as building a client, and this with a token or without. -/
inductive Connects (s : Session) (step : SessionStep) : Option String → Prop
  | anonymous (h : step.command.Anonymous) : Connects s step none
  /-- A step in the lobby whose arguments are accepted has found a credential. -/
  | bearing {c : Credential} (h : step.command.call?.isSome = true)
      (hgot : s.got step = .ok (some c)) : Connects s step (some c.accessToken)
  /-- A listing goes on without a credential. -/
  | listing (h : step.command = .list)
      (hgot : s.got step = .ok none ∨ ∃ f, s.got step = .error (.failure f)) : Connects s step none

theorem optionalToken_of_missing
    (hgot : s.got step = .ok none ∨ ∃ f, s.got step = .error (.failure f)) :
    (Lobby.optionalToken s.client (s.conditions step) (s.world step)).result = .ok none := by
  rcases hgot with hgot | ⟨f, hgot⟩
  · exact Lobby.optionalToken_of_got hgot
  · exact Lobby.optionalToken_of_failure hgot

/-- A step that builds a client sends the request for one call, if that can be made. -/
theorem requests_of_connects (h : s.Connects step token) : ∃ call,
    (s.run step).trail.requests =
      (prepared? s.client.settings token step.url call).toList := by
  cases h with
  | anonymous h =>
    unfold run
    cases hcommand : step.command with
    | login identifier password =>
      exact ⟨_, (Action.requests_map _ _ _).trans (Account.login_requests ..)⟩
    | check watch => exact ⟨_, (Action.requests_map _ _ _).trans (Probe.check_requests ..)⟩
    | _ => simp [hcommand, Command.Anonymous] at h
  | bearing h hgot =>
    have hlobby : step.command = .list ∨ step.command.Needs := by
      cases hcommand : step.command <;> simp [hcommand, Command.call?, Command.Needs] at h ⊢
    obtain ⟨call, hcall⟩ := Option.isSome_iff_exists.1 h
    have hsent := lobby_requests hlobby hgot
    rw [hcall] at hsent
    exact ⟨call, hsent⟩
  | listing h hgot =>
    unfold run
    rw [h]
    refine ⟨⟨"GET", Endpoint.tables, none⟩, (Action.requests_map _ _ _).trans ?_⟩
    rw [Lobby.list_requests_of_token, optionalToken_of_missing hgot]
    rfl

/-- A listing that builds no client has met an escape. -/
theorem list_requests_of_not_connects (hlist : step.command = .list)
    (h : ∀ token, ¬ s.Connects step token) : (s.run step).trail.requests = [] := by
  have hcall : step.command.call?.isSome = true := by
    rw [hlist]
    rfl
  have hescape : ∃ e, s.got step = .error (.escape e) := by
    rcases hgot : s.got step with (f | e) | (_ | c)
    · exact absurd (.listing hlist (.inr ⟨f, hgot⟩)) (h none)
    · exact ⟨e, rfl⟩
    · exact absurd (.listing hlist (.inl hgot)) (h none)
    · exact absurd (.bearing hcall hgot) (h (some c.accessToken))
  obtain ⟨e, he⟩ := hescape
  unfold run
  rw [hlist]
  refine (Action.requests_map _ _ _).trans ?_
  rw [Lobby.list_requests_of_token, Lobby.optionalToken_of_escape he]
  rfl

/-- What needs a credential and builds no client has found none, or its arguments are
refused. -/
theorem needs_requests_of_not_connects (hneeds : step.command.Needs)
    (h : ∀ token, ¬ s.Connects step token) : (s.run step).trail.requests = [] := by
  by_cases hgot : ∃ c, s.got step = .ok (some c)
  · obtain ⟨c, hgot⟩ := hgot
    rw [lobby_requests (.inr hneeds) hgot]
    cases hcall : step.command.call? with
    | none => rfl
    | some call =>
      refine absurd (.bearing ?_ hgot) (h (some c.accessToken))
      rw [hcall]
      rfl
  · exact (needs_offline s step hneeds fun c hc => hgot ⟨c, hc⟩).1

theorem requests_of_not_connects (h : ∀ token, ¬ s.Connects step token) :
    (s.run step).trail.requests = [] := by
  by_cases hasks : step.command.Asks
  · rcases Command.asks_cases hasks with hlist | hneeds | hanonymous
    · exact list_requests_of_not_connects hlist h
    · exact needs_requests_of_not_connects hneeds h
    · exact absurd (.anonymous hanonymous) (h none)
  · exact silent_requests s step hasks

theorem plainHeaders_of_mem {r : Request} (hr : r ∈ (s.run step).trail.requests) :
    r.PlainHeaders := by
  by_cases h : ∃ token, s.Connects step token
  · obtain ⟨token, h⟩ := h
    obtain ⟨call, hsent⟩ := requests_of_connects h
    rw [hsent, Option.mem_toList] at hr
    exact plainHeaders_of_prepared hr
  · rw [requests_of_not_connects fun token hconnects => h ⟨token, hconnects⟩] at hr
    exact absurd hr List.not_mem_nil

theorem unsent_of_bad (h : s.Connects step token) (hbad : BadHeader s.client.settings token name) :
    (s.run step).trail.requests = [] := by
  obtain ⟨call, hsent⟩ := requests_of_connects h
  rw [hsent, prepared?_bad hbad]
  rfl

theorem unbuilt_of_bad (h : s.Connects step token)
    (hbad : BadHeader s.client.settings token name) : ∃ report,
      (s.run step).result = .ok report ∧ step.command.Unbuilt step.url name report := by
  unfold run
  cases h with
  | anonymous h =>
    cases hcommand : step.command with
    | login identifier password =>
      exact ⟨_, Action.map_of_ok (Account.login_unbuilt hbad identifier password), .login ..⟩
    | check watch => exact ⟨_, Action.map_of_ok (Probe.check_unbuilt hbad watch), .check watch⟩
    | _ => simp [hcommand, Command.Anonymous] at h
  | @bearing c h hgot =>
    have htoken := Lobby.requiredToken_of_found hgot
    cases hcommand : step.command with
    | list =>
      exact ⟨_, Action.map_of_ok (Lobby.list_unbuilt (Lobby.optionalToken_of_got hgot) hbad), .list⟩
    | create v =>
      rw [hcommand, Command.call?] at h
      cases hconfig : configOf v with
      | error e => simp [hconfig, Except.toOption] at h
      | ok config =>
        refine ⟨_, ?_, .create v⟩
        show ((Action.ofEscape (configOf v) >>= fun config => Report.create <$>
          Lobby.create s.client (s.conditions step) step.url config) (s.world step)).result = _
        rw [hconfig, Action.bind_result]
        exact Action.map_of_ok (Lobby.createWith_unbuilt config htoken hbad)
    | join tableId buyIn =>
      exact ⟨_, Action.map_of_ok (Lobby.joinWith_unbuilt tableId buyIn htoken hbad), .join ..⟩
    | _ => simp [hcommand, Command.call?] at h
  | listing h hgot =>
    rw [h]
    exact ⟨_, Action.map_of_ok (Lobby.list_unbuilt (optionalToken_of_missing hgot) hbad), .list⟩

theorem exists_run_of_mem {steps : List SessionStep} {ran : Ran Report}
    (h : ran ∈ s.runAll steps) : ∃ (s' : Session) (step : SessionStep), ran = s'.run step := by
  induction steps generalizing s with
  | nil => exact absurd h List.not_mem_nil
  | cons step steps ih =>
    rcases List.mem_cons.1 h with rfl | h
    · exact ⟨s, step, rfl⟩
    · exact ih h

/-- What settings and a token have to be for a client. -/
structure HeadersChecked (settings : Settings) (token : Option String) : Prop where
  built : (∃ c, Credentials.build settings token = .ok c) ↔
    PlainText settings.userAgent ∧ ∀ t ∈ token, PlainText t
  /-- The user agent is blamed before the token is. -/
  refused : ∀ f, Credentials.build settings token = .error f ↔
    ∃ name, BadHeader settings token name ∧ f = .badHeader name
  kind : ∀ f, Credentials.build settings token = .error f → f.code = "client_construction"
  unconnected : ∀ name, BadHeader settings token name →
    ∀ url, Connection.build settings token url = .error (.badHeader name)

theorem headersChecked (settings : Settings) (token : Option String) :
    HeadersChecked settings token where
  built := Credentials.exists_build_iff
  refused _ := Credentials.build_eq_error
  kind f hf := by
    obtain ⟨name, -, rfl⟩ := Credentials.build_eq_error.1 hf
    rfl
  unconnected _ := Connection.build_bad

/-- What of a session stands in headers, whatever its slot holds. -/
structure HeadersGuarded (s : Session) : Prop where
  sent : ∀ steps, ∀ ran ∈ s.runAll steps, ∀ r ∈ ran.trail.requests, r.PlainHeaders
  /-- A client that is built with a bad header sends nothing, and its step reports that. -/
  unsent : ∀ step token name, s.Connects step token →
    BadHeader s.client.settings token name → (s.run step).trail.requests = [] ∧
      ∃ report, (s.run step).result = .ok report ∧ step.command.Unbuilt step.url name report
  /-- All other steps build no client. -/
  silent : ∀ step, (∀ token, ¬ s.Connects step token) → (s.run step).trail.requests = []

theorem headersGuarded (s : Session) : HeadersGuarded s where
  sent steps ran hran r hr := by
    obtain ⟨s', step, rfl⟩ := exists_run_of_mem hran
    exact plainHeaders_of_mem hr
  unsent _ _ _ h hbad := ⟨unsent_of_bad h hbad, unbuilt_of_bad h hbad⟩
  silent _ := requests_of_not_connects

/-- No text from outside gets out of its header: what is not plain is refused before a client
is built, and nothing else is ever sent. -/
theorem headers_guarded :
    (∀ settings token, HeadersChecked settings token) ∧ ∀ s, HeadersGuarded s :=
  ⟨headersChecked, headersGuarded⟩

/-- A token that would start a header of its own -/
example :
    let c : Credential :=
      { accessToken := "a\r\nX: b", refreshToken := "r"
        expiresAt := ⟨62135596801000000, by decide⟩ }
    let s : Session :=
      { client := { store := {}, settings := .standard }
        now := .ofUtc default, slot := some c.blob, otherwise := .gaveUp "ReadError" "" }
    let ran := s.run { command := .list, url := "https://poker.test" }
    ran.trail.requests.length = 0 ∧ ran.result.toOption.map Report.success = some false := by
  decide +kernel

end Session
end PokerClient
