import PokerClient.Proofs.AnyText
import PokerClient.Proofs.KeyringFaults

/-!
# The request that shows the token

A step in the lobby sends one request, or none if the request cannot be made. While the
slot holds a usable credential, the request shows the bearer of its access token,
unless the URL of the backend names a user: what the URL says of the user goes before
the bearer, and the token is not shown.
-/

namespace PokerClient

open Http Json Text Time

namespace Action

variable {α β : Type} {x : Action α} {f : α → Action β} {w : World}

theorem requests_bind_left (hf : ∀ a v, (f a v).trail.requests = []) :
    ((x >>= f) w).trail.requests = (x w).trail.requests := by
  cases hr : (x w).result with
  | error stop => rw [bind_of_error f hr]
  | ok a =>
    rw [bind_of_ok f hr]
    show (x w).trail.requests ++ (f a (x w).world).trail.requests = _
    rw [hf, List.append_nil]

theorem requests_bind_right {a : α} (hx : (x w).trail.requests = [])
    (hr : (x w).result = .ok a) :
    ((x >>= f) w).trail.requests = (f a (x w).world).trail.requests := by
  rw [bind_of_ok f hr]
  show (x w).trail.requests ++ (f a (x w).world).trail.requests = _
  rw [hx, List.nil_append]

theorem requests_attempt (x : Action α) (w : World) :
    (x.attempt w).trail.requests = (x w).trail.requests := by rw [attempt_eq]

theorem requests_map (g : α → β) (x : Action α) (w : World) :
    ((g <$> x) w).trail.requests = (x w).trail.requests := by rw [map_eq]

end Action

theorem Quiet.requests {α : Type} {x : Action α} (hx : Quiet x) (w : World) :
    (x w).trail.requests = [] := by
  obtain ⟨result, entries, hx⟩ := hx
  rw [hx]

namespace Http

/-- What a request asks of a backend. -/
structure Call where
  method : String
  path : String
  body : Option Value

/-- The request for a call that shows a token, if it can be made. -/
def prepared? (settings : Settings) (token : Option String) (url : String) (call : Call) :
    Option Request := do
  let connection ← (Connection.build settings token url).toOption
  (Request.build connection call.method call.path call.body).toOption

theorem prepared?_eq_some {settings : Settings} {token : Option String} {url : String} {call : Call}
    {r : Request} : prepared? settings token url call = some r ↔
      ∃ c, Connection.build settings token url = .ok c ∧
        Request.build c call.method call.path call.body = .ok r := by
  unfold prepared?
  cases Connection.build settings token url with
  | error f => simp [Except.toOption]
  | ok c =>
    cases hr : Request.build c call.method call.path call.body <;> simp [Except.toOption, hr]

theorem exchangeOnce_requests (r : Request) (w : World) :
    (exchangeOnce r w).trail.requests = [r] := by
  unfold exchangeOnce
  rw [Action.requests_bind_left, sendAction_requests]
  intro answer v
  cases replyOf answer with
  | error stop => rfl
  | ok reply => cases hasScheme r.url <;> rfl

/-- Without redirects one request is sent. -/
theorem exchange_requests (left : Nat) (r : Request) (w : World) :
    (exchange false left r w).trail.requests = [r] := by
  rw [exchange_unfollowed, Action.requests_bind_left, exchangeOnce_requests]
  exact fun once v => rfl

theorem send_requests (c : Connection) (call : Call) (w : World) :
    (Http.send c call.method call.path call.body false w).trail.requests =
      (Request.build c call.method call.path call.body).toOption.toList := by
  unfold Http.send
  cases Request.build c call.method call.path call.body with
  | error e => rfl
  | ok r =>
    have hmade : (Action.ofEscape (Except.ok r) w).result = .ok r := rfl
    rw [Action.requests_bind_right rfl hmade, Action.requests_bind_left, exchange_requests]
    · rfl
    · rintro ((reason | e) | response) v <;> rfl

theorem Connection.build_base {settings : Settings} {token : Option String} {url : String}
    {c : Connection} (hc : Connection.build settings token url = .ok c) :
    ∃ u, Url.parse (dropEnd '/' url.toList) = .ok u ∧ c.base.Settled ∧
      c.base.userinfo = u.userinfo := by
  obtain ⟨-, u, hu, hbase⟩ := Connection.build_eq_ok hc
  exact ⟨u, hu, Url.asBase_userinfo (Url.parse_settled hu) hbase⟩

/-- The request for a call of which the path starts with a slash shows the bearer of the
token, or else the user whom the URL of the backend names. -/
theorem prepared?_authorization {settings : Settings} {token : Option String} {url : String}
    {call : Call} {r : Request} (hpath : ∃ cs, call.path.toList = '/' :: cs)
    (hr : prepared? settings token url call = some r) :
    ∃ u, Url.parse (dropEnd '/' url.toList) = .ok u ∧
      r.authorization = Request.authorizationAt u (token.map Credentials.bearer) := by
  obtain ⟨c, hc, hbuild⟩ := prepared?_eq_some.1 hr
  obtain ⟨cs, hcs⟩ := hpath
  obtain ⟨u, hu, hsettled, hbase⟩ := Connection.build_base hc
  obtain ⟨path, hparse, hunder, hauthorization⟩ := Request.build_eq_ok hbuild
  rw [hcs] at hparse
  obtain ⟨-, huser⟩ := Url.under_userinfo (Url.parse_path hparse) hsettled hunder
  refine ⟨u, hu, ?_⟩
  rw [hauthorization, Connection.build_authorization hc]
  exact Request.authorizationAt_of_userinfo (huser.trans hbase) _

end Http

namespace Lobby

variable {c : Client} {k : Conditions} {w : World}

theorem request_requests (c : Client) (token : Option String) (url : String) (call : Call)
    (w : World) :
    (request c token url call.method call.path call.body w).trail.requests =
      (prepared? c.settings token url call).toList := by
  unfold request prepared?
  cases hc : Connection.build c.settings token url with
  | error f => rfl
  | ok connection =>
    have hmade : (Action.ofFailure (Except.ok connection) w).result = .ok connection := rfl
    rw [Action.requests_bind_right rfl hmade, Action.requests_bind_left, send_requests]
    · rfl
    · exact fun response v => (Quiet.ofStop _).requests v

theorem listWith_requests (token : Option String) (url : String) (w : World) :
    (listWith c token url w).trail.requests =
      (prepared? c.settings token url ⟨"GET", Endpoint.tables, none⟩).toList := by
  unfold listWith
  rw [Action.requests_bind_left, Action.requests_attempt, Action.requests_bind_left]
  · exact request_requests c token url ⟨"GET", Endpoint.tables, none⟩ w
  · exact fun data v => (Quiet.ofFailure _).requests v
  · exact fun tables v => (reportTables_quiet tables).requests v

theorem requiredToken_requests (c : Client) (k : Conditions) (w : World) :
    (requiredToken c k w).trail.requests = [] :=
  (requiredToken_offline c k w).1

theorem requiredToken_of_found {credential : Credential}
    (hget : (c.store.get k w).result = .ok (some credential)) :
    (requiredToken c k w).result = .ok credential.accessToken := by
  unfold requiredToken
  rw [Action.bind_result, hget]
  rfl

theorem list_requests {credential : Credential} (url : String)
    (hget : (c.store.get k w).result = .ok (some credential)) :
    (list c k url w).trail.requests =
      (prepared? c.settings (some credential.accessToken) url
        ⟨"GET", Endpoint.tables, none⟩).toList := by
  have hread : ((c.store.get k).attempt w).trail.requests = [] := by
    rw [Action.requests_attempt]
    exact (Store.get_offline c.store k w).1
  have hfound : ((c.store.get k).attempt w).result = .ok (.ok (some credential)) := by
    rw [Action.attempt_eq, hget]
    rfl
  rw [list_eq, Action.requests_bind_right hread hfound]
  exact listWith_requests (some credential.accessToken) url _

theorem create_requests {credential : Credential} (url : String) (config : TableConfig)
    (hget : (c.store.get k w).result = .ok (some credential)) :
    (create c k url config w).trail.requests =
      (prepared? c.settings (some credential.accessToken) url
        ⟨"POST", Endpoint.tables, some (config.dump .camel)⟩).toList := by
  have htoken := requiredToken_of_found hget
  have hread := requiredToken_requests c k w
  unfold create createWith
  rw [Action.requests_bind_left, Action.requests_attempt,
    Action.requests_bind_right hread htoken, Action.requests_bind_left]
  · exact request_requests c _ url ⟨"POST", Endpoint.tables, some (config.dump .camel)⟩ _
  · exact fun data v => (Quiet.ofFailure _).requests v
  · exact fun created v => (reportCreation_quiet _ created).requests v

theorem join_requests {credential : Credential} (url tableId : String) (buyIn : Value)
    (hget : (c.store.get k w).result = .ok (some credential)) :
    (join c k url tableId buyIn w).trail.requests =
      (prepared? c.settings (some credential.accessToken) url
        ⟨"POST", Endpoint.join tableId, some (joinBody buyIn)⟩).toList := by
  have htoken := requiredToken_of_found hget
  have hread := requiredToken_requests c k w
  unfold join joinWith
  rw [Action.requests_bind_left, Action.requests_attempt,
    Action.requests_bind_right hread htoken]
  · exact request_requests c _ url ⟨"POST", Endpoint.join tableId, some (joinBody buyIn)⟩ _
  · exact fun joined v => (reportSeat_quiet _ _ joined).requests v

end Lobby

/-- What a step in the lobby asks of the backend, if its arguments are accepted. -/
def Command.call? : Command → Option Call
  | .list => some ⟨"GET", Endpoint.tables, none⟩
  | .create v => (Session.configOf v).toOption.map fun config =>
      ⟨"POST", Endpoint.tables, some (config.dump .camel)⟩
  | .join tableId buyIn => some ⟨"POST", Endpoint.join tableId, some (Lobby.joinBody buyIn)⟩
  | _ => none

theorem Command.call?_path {command : Command} {call : Call} (h : command.call? = some call) :
    ∃ cs, call.path.toList = '/' :: cs := by
  have htables : ∃ cs, Endpoint.tables.toList = '/' :: cs := ⟨_, rfl⟩
  cases command with
  | list =>
    cases h
    exact htables
  | create v =>
    obtain ⟨config, -, hcall⟩ := Option.map_eq_some_iff.1 h
    rw [← hcall]
    exact htables
  | join tableId buyIn =>
    cases h
    exact ⟨_, String.toList_ofList⟩
  | _ => cases h

namespace Session

variable {s : Session} {step : SessionStep} {c : Credential}

/-- A step in the lobby sends the request for its call, if that can be made. -/
theorem lobby_requests (hlobby : step.command = .list ∨ step.command.Needs)
    (hgot : s.got step = .ok (some c)) :
    (s.run step).trail.requests =
      (step.command.call?.bind
        (prepared? s.client.settings (some c.accessToken) step.url)).toList := by
  show (perform s.client (s.conditions step) step.url step.command
    (s.world step)).trail.requests = _
  cases hcommand : step.command with
  | list =>
    exact (Action.requests_map _ _ _).trans (Lobby.list_requests step.url hgot)
  | create v =>
    show ((Action.ofEscape (configOf v) >>= fun config => Report.create <$>
      Lobby.create s.client (s.conditions step) step.url config) (s.world step)).trail.requests =
        (((configOf v).toOption.map _).bind _).toList
    cases configOf v with
    | error e => rfl
    | ok config =>
      have hconfig : (Action.ofEscape (Except.ok config) (s.world step)).result = .ok config := rfl
      rw [Action.requests_bind_right rfl hconfig, Action.requests_map]
      exact Lobby.create_requests step.url config hgot
  | join tableId buyIn =>
    exact (Action.requests_map _ _ _).trans (Lobby.join_requests step.url tableId buyIn hgot)
  | _ => simp [Command.Needs, hcommand] at hlobby

/-- A usable credential in the slot is what a read yields, unless the keyring refuses to
let the slot be read. -/
theorem got_of_holds (step : SessionStep) (hheld : s.Holds c) :
    s.got step = .ok (some c) ∨ s.client.store.kind = .keyring ∧ step.faults.read ≠ none ∧
      ∃ stop, s.got step = .error stop := by
  obtain ⟨blob, hslot, husable⟩ := hheld
  have hsettle : s.client.store.settle (s.conditions step) blob = pure (some c) :=
    Store.settle_usable husable
  have hworld : (s.world step).slot = some blob := hslot
  unfold got Store.get
  rw [Action.bind_result]
  rcases Store.read_result s.client.store step.faults (s.world step) with hread | ⟨stop, hread, -⟩
  · have hread : (s.client.store.read (s.conditions step).faults (s.world step)).result =
        .ok (some blob) := hread.trans (congrArg Except.ok hworld)
    rw [hread]
    left
    show (s.client.store.settle (s.conditions step) blob _).result = _
    rw [hsettle]
    rfl
  · refine Or.inr ⟨?_, ?_, stop, ?_⟩
    · cases hkind : s.client.store.kind with
      | keyring => rfl
      | memory => simp [Store.read, hkind, Action.look] at hread
    · obtain ⟨fault, hfault, -⟩ := Store.read_error hread
      rw [hfault]
      exact Option.some_ne_none fault
    · have hread : (s.client.store.read (s.conditions step).faults (s.world step)).result =
          .error stop := hread
      rw [hread]
      rfl

/-- What a step in the lobby sends while the slot holds a usable credential. -/
structure BearsToken (s : Session) (step : SessionStep) (c : Credential) : Prop where
  /-- Unless the store fails, it is the request for the call of the step, if there is one
  that can be made. -/
  sent : s.got step = .ok (some c) → (s.run step).trail.requests =
    (step.command.call?.bind (prepared? s.client.settings (some c.accessToken) step.url)).toList
  /-- It shows the bearer of the token, or else the user whom the URL of the backend
  names. -/
  shown : ∀ r ∈ (s.run step).trail.requests, ∃ u,
    Url.parse (dropEnd '/' step.url.toList) = .ok u ∧
      r.authorization = Request.authorizationAt u (some (Credentials.bearer c.accessToken))
  /-- Without an at sign in the URL of the backend, it shows the bearer. -/
  borne : '@' ∉ step.url.toList → ∀ r ∈ (s.run step).trail.requests, r.Bears c.accessToken

/-- While the slot holds a usable credential, whatever is sent in the lobby shows its
access token, unless the URL of the backend names a user. -/
theorem lobby_bearsToken (s : Session) (step : SessionStep) (c : Credential)
    (hlobby : step.command = .list ∨ step.command.Needs) (hheld : s.Holds c)
    (hread : step.command = .list → s.client.store.kind = .keyring → step.faults.read = none) :
    BearsToken s step c := by
  have hsent := lobby_requests (s := s) (c := c) hlobby
  have hshown : ∀ r ∈ (s.run step).trail.requests, ∃ u,
      Url.parse (dropEnd '/' step.url.toList) = .ok u ∧
        r.authorization = Request.authorizationAt u (some (Credentials.bearer c.accessToken)) := by
    intro r hr
    rcases got_of_holds step hheld with hgot | ⟨hkind, hrefused, stop, hstop⟩
    · rw [hsent hgot, Option.mem_toList, Option.bind_eq_some_iff] at hr
      obtain ⟨call, hcall, hr⟩ := hr
      exact prepared?_authorization (Command.call?_path hcall) hr
    · -- A refused read stops all but the listing, for which it is ruled out.
      rcases hlobby with hlist | hneeds
      · exact absurd (hread hlist hkind) hrefused
      · have hnothing : (s.run step).trail.requests = [] := by
          refine (needs_offline s step hneeds fun c' hc' => ?_).1
          cases hstop.symm.trans hc'
        rw [hnothing] at hr
        exact absurd hr List.not_mem_nil
  refine ⟨hsent, hshown, fun hat r hr => ?_⟩
  obtain ⟨u, hu, hauthorization⟩ := hshown r hr
  have htrimmed : '@' ∉ dropEnd '/' step.url.toList := fun hmem => hat (mem_cs_of_dropEnd hmem)
  have hnobody := Url.parse_userinfo_of_notMem htrimmed hu
  rw [Request.authorizationAt_of_nobody hnobody] at hauthorization
  exact hauthorization

/-- A backend whose URL names no user is shown the token. -/
theorem lobby_bearsToken_of_list :
    let c : Credential :=
      { accessToken := "a", refreshToken := "r", expiresAt := ⟨62135596801000000, by decide⟩ }
    let s : Session :=
      { client := { store := { kind := .keyring }, settings := .standard }
        now := .ofUtc default, slot := some c.blob, otherwise := .gaveUp "ReadError" "" }
    let step : SessionStep := { command := .list, url := "https://poker.test" }
    (step.command = .list ∨ step.command.Needs) ∧ s.Holds c ∧ step.faults.read = none ∧
      (s.run step).trail.requests.map Request.authorization = [some "Bearer a"] ∧
      BearsToken s step c := by
  intro c s step
  have hheld : s.Holds c := ⟨c.blob, rfl, c.ofBlob_blob, 0, rfl, by decide⟩
  refine ⟨Or.inl rfl, hheld, rfl, by decide +kernel, ?_⟩
  exact lobby_bearsToken s step c (Or.inl rfl) hheld fun _ _ => rfl

/-- The user in the URL of the backend takes the place of the token. -/
theorem lobby_hides_token :
    let c : Credential :=
      { accessToken := "a", refreshToken := "r", expiresAt := ⟨62135596801000000, by decide⟩ }
    let s : Session :=
      { client := { store := {}, settings := .standard }
        now := .ofUtc default, slot := some c.blob, otherwise := .gaveUp "ReadError" "" }
    let step : SessionStep := { command := .list, url := "https://user:pw@poker.test" }
    s.Holds c ∧ Credentials.isHeaderValue c.accessToken ∧
      (Connection.build s.client.settings (some c.accessToken) step.url).toOption.isSome ∧
      ∃ r ∈ (s.run step).trail.requests,
        r.authorization = some "Basic dXNlcjpwdw==" ∧ ¬ r.Bears c.accessToken := by
  intro c s step
  have hheld : s.Holds c := ⟨c.blob, rfl, c.ofBlob_blob, 0, rfl, by decide⟩
  have hshown : (s.run step).trail.requests.map Request.authorization =
      [some "Basic dXNlcjpwdw=="] := by decide +kernel
  refine ⟨hheld, by decide, by decide +kernel, ?_⟩
  have hmem :
      some "Basic dXNlcjpwdw==" ∈ (s.run step).trail.requests.map Request.authorization := by
    rw [hshown]
    exact List.mem_singleton_self _
  obtain ⟨r, hr, hauthorization⟩ := List.mem_map.1 hmem
  refine ⟨r, hr, hauthorization, fun hbears => ?_⟩
  have hvalue : some "Basic dXNlcjpwdw==" = some (Credentials.bearer c.accessToken) :=
    hauthorization.symm.trans hbears
  exact absurd hvalue (by decide)

end Session
end PokerClient
