import PokerClient.Session
import PokerClient.Proofs.Footprint
import PokerClient.Proofs.UserInfo

/-!
# What goes over the network

An operation asks the network without regard to the secret slot. Each of its
requests shows the authorization that the connection was built with, unless the
URL names a user.
-/

namespace PokerClient

open Http Json Time Validation

namespace Http

theorem exchangeOnce_slotless (r : Request) : Slotless (exchangeOnce r) := by
  refine Slotless.bind (Slotless.send r) fun answer => ?_
  split
  · exact Slotless.of_quiet (Quiet.pure _)
  · split <;> exact Slotless.of_quiet (Quiet.pure _)

theorem exchange_slotless (follow : Bool) (left : Nat) (r : Request) :
    Slotless (exchange follow left r) := by
  induction left generalizing r with
  | zero =>
    unfold exchange
    refine Slotless.bind (exchangeOnce_slotless r) fun once => ?_
    rcases once with stop | reply
    · exact Slotless.of_quiet (Quiet.pure _)
    · dsimp only
      rcases fetched r reply with stop | ⟨response, _ | request⟩
      · exact Slotless.of_quiet (Quiet.pure _)
      · exact Slotless.of_quiet (Quiet.pure _)
      · cases follow <;> exact Slotless.of_quiet (Quiet.pure _)
  | succ left ih =>
    unfold exchange
    refine Slotless.bind (exchangeOnce_slotless r) fun once => ?_
    rcases once with stop | reply
    · exact Slotless.of_quiet (Quiet.pure _)
    · dsimp only
      rcases fetched r reply with stop | ⟨response, _ | request⟩
      · exact Slotless.of_quiet (Quiet.pure _)
      · exact Slotless.of_quiet (Quiet.pure _)
      · cases follow
        · exact Slotless.of_quiet (Quiet.pure _)
        · exact ih request

theorem send_slotless (c : Connection) (method path : String) (body : Option Value)
    (follow : Bool) : Slotless (Http.send c method path body follow) := by
  refine Slotless.bind (Slotless.of_quiet (Quiet.ofEscape _)) fun request => ?_
  refine Slotless.bind (exchange_slotless follow _ request) fun answer => ?_
  rcases answer with (reason | e) | response
  · exact Slotless.of_quiet (Quiet.fail _)
  · exact Slotless.of_quiet (Quiet.escape _)
  · exact Slotless.of_quiet (Quiet.pure _)

/-- Without redirects the answer to a request is what comes of the first reply. -/
theorem exchange_unfollowed (left : Nat) (r : Request) :
    exchange false left r = exchangeOnce r >>= fun once =>
      pure (once.bind fun reply => (fetched r reply).map Prod.fst) := by
  cases left <;>
  · unfold exchange
    congr 1
    funext once
    rcases once with stop | reply
    · rfl
    · dsimp only [Except.bind]
      rcases fetched r reply with stop | ⟨response, _ | request⟩ <;> rfl

theorem sendAction_requests (r : Request) (w : World) :
    (Action.send r w).trail.requests = [r] := by
  unfold Action.send
  split <;> rfl

section Sends

variable {P : Request → Prop} {r : Request} {w : World}

theorem sendAction_sends (hr : P r) : (Law.sendsOnly P).Obeyed (Action.send r) w := by
  intro r' hr'
  rw [sendAction_requests, List.mem_singleton] at hr'
  exact hr' ▸ hr

theorem exchangeOnce_sends (hr : P r) : (Law.sendsOnly P).Obeyed (exchangeOnce r) w := by
  refine Law.bind (sendAction_sends hr) fun answer _ => ?_
  split
  · exact Law.of_quiet (Quiet.pure _)
  · split <;> exact Law.of_quiet (Quiet.pure _)

/-- No redirect is followed unless that is asked for. -/
theorem exchange_sends (hr : P r) (left : Nat) :
    (Law.sendsOnly P).Obeyed (exchange false left r) w := by
  rw [exchange_unfollowed]
  exact Law.bind (exchangeOnce_sends hr) fun _ _ => Law.of_quiet (Quiet.pure _)

end Sends

namespace Request

/-- A request shows the bearer of a token, or nothing if there is none, or else the
user whom its URL names. -/
def AuthorizedBy (token : Option String) (r : Request) : Prop :=
  r.authorization = token.map Credentials.bearer ∨ ∃ u, r.authorization = some (basic u)

/-- A request shows the bearer of a token. -/
def Bears (r : Request) (token : String) : Prop := r.authorization = some (Credentials.bearer token)

theorem bearer_toList (t : String) :
    (Credentials.bearer t).toList = "Bearer ".toList ++ t.toList :=
  String.toList_append

theorem eq_bearer_of_prefix {value : String} (h : "Bearer ".toList <+: value.toList) :
    ∃ t, value = Credentials.bearer t := by
  obtain ⟨cs, hcs⟩ := h
  refine ⟨String.ofList cs, String.toList_inj.1 ?_⟩
  rw [bearer_toList, ← hcs]
  exact congrArg _ String.toList_ofList.symm

theorem bearer_injective {s t : String} (h : Credentials.bearer s = Credentials.bearer t) :
    s = t := by
  have h := congrArg String.toList h
  rw [bearer_toList, bearer_toList] at h
  exact String.toList_inj.1 (List.append_cancel_left h)

theorem basic_toList (u : Url) : ∃ cs, (basic u).toList = "Basic ".toList ++ cs :=
  ⟨_, String.toList_ofList⟩

theorem basic_ne_bearer (u : Url) (t : String) : basic u ≠ Credentials.bearer t := by
  intro h
  obtain ⟨cs, hcs⟩ := basic_toList u
  rw [h, bearer_toList] at hcs
  simp at hcs

theorem AuthorizedBy.eq_of_bears {token : Option String} {r : Request} {t : String}
    (hr : AuthorizedBy token r) (ht : r.Bears t) : token = some t := by
  rcases hr with hr | ⟨u, hr⟩
  · rw [Bears, hr, Option.map_eq_some_iff] at ht
    obtain ⟨s, rfl, hs⟩ := ht
    rw [bearer_injective hs]
  · exact absurd (Option.some.inj (hr.symm.trans ht)) (basic_ne_bearer u t)

/-- A request is made of a connection, a method, a path and a body. -/
structure Made (c : Connection) (method path : String) (body : Option Value) (r : Request) :
    Prop where
  target : ∃ u, Url.parse path.toList = .ok u ∧ u.under c.base = .ok r.url
  method : r.method = String.ofList (method.toList.map Char.toUpper)
  userAgent : r.userAgent = c.credentials.userAgent
  authorization : r.authorization = authorizationAt r.url c.credentials.authorization
  body : ∀ v ∈ body, v.sent = .ok r.body ∧
    r.contentLength = some (Text.Utf8.encode r.body).length

variable {c : Connection} {method path : String} {body : Option Value} {r : Request}

theorem made (hr : build c method path body = .ok r) : Made c method path body r := by
  unfold build at hr
  cases hu : Url.parse path.toList with
  | error f => simp [hu, bind, Except.bind] at hr
  | ok u =>
    cases hunder : u.under c.base with
    | error f => simp [hu, hunder, bind, Except.bind] at hr
    | ok url =>
      simp only [hu, hunder, bind, Except.bind, pure, Except.pure] at hr
      cases body with
      | none =>
        dsimp only at hr
        split at hr
        · cases hr
        · cases hr
          exact ⟨⟨u, hu, hunder⟩, rfl, rfl, rfl, nofun⟩
      | some v =>
        cases hv : v.sent with
        | error f => simp [hv] at hr
        | ok text =>
          simp only [hv] at hr
          split at hr
          · cases hr
          · cases hr
            refine ⟨⟨u, hu, hunder⟩, rfl, rfl, rfl, ?_⟩
            rintro w ⟨⟩
            exact ⟨hv, rfl⟩

/-- What a request is made of: its URL, and the authorization that goes with it. -/
theorem build_eq_ok (hr : build c method path body = .ok r) :
    ∃ u, Url.parse path.toList = .ok u ∧ u.under c.base = .ok r.url ∧
      r.authorization = authorizationAt r.url c.credentials.authorization := by
  obtain ⟨u, hu, hunder⟩ := (made hr).target
  exact ⟨u, hu, hunder, (made hr).authorization⟩

/-- A request is sent with its method in upper case. -/
theorem build_method (hr : build c method path body = .ok r) :
    r.method = String.ofList (method.toList.map Char.toUpper) := (made hr).method

/-- What the URL says of the user goes before the authorization of the connection. -/
theorem build_authorization (hr : build c method path body = .ok r) :
    r.authorization = c.credentials.authorization ∨ ∃ u, r.authorization = some (basic u) := by
  rw [(made hr).authorization]
  unfold authorizationAt
  split
  · exact Or.inl rfl
  · exact Or.inr ⟨r.url, rfl⟩

end Request

theorem Credentials.isHeaderValue_bearer (token : String) :
    Credentials.isHeaderValue (Credentials.bearer token) = Credentials.isHeaderValue token := by
  have hprefix : "Bearer ".toList.all Text.isPlain = true := by decide
  unfold Credentials.isHeaderValue
  rw [Request.bearer_toList, List.all_append, hprefix, Bool.true_and]

/-- Credentials are made of the user agent as it stands and of the bearer of a token. -/
theorem Credentials.build_eq_ok {settings : Settings} {token : Option String} {c : Credentials}
    (hc : Credentials.build settings token = .ok c) :
    c = { userAgent := settings.userAgent, authorization := token.map bearer } := by
  unfold Credentials.build at hc
  split at hc
  · cases hc
  · dsimp only at hc
    split at hc
    · cases hc
    · cases hc
      rfl

theorem Credentials.build_authorization {settings : Settings} {token : Option String}
    {c : Credentials} (hc : Credentials.build settings token = .ok c) :
    c.authorization = token.map Credentials.bearer := by
  rw [Credentials.build_eq_ok hc]

/-- Credentials can be made of a user agent and a token that can stand in a header. -/
theorem Credentials.exists_build {settings : Settings} {token : Option String} :
    (∃ c, Credentials.build settings token = .ok c) ↔
      isHeaderValue settings.userAgent = true ∧ token.all isHeaderValue = true := by
  have hbearer : (token.map bearer).all isHeaderValue = token.all isHeaderValue := by
    cases token with
    | none => rfl
    | some t => exact isHeaderValue_bearer t
  unfold Credentials.build
  dsimp only
  rw [hbearer]
  cases isHeaderValue settings.userAgent <;> cases token.all isHeaderValue <;> simp

/-- What a connection is made of: its credentials, and the URL of the backend. -/
theorem Connection.build_eq_ok {settings : Settings} {token : Option String} {url : String}
    {c : Connection} (hc : Connection.build settings token url = .ok c) :
    Credentials.build settings token = .ok c.credentials ∧
      ∃ u, Url.parse (Text.dropEnd '/' url.toList) = .ok u ∧ u.asBase = .ok c.base := by
  unfold Connection.build at hc
  cases hcr : Credentials.build settings token with
  | error f => simp [hcr, bind, Except.bind] at hc
  | ok credentials =>
    simp only [hcr, bind, Except.bind, pure, Except.pure] at hc
    split at hc
    · cases hc
    · cases hu : Url.parse (Text.dropEnd '/' url.toList) with
      | error f => simp [hu] at hc
      | ok u =>
        cases hbase : u.asBase with
        | error f => simp [hu, hbase] at hc
        | ok base =>
          simp only [hu, hbase] at hc
          cases hc
          exact ⟨rfl, u, rfl, hbase⟩

theorem Connection.build_authorization {settings : Settings} {token : Option String} {url : String}
    {c : Connection} (hc : Connection.build settings token url = .ok c) :
    c.credentials.authorization = token.map Credentials.bearer :=
  Credentials.build_authorization (Connection.build_eq_ok hc).1

theorem send_authorized {c : Connection} {token : Option String}
    (hc : c.credentials.authorization = token.map Credentials.bearer)
    (method path : String) (body : Option Value) (w : World) :
    (Law.sendsOnly (Request.AuthorizedBy token)).Obeyed (Http.send c method path body) w := by
  unfold Http.send
  cases hr : Request.build c method path body with
  | error e => exact Law.bind (Law.of_quiet (Quiet.escape e)) fun r hr => by cases hr
  | ok r =>
    have ha : r.AuthorizedBy token := by
      rw [Request.AuthorizedBy, ← hc]
      exact Request.build_authorization hr
    refine Law.bind (Law.of_quiet (Quiet.pure r)) fun r' hr' => ?_
    cases hr'
    refine Law.bind (exchange_sends ha _) fun answer _ => ?_
    rcases answer with (reason | e) | response
    · exact Law.of_quiet (Quiet.fail _)
    · exact Law.of_quiet (Quiet.escape e)
    · exact Law.of_quiet (Quiet.pure response)

/-- Whatever is done with a connection alone shows the authorization of its token. -/
theorem connect_authorized {α : Type} {settings : Settings} {token : Option String} {url : String}
    {f : Connection → Action α} {w : World}
    (hf : ∀ c : Connection, c.credentials.authorization = token.map Credentials.bearer →
      (Law.sendsOnly (Request.AuthorizedBy token)).Obeyed (f c) w) :
    (Law.sendsOnly (Request.AuthorizedBy token)).Obeyed
      (Action.ofFailure (Connection.build settings token url) >>= f) w := by
  cases hc : Connection.build settings token url with
  | error e => exact Law.bind (Law.of_quiet (Quiet.fail e)) fun c hc => by cases hc
  | ok c =>
    refine Law.bind (Law.of_quiet (Quiet.pure c)) fun c' hc' => ?_
    cases hc'
    exact hf c (Connection.build_authorization hc)

end Http

namespace Account

theorem refused_quiet (f : Failure) : Quiet (refused f) := by
  cases f <;> exact Quiet.bind (Quiet.log _ _ _) fun _ => Quiet.pure _

theorem reportLogin_quiet (granted : Except Failure (Login × Credential GivenText)) :
    Quiet (reportLogin granted) := by
  rcases granted with f | ⟨login, credential⟩
  · exact refused_quiet f
  · exact Quiet.bind (Quiet.log _ _ _) fun _ => Quiet.pure _

theorem reportLogout_quiet (deleted : Except Failure Unit) : Quiet (reportLogout deleted) := by
  cases deleted <;> exact Quiet.bind (Quiet.log _ _ _) fun _ => Quiet.pure _

theorem reportToken_quiet (found : Except Failure (Option Credential)) :
    Quiet (reportToken found) := by
  cases found <;> exact Quiet.pure _

theorem reportUser_quiet (found : Except Failure (Option Credential)) :
    Quiet (reportUser found) := by
  cases found <;> exact Quiet.pure _

theorem signIn_slotless (c : Client) (url identifier password : String) :
    Slotless (signIn c url identifier password) :=
  Slotless.bind (Slotless.of_quiet (Quiet.ofFailure _)) fun connection =>
    Slotless.bind (send_slotless connection _ _ _ _) fun _ =>
      Slotless.of_quiet (Quiet.ofStop _)

theorem obtain_slotless (c : Client) (now : Moment) (url identifier password : String) :
    Slotless (obtain c now url identifier password) :=
  Slotless.bind (signIn_slotless c url identifier password) fun _ =>
    Slotless.bind (Slotless.of_quiet (Quiet.ofEscape _)) fun _ => Slotless.of_quiet (Quiet.pure _)

/-- Logging in shows no token. -/
theorem obtain_authorized (c : Client) (now : Moment) (url identifier password : String)
    (w : World) :
    (Law.sendsOnly (Request.AuthorizedBy none)).Obeyed
      (obtain c now url identifier password) w := by
  refine Law.bind (connect_authorized fun connection hc => ?_) fun login _ => ?_
  · exact Law.bind (send_authorized hc _ _ _ w) fun _ _ => Law.of_quiet (Quiet.ofStop _)
  · exact Law.bind (Law.of_quiet (Quiet.ofEscape _)) fun _ _ => Law.of_quiet (Quiet.pure _)

end Account

namespace Lobby

theorem grantedToken_quiet (found : Option Credential) : Quiet (grantedToken found) := by
  cases found
  · exact Quiet.fail _
  · exact Quiet.pure _

theorem tokenIfAny_quiet (found : Except Failure (Option Credential)) :
    Quiet (tokenIfAny found) := by
  cases found
  · exact Quiet.bind (Quiet.log _ _ _) fun _ => Quiet.pure _
  · exact Quiet.pure _

theorem reportCreation_quiet (name : String) (created : Except Failure (Option Table)) :
    Quiet (reportCreation name created) := by
  rcases created with f | _ | table
  · exact Quiet.bind (Quiet.log _ _ _) fun _ => Quiet.pure _
  · exact Quiet.pure _
  · exact Quiet.bind (Quiet.log _ _ _) fun _ => Quiet.pure _

theorem reportSeat_quiet (tableId : String) (buyIn : Value) (joined : Except Failure Value) :
    Quiet (reportSeat tableId buyIn joined) := by
  cases joined <;> exact Quiet.bind (Quiet.log _ _ _) fun _ => Quiet.pure _

theorem reportTables_quiet (tables : Except Failure (List Table)) :
    Quiet (reportTables tables) := by
  cases tables
  · exact Quiet.bind (Quiet.log _ _ _) fun _ => Quiet.pure _
  · exact Quiet.pure _

theorem request_slotless (c : Client) (token : Option String) (url method path : String)
    (body : Option Value) : Slotless (request c token url method path body) :=
  Slotless.bind (Slotless.of_quiet (Quiet.ofFailure _)) fun connection =>
    Slotless.bind (send_slotless connection _ _ _ _) fun _ => Slotless.of_quiet (Quiet.ofStop _)

theorem request_authorized (c : Client) (token : Option String) (url method path : String)
    (body : Option Value) (w : World) :
    (Law.sendsOnly (Request.AuthorizedBy token)).Obeyed (request c token url method path body) w :=
  connect_authorized fun _ hc =>
    Law.bind (send_authorized hc _ _ _ w) fun _ _ => Law.of_quiet (Quiet.ofStop _)

theorem listWith_slotless (c : Client) (token : Option String) (url : String) :
    Slotless (listWith c token url) := by
  refine Slotless.bind (Slotless.attempt ?_) fun tables =>
    Slotless.of_quiet (reportTables_quiet tables)
  exact Slotless.bind (request_slotless c token url _ _ _) fun _ =>
    Slotless.of_quiet (Quiet.ofFailure _)

theorem listWith_authorized (c : Client) (token : Option String) (url : String) (w : World) :
    (Law.sendsOnly (Request.AuthorizedBy token)).Obeyed (listWith c token url) w := by
  refine Law.bind (Law.attempt ?_) fun tables _ => Law.of_quiet (reportTables_quiet tables)
  exact Law.bind (request_authorized c token url _ _ _ w) fun _ _ =>
    Law.of_quiet (Quiet.ofFailure _)

theorem createWith_slotless (c : Client) {token : Action String} (ht : Slotless token)
    (url : String) (config : TableConfig) : Slotless (createWith c token url config) := by
  refine Slotless.bind (Slotless.attempt ?_) fun created =>
    Slotless.of_quiet (reportCreation_quiet _ created)
  refine Slotless.bind ht fun token => ?_
  exact Slotless.bind (request_slotless c token url _ _ _) fun _ =>
    Slotless.of_quiet (Quiet.ofFailure _)

theorem joinWith_slotless (c : Client) {token : Action String} (ht : Slotless token)
    (url tableId : String) (buyIn : Value) : Slotless (joinWith c token url tableId buyIn) := by
  refine Slotless.bind (Slotless.attempt ?_) fun joined =>
    Slotless.of_quiet (reportSeat_quiet _ _ joined)
  exact Slotless.bind ht fun token => request_slotless c token url _ _ _

end Lobby

namespace Probe

theorem check_slotless (settings : Settings) (watch : Stopwatch) (url : String) :
    Slotless (check settings watch url) := by
  refine Slotless.bind (Slotless.attempt ?_) fun answer => ?_
  · exact Slotless.bind (Slotless.of_quiet (Quiet.ofFailure _)) fun connection =>
      send_slotless connection _ _ _ _
  · apply Slotless.of_quiet
    cases answer <;> exact Quiet.bind (Quiet.log _ _ _) fun _ => Quiet.pure _

/-- The probe shows no token. -/
theorem check_authorized (settings : Settings) (watch : Stopwatch) (url : String) (w : World) :
    (Law.sendsOnly (Request.AuthorizedBy none)).Obeyed (check settings watch url) w := by
  refine Law.bind (Law.attempt ?_) fun answer _ => ?_
  · exact connect_authorized fun connection hc => send_authorized hc _ _ _ w
  · apply Law.of_quiet
    cases answer <;> exact Quiet.bind (Quiet.log _ _ _) fun _ => Quiet.pure _

end Probe
end PokerClient
