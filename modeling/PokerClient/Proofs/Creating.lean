import PokerClient.Proofs.AcceptedConfig
import PokerClient.Proofs.AnyText
import PokerClient.Proofs.Answering
import PokerClient.Proofs.BearerRequest

/-!
# Creating a table

With a credential at hand, an accepted configuration is sent to the backend in one
request if it can be written, and not at all if it cannot. What the backend makes of it
is reported, unless the backend refuses it in words that cannot be read.
-/

namespace PokerClient

open Http Json Numeric Text Time Validation

namespace Http

/-- A request for a path can be made at the URL of a backend. -/
structure Reaches (url path : String) (base target : Url) : Prop where
  given : (dropEnd '/' url.toList).isEmpty = false
  parsed : (Url.parse (dropEnd '/' url.toList) >>= Url.asBase) = .ok base
  placed : (Url.parse path.toList >>= fun u => u.under base) = .ok target
  host : Request.checkHost target = .ok ()
  scheme : hasScheme target = true

variable {settings : Settings} {token url path : String} {base target : Url}

theorem Connection.build_of_credentials (h : Reaches url path base target) {token : Option String}
    {credentials : Credentials} (hc : Credentials.build settings token = .ok credentials) :
    ∃ c, Connection.build settings token url = .ok c ∧ c.base = base := by
  unfold Connection.build
  rw [hc]
  dsimp only [Except.bind]
  rw [h.parsed, h.given]
  exact ⟨_, rfl, rfl⟩

theorem Connection.build_of_reaches (h : Reaches url path base target)
    (hagent : Credentials.isHeaderValue settings.userAgent = true)
    (htoken : Credentials.isHeaderValue token = true) :
    ∃ c, Connection.build settings (some token) url = .ok c ∧ c.base = base := by
  obtain ⟨credentials, hcredentials⟩ :=
    Credentials.exists_build.2 ⟨hagent, (Option.all_some ..).trans htoken⟩
  exact Connection.build_of_credentials h hcredentials

variable {c : Connection} {v : Value} {method : String} {body : Option Value}

theorem Request.build_body {r : Request} (hr : Request.build c method path body = .ok r) :
    ∀ v ∈ body, ∃ text, v.sent = .ok text := by
  intro v hv
  exact ⟨r.body, ((made hr).body v hv).1⟩

/-- Where a request can be made at all, all that it needs is a body that can be sent. -/
theorem Request.exists_build (h : Reaches url path c.base target)
    (hbody : ∀ v ∈ body, ∃ text, v.sent = .ok text) :
    ∃ r, Request.build c method path body = .ok r ∧ r.url = target := by
  unfold Request.build
  dsimp only
  rw [h.placed]
  dsimp only [bind, Except.bind, pure, Except.pure]
  cases body with
  | none =>
    rw [h.host]
    exact ⟨_, rfl, rfl⟩
  | some v =>
    obtain ⟨text, hv⟩ := hbody v rfl
    dsimp only
    rw [hv]
    dsimp only
    rw [h.host]
    exact ⟨_, rfl, rfl⟩

theorem Request.build_unsendable (h : Reaches url path c.base target) {fault : WriteFault}
    (hv : v.sent = .error fault) :
    Request.build c "POST" path (some v) = .error (.unsendable fault) := by
  unfold Request.build
  dsimp only
  rw [h.placed, hv]
  rfl

theorem Request.build_posted (h : Reaches url path c.base target) {text : List Char}
    (hv : v.sent = .ok text) :
    ∃ r, Request.build c "POST" path (some v) = .ok r ∧ r.method = "POST" ∧ r.url = target ∧
      r.body = text := by
  have hmethod : String.ofList ("POST".toList.map Char.toUpper) = "POST" := by decide
  obtain ⟨r, hr, hurl⟩ : ∃ r, Request.build c "POST" path (some v) = .ok r ∧ r.url = target := by
    refine exists_build h ?_
    rintro _ ⟨⟩
    exact ⟨text, hv⟩
  have hbody : Except.ok text = Except.ok r.body := hv.symm.trans ((made hr).body v rfl).1
  exact ⟨r, hr, (build_method hr).trans hmethod, hurl, (Except.ok.inj hbody).symm⟩

theorem exists_reaches_tables :
    ∃ base target, Reaches "https://poker.test" Endpoint.tables base target := by
  have hreached : ((Url.parse (dropEnd '/' "https://poker.test".toList) >>=
      Url.asBase).toOption.any fun base =>
        (Url.parse Endpoint.tables.toList >>= fun u => u.under base).toOption.any fun target =>
          (Request.checkHost target).toOption.isSome && hasScheme target) = true := by
    decide +kernel
  obtain ⟨base, hbase, hbelow⟩ := (Option.any_eq_true _ _).1 hreached
  obtain ⟨target, htarget, hsound⟩ := (Option.any_eq_true _ _).1 hbelow
  rw [Bool.and_eq_true] at hsound
  obtain ⟨hchecked, hscheme⟩ := hsound
  obtain ⟨u, hhost⟩ := Option.isSome_iff_exists.1 hchecked
  exact ⟨base, target, by decide, eq_ok_of_toOption hbase, eq_ok_of_toOption htarget,
    eq_ok_of_toOption hhost, hscheme⟩

end Http

/-- An answer that settles a request: a success, a refusal, or a failure of the network. -/
def Http.Answer.Settles : Answer → Prop
  | .reply r => 200 ≤ r.status ∧ r.status ≤ 299 ∨ 400 ≤ r.status ∧ r.status ≤ 599
  | .gaveUp name _ => name ∈ networkErrors

/-- An answer that refuses a request in words which cannot be read. -/
def Http.Answer.Illegible (codecs : Charset.Codecs) (a : Answer) (e : Escape) : Prop :=
  ∃ reply response, a = .reply reply ∧ Response.ofReply reply = .ok response ∧
    response.isSuccess = false ∧ Decoding.errorBody codecs response = .error e

theorem Http.Answer.Illegible.unique {codecs : Charset.Codecs} {a : Answer} {e e' : Escape}
    (h : a.Illegible codecs e) (h' : a.Illegible codecs e') : e = e' := by
  obtain ⟨reply, response, rfl, hbody, -, herror⟩ := h
  obtain ⟨reply', response', hreply, hbody', -, herror'⟩ := h'
  cases hreply
  cases hbody.symm.trans hbody'
  exact Except.error.inj (herror.symm.trans herror')

namespace Http

/-- No redirect is worked out for an answer that settles a request. -/
theorem Answer.Settles.location {reply : Reply} (h : (Answer.reply reply).Settles) :
    Redirect.location? reply = none := by
  unfold Redirect.location?
  split
  · rename_i hstatus
    have hmem : reply.status ∈ Redirect.statuses := List.contains_iff_mem.1 hstatus
    simp only [Redirect.statuses, List.mem_cons, List.not_mem_nil, or_false] at hmem
    have hsettles : 200 ≤ reply.status ∧ reply.status ≤ 299 ∨
        400 ≤ reply.status ∧ reply.status ≤ 599 := h
    omega
  · rfl

theorem Answer.Settles.no_escape {a : Answer} {r : Request} (ha : a.Settles)
    (hr : hasScheme r.url = true) (e : Escape) : ¬ Escapes r a e := by
  intro h
  cases h with
  | transport hname => exact hname ha
  | scheme hscheme => cases hr.symm.trans hscheme
  | redirect hscheme hlocation hurl => cases ha.location.symm.trans hlocation

theorem Response.json_escape {reply : Reply} {response : Response} {e : Escape}
    (hbody : Response.ofReply reply = .ok response) : response.json ≠ .error (.escape e) := by
  unfold Response.ofReply at hbody
  cases hdecoded : reply.decoded with
  | error fault =>
    rw [hdecoded] at hbody
    cases hbody
  | ok octets =>
    rw [hdecoded] at hbody
    cases hbody
    unfold Response.json
    dsimp only
    split <;> nofun

end Http

/-- A response gives rise to an escape exactly if it is a refusal that cannot be read. -/
theorem Decoding.envelope_escape {codecs : Charset.Codecs} {reply : Reply}
    {response : Response} {e : Escape} (hbody : Response.ofReply reply = .ok response) :
    envelope codecs response = .error (.escape e) ↔
      response.isSuccess = false ∧ errorBody codecs response = .error e := by
  unfold envelope checkStatus
  constructor
  · intro h
    cases hsuccess : response.isSuccess with
    | true =>
      simp only [hsuccess, if_true, bind, Except.bind] at h
      cases hjson : response.json with
      | error stop =>
        rw [hjson] at h
        cases h
        exact absurd hjson (Response.json_escape hbody)
      | ok payload =>
        rw [hjson] at h
        dsimp only at h
        cases hunwrap : Envelope.unwrap payload <;> rw [hunwrap] at h <;> cases h
    | false =>
      refine ⟨rfl, ?_⟩
      cases herror : errorBody codecs response with
      | ok body =>
        simp only [hsuccess, herror] at h
        cases h
      | error e' =>
        simp only [hsuccess, herror] at h
        cases h
        rfl
  · rintro ⟨hrefused, herror⟩
    simp only [hrefused, herror]
    rfl

theorem Action.ofStop_result {α : Type} (x : Except Stop α) (w : World) :
    (ofStop x w).result = x := by
  rcases x with (f | e) | a <;> rfl

namespace Lobby

variable {c : Client} {token : Option String} {url path : String} {v : Value} {w : World}
  {connection : Connection}

theorem request_unmade {e : Escape} {method : String} {body : Option Value}
    (hc : Connection.build c.settings token url = .ok connection)
    (hr : Request.build connection method path body = .error e) :
    (request c token url method path body w).result = .error (.escape e) := by
  have hsent := send_unmade hr w
  unfold request
  rw [hc, Action.bind_of_ok (x := Action.ofFailure _) (a := connection) _ rfl]
  show ((Http.send connection method path body >>= _) w).result = _
  rw [Action.bind_of_error _ hsent]

theorem request_made {method : String} {body : Option Value} {r : Request}
    (hc : Connection.build c.settings token url = .ok connection)
    (hr : Request.build connection method path body = .ok r) :
    (request c token url method path body w).result =
      ((answered r w.nextAnswer).mapError (Interruption.stop method path)).bind
        (Decoding.envelope c.codecs) := by
  have hsent := send_result hr w
  unfold request
  rw [hc, Action.bind_of_ok (x := Action.ofFailure _) (a := connection) _ rfl]
  show ((Http.send connection method path body >>= fun response =>
    Action.ofStop (Decoding.envelope c.codecs response)) w).result = _
  simp only [Action.bind_result, hsent, Action.ofStop_result]

/-- A request that is settled escapes exactly if it is refused illegibly. -/
theorem request_escape {method : String} {body : Option Value} {r : Request} {e : Escape}
    (hc : Connection.build c.settings token url = .ok connection)
    (hr : Request.build connection method path body = .ok r) (hscheme : hasScheme r.url = true)
    (ha : w.nextAnswer.Settles) :
    (request c token url method path body w).result = .error (.escape e) ↔
      w.nextAnswer.Illegible c.codecs e := by
  rw [request_made hc hr]
  constructor
  · intro h
    rcases answered_cases r w.nextAnswer with
      ⟨reason, hanswered⟩ | ⟨e', he', -⟩ | ⟨reply, response, hreply, hthrough, hanswered⟩
    · rw [hanswered] at h
      cases h
    · exact absurd he' (ha.no_escape hscheme e')
    · rw [hanswered] at h
      have hrefused := (Decoding.envelope_escape hthrough.body).1 h
      exact ⟨reply, response, hreply, hthrough.body, hrefused⟩
  · rintro ⟨reply, response, hreply, hbody, hrefused⟩
    have hthrough : LetThrough r reply response := by
      rw [hreply] at ha
      refine ⟨hscheme, fun location hlocation => ?_, hbody⟩
      cases ha.location.symm.trans hlocation
    rw [answered_eq_ok.2 ⟨reply, hreply, hthrough⟩]
    exact (Decoding.envelope_escape hbody).2 hrefused

/-- Whatever becomes of a request to create a table is reported. -/
theorem reportCreation_result (name : String) (created : Except Failure (Option Table))
    (w : World) : ∃ o, (reportCreation name created w).result = .ok o := by
  rcases created with f | _ | table <;> exact ⟨_, rfl⟩

variable {k : Conditions} {credential : Credential} {config : TableConfig}

/-- The request to create a table. -/
def posting (c : Client) (token url : String) (config : TableConfig) : Action Value :=
  request c (some token) url "POST" Endpoint.tables (some (config.dump .camel))

/-- The request to create a table and the reading of the answer to it. -/
def creating (c : Client) (token url : String) (config : TableConfig) : Action (Option Table) :=
  posting c token url config >>= fun data => Action.ofFailure (createdTable data)

/-- Reading an answer fails, but does not escape. -/
theorem creating_escape {token : String} {e : Escape} :
    (creating c token url config w).result = .error (.escape e) ↔
      (posting c token url config w).result = .error (.escape e) := by
  unfold creating
  rw [Action.bind_result]
  cases (posting c token url config w).result with
  | error stop => simp [Except.bind]
  | ok data =>
    show (Action.ofFailure (createdTable data) _).result = _ ↔ _
    cases createdTable data <;> exact ⟨nofun, nofun⟩

/-- Creating a table with a credential escapes exactly if its request does, and reports what
came of it otherwise. -/
theorem create_ends (url : String) (config : TableConfig)
    (hget : (c.store.get k w).result = .ok (some credential)) :
    (∃ e, (posting c credential.accessToken url config (c.store.get k w).world).result =
        .error (.escape e) ∧
      (create c k url config w).result = .error (.escape e)) ∨
    (∀ e, (posting c credential.accessToken url config (c.store.get k w).world).result ≠
        .error (.escape e)) ∧
      ∃ o, (create c k url config w).result = .ok o := by
  have hcreate : (create c k url config w).result =
      (((creating c credential.accessToken url config).attempt >>= reportCreation config.name)
        (c.store.get k w).world).result := by
    rw [create_eq, Action.attempted_of_ok hget]
    rfl
  rw [hcreate]
  generalize (c.store.get k w).world = w'
  have hescape (e : Escape) :
      (creating c credential.accessToken url config w').result = .error (.escape e) ↔
        (posting c credential.accessToken url config w').result = .error (.escape e) :=
    creating_escape
  rcases hcreating : (creating c credential.accessToken url config w').result with
    (f | e) | created
  · refine Or.inr ⟨fun e he => ?_, ?_⟩
    · cases hcreating.symm.trans ((hescape e).2 he)
    · rw [Action.attempted_of_failure hcreating]
      exact reportCreation_result _ _ _
  · exact Or.inl ⟨e, (hescape e).1 hcreating, Action.attempted_of_escape hcreating⟩
  · refine Or.inr ⟨fun e he => ?_, ?_⟩
    · cases hcreating.symm.trans ((hescape e).2 he)
    · rw [Action.attempted_of_ok hcreating]
      exact reportCreation_result _ _ _

/-- A client holds a usable credential, and can show it. -/
structure Bearing (c : Client) (k : Conditions) (w : World) (credential : Credential) : Prop where
  userAgent : Credentials.isHeaderValue c.settings.userAgent = true
  token : Credentials.isHeaderValue credential.accessToken = true
  got : (c.store.get k w).result = .ok (some credential)

/-- Such a client connects to a backend at whose URL requests can be made. -/
theorem Bearing.connects (h : Bearing c k w credential) {base target : Url}
    (hreaches : Reaches url Endpoint.tables base target) : ∃ connection,
    Connection.build c.settings (some credential.accessToken) url = .ok connection ∧
      Reaches url Endpoint.tables connection.base target := by
  obtain ⟨connection, hc, rfl⟩ := Connection.build_of_reaches hreaches h.userAgent h.token
  exact ⟨connection, hc, hreaches⟩

theorem Bearing.create_requests (h : Bearing c k w credential) (config : TableConfig)
    (hc : Connection.build c.settings (some credential.accessToken) url = .ok connection) :
    (create c k url config w).trail.requests =
      (Request.build connection "POST" Endpoint.tables
        (some (config.dump .camel))).toOption.toList := by
  rw [Lobby.create_requests url config h.got]
  unfold prepared?
  rw [hc]
  rfl

variable {base target : Url}

/-- A configuration that cannot be written is not sent, and the creation escapes. -/
theorem Bearing.create_unsendable (h : Bearing c k w credential)
    (hreaches : Reaches url Endpoint.tables base target) {fault : WriteFault}
    (hv : (config.dump .camel).sent = .error fault) :
    (create c k url config w).result = .error (.escape (.unsendable fault)) ∧
      (create c k url config w).trail.requests = [] := by
  obtain ⟨connection, hc, hreaches⟩ := h.connects hreaches
  have hr := Request.build_unsendable hreaches hv
  have hposted : (posting c credential.accessToken url config (c.store.get k w).world).result =
      .error (.escape (.unsendable fault)) := request_unmade hc hr
  have hrequests := h.create_requests config hc
  rw [hr] at hrequests
  refine ⟨?_, hrequests⟩
  rcases create_ends url config h.got with ⟨e, he, hcreate⟩ | ⟨hnone, -⟩
  · cases hposted.symm.trans he
    exact hcreate
  · exact absurd hposted (hnone _)

theorem Bearing.create_sent (h : Bearing c k w credential)
    (hreaches : Reaches url Endpoint.tables base target) {text : List Char}
    (hv : (config.dump .camel).sent = .ok text) :
    ∃ r, (create c k url config w).trail.requests = [r] ∧
      r.method = "POST" ∧ r.url = target ∧ r.body = text := by
  obtain ⟨connection, hc, hreaches⟩ := h.connects hreaches
  obtain ⟨r, hr, hmethod, htarget, hbody⟩ := Request.build_posted hreaches hv
  have hrequests := h.create_requests config hc
  rw [hr] at hrequests
  exact ⟨r, hrequests, hmethod, htarget, hbody⟩

/-- What becomes of a configuration that was sent is reported, unless it is refused in words
that cannot be read. -/
theorem Bearing.create_settled (h : Bearing c k w credential)
    (hreaches : Reaches url Endpoint.tables base target) {text : List Char}
    (hv : (config.dump .camel).sent = .ok text) (ha : w.nextAnswer.Settles) :
    (∃ e, w.nextAnswer.Illegible c.codecs e ∧
        (create c k url config w).result = .error (.escape e)) ∨
      (∀ e, ¬ w.nextAnswer.Illegible c.codecs e) ∧
        ∃ o, (create c k url config w).result = .ok o := by
  obtain ⟨connection, hc, hreaches⟩ := h.connects hreaches
  obtain ⟨r, hr, -, rfl, -⟩ := Request.build_posted hreaches hv
  -- Reading the credential leaves the answers of the network alone.
  have hanswer : (c.store.get k w).world.nextAnswer = w.nextAnswer := by
    rw [c.store.get_world k w]
    rfl
  rw [← hanswer] at ha ⊢
  have hescape (e : Escape) :
      (posting c credential.accessToken url config (c.store.get k w).world).result =
        .error (.escape e) ↔ (c.store.get k w).world.nextAnswer.Illegible c.codecs e :=
    request_escape hc hr hreaches.scheme ha
  rcases create_ends url config h.got with ⟨e, he, hcreate⟩ | ⟨hnone, hreported⟩
  · exact Or.inl ⟨e, (hescape e).1 he, hcreate⟩
  · exact Or.inr ⟨fun e he => hnone e ((hescape e).2 he), hreported⟩

/-- What the creation of a table comes to. -/
structure Creation (c : Client) (k : Conditions) (url : String) (config : TableConfig)
    (w : World) : Prop where
  /-- It is the greatest numbers and the strings that decide. -/
  writable : config.Writable ↔
    (config.bigBlind.isFinite = true ∧ config.maxBuyIn.isFinite = true ∧
      config.ante.number.isFinite = true) ∧
    config.gameType.IsText ∧ config.bettingStructure.IsText ∧ config.gameFormat.IsText
  unsent : ¬ config.Writable →
    (∃ fault, (create c k url config w).result = .error (.escape (.unsendable fault))) ∧
    (create c k url config w).trail.requests = []
  sent : config.Writable → ∃ r, (create c k url config w).trail.requests = [r] ∧
    r.method = "POST" ∧ r.body = (config.dump .camel).write
  escape : config.Writable → ∀ e,
    (create c k url config w).result = .error (.escape e) ↔ w.nextAnswer.Illegible c.codecs e
  reported : config.Writable → (∀ e, ¬ w.nextAnswer.Illegible c.codecs e) →
    ∃ o, (create c k url config w).result = .ok o

theorem Bearing.creation (h : Bearing c k w credential)
    (hreaches : Reaches url Endpoint.tables base target) (haccepted : config.Accepted)
    (ha : w.nextAnswer.Settles) : Creation c k url config w := by
  have hsent (hw : config.Writable) : (config.dump .camel).sent = .ok (config.dump .camel).write :=
    TableConfig.sent_eq_ok.2 ⟨hw, rfl⟩
  refine ⟨⟨?_, ?_⟩, ?_, ?_, ?_, ?_⟩
  · intro hw
    exact ⟨⟨hw.bigBlind, hw.maxBuyIn, hw.ante⟩, hw.gameType, hw.bettingStructure, hw.gameFormat⟩
  · rintro ⟨⟨hbig, hmax, hante⟩, htype, hstructure, hformat⟩
    exact haccepted.bounded.writable hbig hmax hante htype hstructure hformat
  · intro hw
    cases hv : (config.dump .camel).sent with
    | ok text => exact absurd (TableConfig.sent_eq_ok.1 hv).1 hw
    | error fault =>
      obtain ⟨hescape, hnothing⟩ := h.create_unsendable hreaches hv
      exact ⟨⟨fault, hescape⟩, hnothing⟩
  · intro hw
    obtain ⟨r, hr, hmethod, -, hbody⟩ := h.create_sent hreaches (hsent hw)
    exact ⟨r, hr, hmethod, hbody⟩
  · intro hw e
    rcases h.create_settled hreaches (hsent hw) ha with ⟨e', he', hescape⟩ | ⟨hnone, o, ho⟩
    · rw [hescape]
      constructor
      · rintro ⟨⟩
        exact he'
      · intro he
        rw [he.unique he']
    · rw [ho]
      exact ⟨nofun, fun he => absurd he (hnone e)⟩
  · intro hw hlegible
    rcases h.create_settled hreaches (hsent hw) ha with ⟨e, he, -⟩ | ⟨-, hreported⟩
    · exact absurd he (hlegible e)
    · exact hreported

end Lobby
end PokerClient
