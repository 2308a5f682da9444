import PokerClient.Proofs.TargetEnd
import PokerClient.Proofs.Verifying

/-!
# The verdict of a verification

Every check of a verification rests on asking the backend once: what is logged around it, and
what is done with a credential in memory, sends nothing and changes no verdict. So a
verification follows the course of its checks, and its exit code tells of them all.
-/

namespace PokerClient

open Http Json Text Time Validation

namespace Action

variable {α β : Type} {x y : Action α} {w : World}

theorem bind_congr_left (f : α → Action β) (h : x w = y w) : (x >>= f) w = (y >>= f) w := by
  show bind x f w = bind y f w
  unfold bind
  rw [h]

end Action

namespace Verification

variable {α β : Type} {settings : Settings} {url : String} {w : World}

/-! ## Verdicts that rest on an exchange -/

/-- A verdict rests on what was done before: nothing else is sent, and unless that escaped,
the verdict is whether it came to something good. -/
structure Rests (before : Ran α) (Good : α → Prop) (ran : Ran Bool) : Prop where
  requests : ran.trail.requests = before.trail.requests
  verdict : ∀ ok, ran.result = .ok ok → (∀ e, before.result ≠ .error (.escape e)) ∧
    (ok = true ↔ ∃ a, before.result = .ok a ∧ Good a)

namespace Rests

variable {y : Action α} {Good : α → Prop} {ran : Ran Bool}

theorem of_attempt {f : Except Failure α → Action Bool}
    (hrequests : ∀ got v, (f got v).trail.requests = [])
    (hfails : ∀ e v ok, (f (.error e) v).result = .ok ok → ok = false)
    (hok : ∀ a v ok, (f (.ok a) v).result = .ok ok → (ok = true ↔ Good a)) :
    Rests (y w) Good ((y.attempt >>= f) w) where
  requests := by rw [Action.requests_bind_left hrequests, Action.requests_attempt]
  verdict := by
    intro ok hran
    obtain ⟨got, hgot, hf⟩ := Action.bind_eq_ok hran
    rw [Action.attempt_eq] at hgot
    rcases hy : (y w).result with (e | e) | a
    · rw [hy] at hgot
      cases hgot
      rw [hfails e _ ok hf]
      exact ⟨nofun, nofun, nofun⟩
    · rw [hy] at hgot
      cases hgot
    · rw [hy] at hgot
      cases hgot
      rw [hok a _ ok hf]
      refine ⟨nofun, fun hgood => ⟨a, rfl, hgood⟩, ?_⟩
      rintro ⟨a', ha, hgood⟩
      cases ha
      exact hgood

/-- A report of what was attempted, which sends nothing and leaves the world alone. -/
theorem of_report {f : Except Failure α → Action Bool} (good : α → Bool)
    (hquiet : ∀ got, Quiet (f got)) (hfails : ∀ e v, (f (.error e) v).result = .ok false)
    (hok : ∀ a v, (f (.ok a) v).result = .ok (good a)) (hgood : ∀ a, good a = true ↔ Good a) :
    Rests (y w) Good ((y.attempt >>= f) w) ∧ ((y.attempt >>= f) w).world = (y w).world := by
  refine ⟨of_attempt (fun got => (hquiet got).requests) ?_ ?_, ?_⟩
  · intro e v ok hran
    rw [hfails] at hran
    exact (Except.ok.inj hran).symm
  · intro a v ok hran
    rw [hok] at hran
    rw [← hgood, Except.ok.inj hran]
  · rw [Action.world_bind_left fun got => (hquiet got).world, Action.attempt_eq]

/-- What rests on two steps rests on the first one, if the second one sends nothing and
comes through exactly if the first one came to something good. -/
theorem of_bind {g : α → Action β} (h : Rests ((y >>= g) w) (fun _ => True) ran)
    (hrequests : ∀ a v, (g a v).trail.requests = [])
    (hok : ∀ a v b, (g a v).result = .ok b → Good a)
    (hfails : ∀ a v f, (g a v).result = .error (.failure f) → ¬ Good a) :
    Rests (y w) Good ran where
  requests := by rw [h.requests, Action.requests_bind_left hrequests]
  verdict := by
    intro ok hran
    obtain ⟨hescape, hverdict⟩ := h.verdict ok hran
    rw [Action.bind_result] at hescape hverdict
    rcases hy : (y w).result with (f | e) | a
    · rw [hy] at hverdict
      refine ⟨nofun, hverdict.trans ⟨?_, ?_⟩⟩
      · rintro ⟨b, hb, -⟩
        cases hb
      · rintro ⟨a, ha, -⟩
        cases ha
    · rw [hy] at hescape
      exact absurd rfl (hescape e)
    · rw [hy] at hescape hverdict
      refine ⟨nofun, hverdict.trans ⟨?_, ?_⟩⟩
      · rintro ⟨b, hb, -⟩
        exact ⟨a, rfl, hok a _ b hb⟩
      · rintro ⟨a', ha, hgood⟩
        cases ha
        rcases hg : (g a (y w).world).result with (f | e) | b
        · exact absurd hgood (hfails a _ f hg)
        · exact absurd hg (hescape e)
        · exact ⟨b, hg, trivial⟩

variable {check : Check} {decode : Response → Except Stop α} {ok : Bool}

/-- What a check comes to whose verdict rests on asking the backend. -/
theorem comes (h : Rests (asking settings none url check.call decode w) Good ran)
    (hpasses : ∀ response, check.Passes response ↔ ∃ a, decode response = .ok a ∧ Good a)
    (hran : ran.result = .ok ok) : Comes settings url check w ran ok := by
  obtain ⟨hescape, hverdict⟩ := h.verdict ok hran
  cases asking_asked settings url check.call decode w with
  | refused hc hresult hrequests =>
    refine .refused hc ?_ (h.requests.trans hrequests)
    rw [← Bool.not_eq_true, hverdict, hresult]
    rintro ⟨a, ha, -⟩
    cases ha
  | unmade hresult => exact absurd hresult (hescape _)
  | made hr hrequests _ hresult =>
    refine .asked hr ?_ (h.requests.trans hrequests)
    rw [hverdict]
    constructor
    · rintro ⟨a, ha, hgood⟩
      obtain ⟨response, hobtains, hdecode⟩ := (hresult a).1 ha
      exact ⟨response, hobtains, (hpasses response).2 ⟨a, hdecode, hgood⟩⟩
    · rintro ⟨response, hobtains, hpass⟩
      obtain ⟨a, hdecode, hgood⟩ := (hpasses response).1 hpass
      exact ⟨a, (hresult a).2 ⟨response, hobtains, hdecode⟩, hgood⟩

/-- A check that passed has taken one answer. -/
theorem world (h : Rests (asking settings none url check.call decode w) Good ran)
    (hworld : ran.world = (asking settings none url check.call decode w).world)
    (hran : ran.result = .ok true) : ran.world = w.taken := by
  obtain ⟨a, ha, -⟩ := (h.verdict true hran).2.1 rfl
  rw [hworld]
  cases asking_asked settings url check.call decode w with
  | refused _ hresult _ => cases hresult.symm.trans ha
  | unmade hresult => cases hresult.symm.trans ha
  | made _ _ hworld _ => exact hworld

end Rests

/-! ## The checks of a verification -/

/-- Tells of a verdict in one of two messages. -/
def tell (ok : Bool) (bad good : String) : Action Bool := do
  if !ok then
    say .error bad
    return false
  else
    say .info good
    return true

theorem tell_quiet (ok : Bool) (bad good : String) : Quiet (tell ok bad good) := by
  cases ok <;> exact Quiet.bind (Quiet.log _ _ _) fun _ => Quiet.pure _

theorem tell_result (ok : Bool) (bad good : String) (v : World) :
    (tell ok bad good v).result = .ok ok := by
  cases ok <;> rfl

/-- The probe rests on asking for the health of the backend. -/
theorem checkConnection_rests (c : Client) (watch : Probe.Stopwatch) (url : String) (w : World) :
    Rests (asking c.settings none url healthCheck.call .ok w)
        (fun response => 200 ≤ response.status ∧ response.status ≤ 299)
        (checkConnection c watch url w) ∧
      (checkConnection c watch url w).world =
        (asking c.settings none url healthCheck.call .ok w).world := by
  have hask : Probe.ask c.settings url = asking c.settings none url healthCheck.call .ok :=
    ask_eq_asking c.settings url
  unfold checkConnection Probe.check
  rw [bind_assoc, hask]
  refine Rests.of_report Response.isSuccess ?_ ?_ ?_ ?_
  · rintro (f | response)
    · exact Quiet.bind (Quiet.bind (Quiet.log _ _ _) fun _ => Quiet.pure _) fun status =>
        tell_quiet status.connected _ _
    · exact Quiet.bind (Quiet.bind (Quiet.log _ _ _) fun _ => Quiet.pure _) fun status =>
        tell_quiet status.connected _ _
  · exact fun f v => rfl
  · exact fun response v => tell_result response.isSuccess _ _ v
  · exact fun response => by simp [Response.isSuccess]

/-- Over an empty slot in memory there is no credential, and nothing comes of looking for one. -/
theorem get_of_empty {s : Store} (hkind : s.kind = .memory) (k : Conditions)
    (hslot : w.slot = none) : s.get k w = (Pure.pure none : Action (Option Credential)) w := by
  unfold Store.get Store.read
  rw [hkind]
  dsimp only
  rw [Action.look_bind, hslot]

/-- Without a credential, the tables are listed as by somebody who is not logged in. -/
theorem list_of_empty {c : Client} (hkind : c.store.kind = .memory) (k : Conditions) (url : String)
    (hslot : w.slot = none) : Lobby.list c k url w = Lobby.listWith c none url w := by
  have hget := get_of_empty hkind k hslot
  rw [Lobby.list_of_none url (congrArg Ran.result hget), hget]
  show (Lobby.listWith c none url w).after Trail.empty = _
  unfold Ran.after
  rw [Trail.empty_append]

/-- Asks for the tables, without a token. -/
def askTables (settings : Settings) (codecs : Charset.Codecs) (url : String) :
    Action (List Table) := do
  let data ← asking settings none url (lobbyCheck codecs).call (Decoding.envelope codecs)
  Action.ofFailure (TableList.ofData data)

theorem checkLobby_report {c : Client} (hkind : c.store.kind = .memory) (k : Conditions)
    (url : String) (hslot : w.slot = none) :
    Rests (askTables c.settings c.codecs url w) (fun _ => True) (checkLobby c k url w) ∧
      (checkLobby c k url w).world = (askTables c.settings c.codecs url w).world := by
  unfold checkLobby
  rw [Action.bind_congr_left _ (list_of_empty hkind k url hslot)]
  unfold Lobby.listWith
  rw [bind_assoc]
  refine Rests.of_report (fun _ => true) ?_ ?_ ?_ ?_
  · exact fun tables => Quiet.bind (Lobby.reportTables_quiet tables) fun listing =>
      tell_quiet listing.success _ _
  · exact fun f v => rfl
  · exact fun tables v => rfl
  · exact fun tables => iff_of_true rfl trivial

/-- The listing rests on asking for the tables. -/
theorem checkLobby_rests {c : Client} (hkind : c.store.kind = .memory) (k : Conditions)
    (url : String) (hslot : w.slot = none) :
    Rests (asking c.settings none url (lobbyCheck c.codecs).call (Decoding.envelope c.codecs) w)
        (fun data => ∃ tables, TableList.ofData data = .ok tables) (checkLobby c k url w) ∧
      (checkLobby c k url w).world =
        (asking c.settings none url (lobbyCheck c.codecs).call
          (Decoding.envelope c.codecs) w).world := by
  obtain ⟨hrests, hworld⟩ := checkLobby_report hkind k url hslot
  have hquiet (data : Value) := Quiet.ofFailure (TableList.ofData data)
  constructor
  · refine hrests.of_bind (fun data => (hquiet data).requests) ?_ ?_
    · exact fun data v tables htables => ⟨tables, Action.ofFailure_eq_ok htables⟩
    · rintro data v f hfails ⟨tables, htables⟩
      rw [htables] at hfails
      cases hfails
  · rw [hworld, askTables, Action.world_bind_left fun data => (hquiet data).world]

/-! ### The login -/

/-- The account that the environment names. -/
def email (env : Settings.Environment) : String := (env.lookup "POKER_TEST_EMAIL").getD ""

def password (env : Settings.Environment) : String := (env.lookup "POKER_TEST_PASSWORD").getD ""

/-- The environment names an account. -/
def NamesAccount (env : Settings.Environment) : Prop := email env ≠ "" ∧ password env ≠ ""

instance (env : Settings.Environment) : Decidable (NamesAccount env) :=
  inferInstanceAs (Decidable (email env ≠ "" ∧ password env ≠ ""))

variable {c : Client} {k : Conditions} {env : Settings.Environment}

/-- Keeping a credential in memory does not fail. What cannot be written escapes. -/
theorem keep_of_memory (hkind : c.store.kind = .memory) (k : Conditions)
    (granted : Login × Credential GivenText) (v : World) :
    (∀ f, (Account.keep c k granted v).result ≠ .error (.failure f)) ∧
      (Account.keep c k granted v).trail.requests = [] := by
  unfold Account.keep
  cases hc : granted.2.writable with
  | error e =>
    rw [Store.set_of_unwritable hc, Action.bind_of_error (x := Action.escape e) _ rfl]
    exact ⟨nofun, rfl⟩
  | ok written =>
    rw [Store.set_of_writable hc]
    unfold Store.write
    rw [hkind]
    exact ⟨nofun, rfl⟩

/-- Asking who is logged in sends nothing. -/
theorem user_offline (c : Client) (k : Conditions) (v : World) :
    Law.offline.Obeyed (Account.user c k) v :=
  Law.bind (Law.attempt (c.store.get_offline k v)) fun found _ =>
    Law.of_quiet (Account.reportUser_quiet found)

theorem logout_offline (c : Client) (k : Conditions) (v : World) :
    Law.offline.Obeyed (Account.logout c k) v :=
  Law.bind (Law.attempt (c.store.erase_offline k.faults v)) fun deleted _ =>
    Law.of_quiet (Account.reportLogout_quiet deleted)

/-- What is reported of a login, and what is done with it, sends nothing. -/
theorem checkLogin_report (c : Client) (k : Conditions) (url : String) (henv : NamesAccount env)
    (w : World) :
    Rests (Account.establish c k url (email env) (password env) w) (fun _ => True)
      (checkLogin c k env url w) := by
  have hfilled : ¬ ((env.lookup "POKER_TEST_EMAIL").getD "" = "" ∨
      (env.lookup "POKER_TEST_PASSWORD").getD "" = "") := not_or.2 henv
  unfold checkLogin
  dsimp only
  rw [if_neg hfilled]
  unfold Account.login
  rw [bind_assoc]
  refine Rests.of_attempt ?_ ?_ ?_
  · intro granted v
    refine (Law.bind (L := Law.offline) (Law.of_quiet (Account.reportLogin_quiet granted)) ?_).1
    intro login _
    cases login.success with
    | false => exact Law.of_quiet (Quiet.bind (Quiet.log _ _ _) fun _ => Quiet.pure _)
    | true =>
      refine Law.bind (user_offline c k _) fun outcome _ => ?_
      refine Law.bind (Law.of_quiet (Quiet.log _ _ _)) fun _ _ => ?_
      refine Law.bind (logout_offline c k _) fun _ _ => ?_
      exact Law.of_quiet (Quiet.bind (Quiet.log _ _ _) fun _ => Quiet.pure _)
  · intro f v ok hran
    obtain ⟨o, ho, hsuccess⟩ := Account.refused_success f v
    obtain ⟨login, hlogin, hran⟩ := Action.bind_eq_ok hran
    cases hlogin.symm.trans ho
    rw [hsuccess] at hran
    cases hran
    rfl
  · rintro ⟨login, credential⟩ v ok hran
    refine iff_of_true ?_ trivial
    obtain ⟨outcome, houtcome, hran⟩ := Action.bind_eq_ok hran
    cases houtcome
    obtain ⟨who, -, hran⟩ := Action.bind_eq_ok hran
    obtain ⟨-, -, hran⟩ := Action.bind_eq_ok hran
    obtain ⟨-, -, hran⟩ := Action.bind_eq_ok hran
    obtain ⟨-, -, hran⟩ := Action.bind_eq_ok hran
    cases hran
    rfl

/-- The login rests on signing in: the credential is kept, looked at and forgotten without
the backend. -/
theorem checkLogin_rests (hkind : c.store.kind = .memory) (k : Conditions) (url : String)
    (henv : NamesAccount env) (w : World) :
    Rests (asking c.settings none url (loginCheck c.codecs (email env) (password env)).call
        (Decoding.login c.codecs) w)
      (fun _ => True) (checkLogin c k env url w) := by
  have hobtained : Rests (Account.obtain c k.now url (email env) (password env) w) (fun _ => True)
      (checkLogin c k env url w) := by
    refine (checkLogin_report c k url henv w).of_bind ?_ (fun _ _ _ _ => trivial) ?_
    · exact fun granted v => (keep_of_memory hkind k granted v).2
    · intro granted v f hfails
      exact absurd hfails ((keep_of_memory hkind k granted v).1 f)
  have hissued (login : Login) : Quiet do
      let credential ← Action.ofEscape
        (c.store.policy.issue k.now login.tokens.accessToken login.tokens.refreshToken)
      return (login, credential) :=
    Quiet.bind (Quiet.ofEscape _) fun credential => Quiet.pure _
  refine hobtained.of_bind (fun login => (hissued login).requests) (fun _ _ _ _ => trivial) ?_
  intro login v f hfails
  cases hissue : c.store.policy.issue k.now login.tokens.accessToken login.tokens.refreshToken with
  | error e =>
    rw [hissue] at hfails
    cases hfails
  | ok credential =>
    rw [hissue] at hfails
    cases hfails

/-- Without an account, nothing is sent and the verdict is against the backend. -/
theorem checkLogin_blank (c : Client) (k : Conditions) (url : String) (henv : ¬ NamesAccount env)
    (w : World) :
    (checkLogin c k env url w).result = .ok false ∧
      (checkLogin c k env url w).trail.requests = [] := by
  have hblank : (env.lookup "POKER_TEST_EMAIL").getD "" = "" ∨
      (env.lookup "POKER_TEST_PASSWORD").getD "" = "" := by
    by_contra hfilled
    exact henv (not_or.1 hfilled)
  unfold checkLogin
  dsimp only
  rw [if_pos hblank]
  exact ⟨rfl, rfl⟩

/-! ## The course of a verification -/

/-- The checks that are due. That of the login needs an account. -/
def due (codecs : Charset.Codecs) (env : Settings.Environment) (withLogin : Bool) :
    List Check :=
  [healthCheck, lobbyCheck codecs] ++
    if withLogin = true ∧ NamesAccount env then [loginCheck codecs (email env) (password env)]
    else []

/-- The end of a verification, which is about the login. -/
def verifyLogin (c : Client) (k : Conditions) (env : Settings.Environment) (url : String)
    (withLogin : Bool) : Action Bool :=
  if !withLogin then return true else checkLogin c k env url

theorem verifyLogin_follows (hkind : c.store.kind = .memory) (k : Conditions)
    (env : Settings.Environment) (url : String) (withLogin : Bool) (w : World) :
    Follows c.settings url (withLogin = true → NamesAccount env)
      (if withLogin = true ∧ NamesAccount env then
        [loginCheck c.codecs (email env) (password env)] else [])
      (verifyLogin c k env url withLogin) w := by
  unfold verifyLogin
  cases withLogin with
  | false =>
    rw [if_neg fun h => Bool.false_ne_true h.1]
    intro ok hran
    cases hran
    exact ⟨true, .done, by simp⟩
  | true =>
    by_cases henv : NamesAccount env
    · rw [if_pos ⟨rfl, henv⟩]
      refine Follows.last (fun ok hran => ?_) fun _ => henv
      exact (checkLogin_rests hkind k url henv w).comes (by simp [loginCheck]) hran
    · obtain ⟨hresult, hrequests⟩ := checkLogin_blank c k url henv w
      rw [if_neg fun h => henv h.2]
      intro ok hran
      cases hresult.symm.trans hran
      refine ⟨true, ?_, by simp [henv]⟩
      show Course _ _ _ _ (checkLogin c k env url w).trail.requests _
      rw [hrequests]
      exact .done

theorem verify_follows (hkind : c.store.kind = .memory) (k : Conditions) (watch : Probe.Stopwatch)
    (env : Settings.Environment) (url : String) (withLogin : Bool) (hslot : w.slot = none) :
    Follows c.settings url (withLogin = true → NamesAccount env) (due c.codecs env withLogin)
      (verify c k watch env url withLogin) w := by
  obtain ⟨hprobe, hprobed⟩ := checkConnection_rests c watch url w
  obtain ⟨hlist, hlisted⟩ := checkLobby_rests (w := w.taken) hkind k url hslot
  refine Follows.next (fun ok hran => ?_) (hprobe.world hprobed) ?_
  · exact hprobe.comes (by simp [healthCheck]) hran
  · refine Follows.next (fun ok hran => ?_) (hlist.world hlisted) ?_
    · exact hlist.comes (by simp [lobbyCheck]) hran
    · exact verifyLogin_follows hkind k env url withLogin _

/-! ## The requests of a verification -/

/-- What the request of a check is like. -/
structure IsRequestOf (url : String) (check : Check) (r : Request) : Prop where
  method : r.method = check.call.method
  /-- The target ends in the path, but for the slash in front if the URL has no host. -/
  target : r.url.host ≠ [] → check.call.path.toList <:+ r.url.target
  hostless : check.call.path.toList.drop 1 <:+ r.url.target
  /-- Behind a plain URL, it is the path that follows. -/
  plain : ∀ (b : Backend) (slashes : Nat), url = b.url slashes →
    r.url.write = b.text ++ check.call.path.toList
  anonymous : ∀ value, r.authorization = some value → ¬ "Bearer ".toList <+: value.toList

/-- The method of each check is written as it is sent, and its path is one of ordinary
segments. -/
theorem due_call {codecs : Charset.Codecs} {env : Settings.Environment} {withLogin : Bool}
    {check : Check} (h : check ∈ due codecs env withLogin) :
    String.ofList (check.call.method.toList.map Char.toUpper) = check.call.method ∧
      ∃ more, check.call.path.toList = rooted (['a', 'p', 'i'] :: more) ∧
        (∀ part ∈ ['a', 'p', 'i'] :: more, part.all Percent.isUnreserved = true) ∧
        ∀ part ∈ ['a', 'p', 'i'] :: more, Url.IsOrdinary part := by
  unfold due at h
  simp only [List.mem_append, List.mem_cons, List.not_mem_nil, or_false] at h
  rcases h with (rfl | rfl) | h
  · exact ⟨by decide, ["health".toList], by decide, by decide, by decide⟩
  · have hmethod : (lobbyCheck codecs).call.method = "GET" := rfl
    have hpath : (lobbyCheck codecs).call.path = Endpoint.tables := rfl
    rw [hmethod, hpath]
    exact ⟨by decide, ["tables".toList], by decide, by decide, by decide⟩
  · split at h
    · cases List.mem_singleton.1 h
      have hmethod : (loginCheck codecs (email env) (password env)).call.method = "POST" := rfl
      have hpath : (loginCheck codecs (email env) (password env)).call.path = Endpoint.login := rfl
      rw [hmethod, hpath]
      exact ⟨by decide, ["auth".toList, "login".toList], by decide, by decide, by decide⟩
    · cases h

theorem isRequestOf {codecs : Charset.Codecs} {env : Settings.Environment} {withLogin : Bool}
    {check : Check} {r : Request} (hdue : check ∈ due codecs env withLogin)
    (hr : prepared? settings none url check.call = some r) :
    IsRequestOf url check r := by
  obtain ⟨hmethod, more, hpath, hunreserved, hordinary⟩ := due_call hdue
  have hsegments : ∀ p ∈ ['a', 'p', 'i'] :: more, IsSegment p := fun p hp =>
    isSegment_of_unreserved (List.all_eq_true.1 (hunreserved p hp))
  obtain ⟨c, -, hbuild⟩ := prepared?_eq_some.1 hr
  have hends := prepared?_endsIn hr hpath hsegments hordinary
  refine ⟨(Request.build_method hbuild).trans hmethod, ?_, ?_, ?_, ?_⟩
  · rw [hpath]
    exact hends.of_host
  · rw [hpath]
    exact hends.drop
  · rintro b slashes rfl
    rw [Backend.prepared?_url hr hpath rfl hsegments, b.write_endpoint hsegments hordinary, hpath]
  · intro value hvalue hbearer
    obtain ⟨t, rfl⟩ := Request.eq_bearer_of_prefix hbearer
    obtain ⟨u, -, hauthorization⟩ := prepared?_authorization ⟨_, hpath⟩ hr
    rw [hauthorization] at hvalue
    unfold Request.authorizationAt at hvalue
    split at hvalue
    · cases hvalue
    · exact Request.basic_ne_bearer u t (Option.some.inj hvalue)

/-! ## Exit codes -/

/-- What an exit code of a verification tells, and what was sent for it. -/
structure Truthful (settings : Settings) (codecs : Charset.Codecs) (env : Settings.Environment)
    (url : String) (withLogin : Bool) (w : World) (code : Nat) (requests : List Request) :
    Prop where
  ended : code = 0 ∨ code = 1
  success : code = 0 ↔ healthCheck.PassedBy settings url (w.answerAt 0) ∧
    (lobbyCheck codecs).PassedBy settings url (w.answerAt 1) ∧
    (withLogin = true → email env ≠ "" ∧ password env ≠ "" ∧
      (loginCheck codecs (email env) (password env)).PassedBy settings url (w.answerAt 2))
  course : UpToFailure settings url w (due codecs env withLogin) requests
  requests : List.Forall₂ (IsRequestOf url) ((due codecs env withLogin).take requests.length)
    requests

/-- The checks that are due pass, and there is an account if one is needed. -/
theorem due_passed {codecs : Charset.Codecs} {env : Settings.Environment} {withLogin : Bool} :
    (∀ (i : Nat) (check : Check), (due codecs env withLogin)[i]? = some check →
        check.PassedBy settings url (w.answerAt i)) ∧ (withLogin = true → NamesAccount env) ↔
      healthCheck.PassedBy settings url (w.answerAt 0) ∧
        (lobbyCheck codecs).PassedBy settings url (w.answerAt 1) ∧
        (withLogin = true → email env ≠ "" ∧ password env ≠ "" ∧
          (loginCheck codecs (email env) (password env)).PassedBy settings url (w.answerAt 2)) := by
  constructor
  · rintro ⟨hall, haccount⟩
    refine ⟨hall 0 _ rfl, hall 1 _ rfl, fun hlogin => ?_⟩
    obtain ⟨hemail, hpassword⟩ := haccount hlogin
    refine ⟨hemail, hpassword, hall 2 _ ?_⟩
    unfold due
    rw [if_pos ⟨hlogin, hemail, hpassword⟩]
    rfl
  · rintro ⟨hhealth, hlobby, hlogin⟩
    refine ⟨?_, fun h => ⟨(hlogin h).1, (hlogin h).2.1⟩⟩
    intro i check hcheck
    match i with
    | 0 =>
      cases hcheck
      exact hhealth
    | 1 =>
      cases hcheck
      exact hlobby
    | i + 2 =>
      unfold due at hcheck
      split at hcheck
      · rename_i hnamed
        cases i with
        | zero =>
          cases hcheck
          exact (hlogin hnamed.1).2.2
        | succ i => cases hcheck
      · cases hcheck

/-- A verification that ends with an exit code tells the truth: the code is zero exactly if
the backend passes every check, and no request follows a check that failed. -/
theorem exitCode_truthful {arguments : List String} {env : Settings.Environment}
    {codecs : Charset.Codecs} {now : Moment} {watch : Probe.Stopwatch} {settings : Settings}
    {named : Option String} {withLogin : Bool} {answers : List Answer} {otherwise : Answer}
    {code : Nat}
    (hsettings : Settings.ofEnvironment env = .ok settings)
    (hparse : CommandLine.parse arguments = .verify named withLogin)
    (hran : (exitCode arguments env codecs now watch { slot := none, answers, otherwise }).result =
      .ok code) :
    Truthful settings codecs env ((named.filter (· != "")).getD settings.backendUrl) withLogin
      { slot := none, answers, otherwise } code
      (exitCode arguments env codecs now watch
        { slot := none, answers, otherwise }).trail.requests := by
  generalize hurl : (named.filter (· != "")).getD settings.backendUrl = url
  have htarget : target env named = .ok url := by
    rw [← hurl]
    unfold target
    cases named.filter (· != "") with
    | none => exact congrArg (Except.map Settings.backendUrl) hsettings
    | some url => rfl
  have hverify : exitCode arguments env codecs now watch =
      verify { store := {}, settings, codecs } { now } watch env url withLogin >>= fun ok =>
        return if ok then 0 else 1 := by
    unfold exitCode
    rw [hparse]
    dsimp only
    rw [htarget, hsettings]
    rfl
  rw [hverify] at hran ⊢
  obtain ⟨ok, hok, hcode⟩ := Action.bind_eq_ok hran
  cases hcode
  rw [Action.requests_bind_left fun ok v => rfl]
  obtain ⟨passed, hcourse, hverdict⟩ :=
    verify_follows (c := { store := {}, settings, codecs }) rfl { now } watch env url withLogin rfl
      ok hok
  refine ⟨?_, ?_, hcourse.upToFailure, ?_⟩
  · cases ok
    · exact Or.inr rfl
    · exact Or.inl rfl
  · rw [← due_passed, ← hcourse.verdict, ← hverdict]
    cases ok <;> simp
  · have hmade := (List.forall₂_and_left _ _).2
      ⟨fun check => List.mem_of_mem_take (l := due codecs env withLogin), hcourse.upToFailure.made⟩
    exact hmade.imp fun check r h => isRequestOf h.1 h.2

/-- A backend that is healthy, has no tables and lets the account of the environment in. -/
theorem exitCode_truthful_of_welcome :
    let login : Login :=
      { user :=
          { id := "u", username := "n", email := "", displayName := none, playerId := none
            roles := [] }
        tokens := { accessToken := "a", refreshToken := "r", expiresAt := none }
        message := "" }
    let env : Settings.Environment :=
      [("POKER_BACKEND_URL", "https://poker.test"), ("POKER_TEST_EMAIL", "p"),
        ("POKER_TEST_PASSWORD", "q")]
    let settings : Settings := { backendUrl := "https://poker.test" }
    let now : Moment := .ofUtc default
    let healthy : Reply := { status := 204, headers := [], octets := [] }
    let noTables : Reply :=
      { status := 200, headers := []
        octets := Utf8.encode (Value.object [("success", .bool true), ("data", .list [])]).write }
    let granted : Reply :=
      { status := 200, headers := [], octets := Utf8.encode (login.dump .camel).write }
    let w : World :=
      { slot := none, answers := [.reply healthy, .reply noTables, .reply granted]
        otherwise := .gaveUp "" "" }
    let codecs := Charset.Codecs.ascii
    let ran := exitCode ["--login"] env codecs now {} w
    Settings.ofEnvironment env = .ok settings ∧
      CommandLine.parse ["--login"] = .verify none true ∧ ran.result = .ok 0 ∧
      Truthful settings codecs env "https://poker.test" true w 0 ran.trail.requests := by
  intro login env settings now healthy noTables granted w codecs ran
  have hsettings : Settings.ofEnvironment env = .ok settings :=
    eq_ok_of_toOption (by decide +kernel)
  have hparse : CommandLine.parse ["--login"] = .verify none true := by decide +kernel
  have hzero : ran.result.toOption = some 0 := by decide +kernel
  have hran : ran.result = .ok 0 := eq_ok_of_toOption hzero
  exact ⟨hsettings, hparse, hran, exitCode_truthful hsettings hparse hran⟩

end Verification
end PokerClient
