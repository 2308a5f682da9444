import PokerClient.Proofs.SlotFrame

/-!
# Who sees the access token

Only what a read of the store yields at the start of a step ever shows in a
request, as the bearer of its authorization. Where the read yields nothing, the
operations that need a credential send nothing at all.
-/

namespace PokerClient

open Http Json Time

/-- A request bears no token but that of the credential which a read yielded. -/
def ShowsOnly (got : Except Stop (Option Credential)) (r : Request) : Prop :=
  ∀ t, r.Bears t → ∃ credential : Credential,
    got = .ok (some credential) ∧ credential.accessToken = t

theorem showsOnly_of_authorizedBy {got : Except Stop (Option Credential)} {token : Option String}
    {r : Request} (hr : r.AuthorizedBy token)
    (htoken : ∀ t, token = some t → ∃ credential : Credential,
      got = .ok (some credential) ∧ credential.accessToken = t) : ShowsOnly got r := by
  intro t ht
  exact htoken t (hr.eq_of_bears ht)

theorem Law.sendsOnly_mono {α : Type} {P Q : Request → Prop} {x : Action α} {w : World}
    (hPQ : ∀ r, P r → Q r) (hx : (sendsOnly P).Obeyed x w) : (sendsOnly Q).Obeyed x w :=
  fun r hr => hPQ r (hx r hr)

namespace Lobby

variable {c : Client} {k : Conditions} {w : World}

theorem requiredToken_eq_ok {token : String} (h : (requiredToken c k w).result = .ok token) :
    ∃ credential, (c.store.get k w).result = .ok (some credential) ∧
      credential.accessToken = token := by
  obtain ⟨found, hg, h⟩ := Action.bind_eq_ok h
  cases found with
  | none => cases h
  | some credential =>
    cases h
    exact ⟨credential, hg, rfl⟩

theorem requiredToken_offline (c : Client) (k : Conditions) (w : World) :
    Law.offline.Obeyed (requiredToken c k) w :=
  Law.bind (Store.get_offline c.store k w) fun found _ => Law.of_quiet (grantedToken_quiet found)

/-- What the token of a request shows came from the store. -/
theorem request_showsOnly {token : String} (ht : (requiredToken c k w).result = .ok token)
    (url method path : String) (body : Option Value) (w' : World) :
    (Law.sendsOnly (ShowsOnly (c.store.get k w).result)).Obeyed
      (request c (some token) url method path body) w' := by
  refine Law.sendsOnly_mono (fun r hr => showsOnly_of_authorizedBy hr ?_)
    (request_authorized c (some token) url method path body w')
  intro t h
  cases h
  exact requiredToken_eq_ok ht

/-- A law that the read obeys, and everything that follows where the read yields a
credential, is obeyed by creating a table. -/
theorem create_obeys {L : Law} (url : String) (config : TableConfig)
    (hget : L.Obeyed (requiredToken c k) w)
    (hrequest : ∀ token, (requiredToken c k w).result = .ok token →
      L.Obeyed (request c (some token) url "POST" Endpoint.tables (some (config.dump .camel)))
        (requiredToken c k w).world) :
    L.Obeyed (create c k url config) w := by
  refine Law.bind (Law.attempt (Law.bind hget fun token ht => ?_)) fun created _ =>
    Law.of_quiet (reportCreation_quiet _ created)
  exact Law.bind (hrequest token ht) fun _ _ => Law.of_quiet (Quiet.ofFailure _)

theorem join_obeys {L : Law} (url tableId : String) (buyIn : Value)
    (hget : L.Obeyed (requiredToken c k) w)
    (hrequest : ∀ token, (requiredToken c k w).result = .ok token →
      L.Obeyed (request c (some token) url "POST" (Endpoint.join tableId) (some (joinBody buyIn)))
        (requiredToken c k w).world) :
    L.Obeyed (join c k url tableId buyIn) w :=
  Law.bind (Law.attempt (Law.bind hget hrequest)) fun joined _ =>
    Law.of_quiet (reportSeat_quiet _ _ joined)

theorem optionalToken_eq_ok {token : Option String}
    (h : (optionalToken c k w).result = .ok token) {t : String} (ht : token = some t) :
    ∃ credential, (c.store.get k w).result = .ok (some credential) ∧
      credential.accessToken = t := by
  obtain ⟨found, hg, h⟩ := Action.bind_eq_ok h
  rcases found with f | _ | credential
  · cases h
    cases ht
  · cases h
    cases ht
  · cases h
    cases ht
    exact ⟨credential, Action.attempt_eq_ok hg, rfl⟩

/-- A law that the read obeys, and all that is done with a token or without, is obeyed
by listing the tables. -/
theorem list_obeys {L : Law} (url : String) (hget : L.Obeyed (c.store.get k) w)
    (hlist : ∀ token, (optionalToken c k w).result = .ok token →
      L.Obeyed (listWith c token url) (optionalToken c k w).world) :
    L.Obeyed (list c k url) w := by
  refine Law.bind (Law.bind (Law.attempt hget) fun found _ => ?_) hlist
  exact Law.of_quiet (tokenIfAny_quiet found)

theorem list_showsOnly (c : Client) (k : Conditions) (url : String) (w : World) :
    (Law.sendsOnly (ShowsOnly (c.store.get k w).result)).Obeyed (list c k url) w := by
  refine list_obeys url (Law.sendsOnly_of_offline (Store.get_offline c.store k w))
    fun token ht => ?_
  refine Law.sendsOnly_mono (fun r hr => showsOnly_of_authorizedBy hr ?_)
    (listWith_authorized c token url _)
  exact fun t => optionalToken_eq_ok ht

end Lobby

namespace Command

/-- The steps that cannot do without a credential. -/
def Needs : Command → Prop
  | .create _ | .join _ _ => True
  | _ => False

/-- The steps that ask the network without a credential. -/
def Anonymous : Command → Prop
  | .login _ _ | .check _ => True
  | _ => False

/-- The steps that ask the network. -/
def Asks : Command → Prop
  | .list => True
  | c => c.Needs ∨ c.Anonymous

end Command

namespace Session

variable {s : Session} {step : SessionStep}

/-- What a read of the store comes to at the start of a step. -/
def got (s : Session) (step : SessionStep) : Except Stop (Option Credential) :=
  (s.client.store.get (s.conditions step) (s.world step)).result

/-- The slot holds a usable credential. -/
def Holds (s : Session) (c : Credential) : Prop :=
  ∃ blob, s.slot = some blob ∧ Store.Usable s.now blob c

theorem holds_of_got {c : Credential} (h : s.got step = .ok (some c)) : s.Holds c := by
  have hgot := Store.get_got s.client.store (s.conditions step) (s.world step)
  unfold got at h
  rw [h] at hgot
  generalize (s.client.store.get (s.conditions step) (s.world step)).world.slot = after at hgot
  cases hgot with
  | usable hs hc => exact ⟨_, hs, hc⟩

theorem lobby_showsOnly (s : Session) (step : SessionStep)
    (h : step.command = .list ∨ step.command.Needs) :
    ∀ r ∈ (s.run step).trail.requests, ShowsOnly (s.got step) r := by
  have hread : (Law.sendsOnly (ShowsOnly (s.got step))).Obeyed
      (Lobby.requiredToken s.client (s.conditions step)) (s.world step) :=
    Law.sendsOnly_of_offline (Lobby.requiredToken_offline _ _ _)
  change (Law.sendsOnly (ShowsOnly (s.got step))).Obeyed
    (perform s.client (s.conditions step) step.url step.command) (s.world step)
  cases hc : step.command with
  | list => exact Law.map _ (Lobby.list_showsOnly _ _ _ _)
  | create v =>
    refine Law.bind (Law.of_quiet (Quiet.ofEscape _)) fun config _ => ?_
    rw [Action.ofEscape_world]
    exact Law.map _ (Lobby.create_obeys _ config hread fun token ht =>
      Lobby.request_showsOnly ht _ _ _ _ _)
  | join tableId buyIn =>
    exact Law.map _ (Lobby.join_obeys _ _ _ hread fun token ht =>
      Lobby.request_showsOnly ht _ _ _ _ _)
  | _ => simp [Command.Needs, hc] at h

theorem needs_offline (s : Session) (step : SessionStep) (h : step.command.Needs)
    (hgot : ∀ c, s.got step ≠ .ok (some c)) :
    (s.run step).trail.requests = [] ∧ (s.run step).world.answers = step.answers := by
  have hread := Lobby.requiredToken_offline s.client (s.conditions step) (s.world step)
  have hnone (token : String) :
      (Lobby.requiredToken s.client (s.conditions step) (s.world step)).result ≠ .ok token := by
    intro ht
    obtain ⟨c, hc, -⟩ := Lobby.requiredToken_eq_ok ht
    exact hgot c hc
  have hoffline : Law.offline.Obeyed
      (perform s.client (s.conditions step) step.url step.command) (s.world step) := by
    cases hc : step.command with
    | create v =>
      refine Law.bind (Law.of_quiet (Quiet.ofEscape _)) fun config _ => ?_
      rw [Action.ofEscape_world]
      exact Law.map _ (Lobby.create_obeys _ config hread fun token ht => absurd ht (hnone token))
    | join tableId buyIn =>
      exact Law.map _ (Lobby.join_obeys _ _ _ hread fun token ht => absurd ht (hnone token))
    | _ => simp [Command.Needs, hc] at h
  exact ⟨hoffline.1, hoffline.2.1⟩

theorem anonymous_bears (s : Session) (step : SessionStep) (h : step.command.Anonymous) :
    ∀ r ∈ (s.run step).trail.requests, ∀ t, ¬ r.Bears t := by
  have hnone : (Law.sendsOnly (Request.AuthorizedBy none)).Obeyed
      (perform s.client (s.conditions step) step.url step.command) (s.world step) := by
    cases hc : step.command with
    | login identifier password =>
      refine Law.map _ (Law.bind (Law.attempt (Law.bind ?_ fun granted _ => ?_)) fun granted _ =>
        Law.of_quiet (Account.reportLogin_quiet granted))
      · exact Account.obtain_authorized _ _ _ _ _ _
      · refine Law.sendsOnly_of_offline (Law.bind ?_ fun _ _ => Law.of_quiet (Quiet.pure _))
        exact Store.set_offline _ _ _ _
    | check watch => exact Law.map _ (Probe.check_authorized _ _ _ _)
    | _ => simp [Command.Anonymous, hc] at h
  intro r hr t ht
  cases (hnone r hr).eq_of_bears ht

theorem silent_requests (s : Session) (step : SessionStep) (h : ¬ step.command.Asks) :
    (s.run step).trail.requests = [] := by
  have hget : Law.offline.Obeyed (s.client.store.get (s.conditions step)) (s.world step) :=
    Store.get_offline _ _ _
  have herase : Law.offline.Obeyed (s.client.store.delete (s.conditions step)) (s.world step) :=
    Store.erase_offline _ _ _
  suffices hoffline : Law.offline.Obeyed
      (perform s.client (s.conditions step) step.url step.command) (s.world step) from hoffline.1
  cases hc : step.command with
  | logout =>
    refine Law.map _ (Law.bind (Law.attempt herase) fun deleted _ => ?_)
    exact Law.of_quiet (Account.reportLogout_quiet deleted)
  | token =>
    refine Law.map _ (Law.bind (Law.attempt hget) fun found _ => ?_)
    exact Law.of_quiet (Account.reportToken_quiet found)
  | user =>
    refine Law.map _ (Law.bind (Law.attempt hget) fun found _ => ?_)
    exact Law.of_quiet (Account.reportUser_quiet found)
  | get => exact Law.map _ hget
  | set v =>
    refine Law.bind (Law.of_quiet (Quiet.ofEscape _)) fun c _ => ?_
    exact Law.bind (Store.set_offline _ _ _ _) fun _ _ => Law.of_quiet (Quiet.pure _)
  | delete => exact Law.bind herase fun _ _ => Law.of_quiet (Quiet.pure _)
  | put slot => exact ⟨rfl, rfl, rfl⟩
  | advance span =>
    apply Law.of_quiet
    rw [perform]
    cases (s.conditions step).now.add? span
    · exact Quiet.escape _
    · exact Quiet.pure _
  | _ => simp [Command.Asks, Command.Needs, Command.Anonymous, hc] at h

/-- Who sees the access token in a step. -/
structure TokenRule (s : Session) (step : SessionStep) : Prop where
  /-- What needs a credential is sent only while the slot holds a usable one. -/
  sent : step.command.Needs → (s.run step).trail.requests ≠ [] → ∃ c, s.Holds c
  /-- Without one, or where the store fails, nothing is sent and no answer is used up. -/
  unsent : step.command.Needs → (¬ ∃ c, s.Holds c) ∨ (∃ stop, s.got step = .error stop) →
    (s.run step).trail.requests = [] ∧ (s.run step).world.answers = step.answers
  /-- A token that is shown in the lobby is that of the usable credential. -/
  borne : step.command = .list ∨ step.command.Needs → ∀ r ∈ (s.run step).trail.requests,
    ∀ t, r.Bears t → ∃ c, s.Holds c ∧ c.accessToken = t
  /-- Neither a login nor the probe shows a token. -/
  anonymous : step.command.Anonymous → ∀ r ∈ (s.run step).trail.requests,
    ∀ value, r.authorization = some value → ¬ "Bearer ".toList <+: value.toList
  /-- All other steps stay away from the network. -/
  silent : ¬ step.command.Asks → (s.run step).trail.requests = []

theorem token_rule (s : Session) (step : SessionStep) : TokenRule s step where
  sent hneeds hsent := by
    refine Classical.byContradiction fun hnone => ?_
    have hgot (c : Credential) : s.got step ≠ .ok (some c) :=
      fun hc => hnone ⟨c, holds_of_got hc⟩
    exact hsent (needs_offline s step hneeds hgot).1
  unsent hneeds hreason := by
    refine needs_offline s step hneeds fun c hc => ?_
    rcases hreason with hnone | ⟨stop, hstop⟩
    · exact hnone ⟨c, holds_of_got hc⟩
    · cases hstop.symm.trans hc
  borne hlobby r hr t ht := by
    obtain ⟨c, hc, rfl⟩ := lobby_showsOnly s step hlobby r hr t ht
    exact ⟨c, holds_of_got hc, rfl⟩
  anonymous h r hr value hvalue hprefix := by
    obtain ⟨t, rfl⟩ := Request.eq_bearer_of_prefix hprefix
    exact anonymous_bears s step h r hr t hvalue
  silent := silent_requests s step

end Session
end PokerClient
