import PokerClient.Session
import PokerClient.Proofs.Network
import PokerClient.Proofs.StoreAccess

/-!
# Where the slot ends up

An operation changes the secret slot only through the accesses of its store. A
step therefore leaves the slot as it was, empties it with good reason, or fills it
with a credential that was stored with success.
-/

namespace PokerClient

open Http Json Time Validation

namespace Account

variable {c : Client} {now : Moment} {url identifier password : String} {w : World}

theorem refused_success (f : Failure) (w : World) :
    ∃ o, (refused f w).result = .ok o ∧ o.success = false := by
  cases f <;> exact ⟨_, rfl, rfl⟩

/-- What was obtained is an answer of the backend and the credential issued for it. -/
theorem obtain_eq_ok {login : Login} {credential : Credential GivenText}
    (h : (obtain c now url identifier password w).result = .ok (login, credential)) :
    (signIn c url identifier password w).result = .ok login ∧
      c.store.policy.issue now login.tokens.accessToken login.tokens.refreshToken =
        .ok credential := by
  obtain ⟨login', hs, h⟩ := Action.bind_eq_ok h
  obtain ⟨credential', hi, h⟩ := Action.bind_eq_ok h
  cases h
  exact ⟨hs, Action.ofEscape_eq_ok hi⟩

theorem keep_cases (c : Client) (k : Conditions) (granted : Login × Credential GivenText)
    (w : World) :
    (∃ written : Credential, granted.2 = written ∧ (keep c k granted w).result = .ok granted ∧
      (keep c k granted w).world.slot = some written.blob) ∨
    (∃ stop, (keep c k granted w).result = .error stop) ∧
      (keep c k granted w).world.slot = w.slot := by
  unfold keep
  rcases Store.set_cases c.store k granted.2 w with ⟨written, hc, hr, hs⟩ | ⟨stop, hr, -, hs⟩
  · rw [Action.bind_eq_after _ hr]
    exact Or.inl ⟨written, hc, rfl, hs⟩
  · rw [Action.bind_of_error _ hr]
    exact Or.inr ⟨⟨stop, rfl⟩, hs⟩

/-- What was obtained is stored, or else the slot is left alone. -/
theorem establish_cases (c : Client) (k : Conditions) (url identifier password : String)
    (w : World) :
    (∃ login, ∃ credential : Credential, (obtain c k.now url identifier password w).result =
        .ok (login, ↑credential) ∧
      (establish c k url identifier password w).result = .ok (login, ↑credential) ∧
      (establish c k url identifier password w).world.slot = some credential.blob) ∨
    (∃ stop, (establish c k url identifier password w).result = .error stop) ∧
      (establish c k url identifier password w).world.slot = w.slot := by
  have hslot : (obtain c k.now url identifier password w).world.slot = w.slot :=
    (obtain_slotless c k.now url identifier password).keepsSlot w
  unfold establish
  rcases hr : (obtain c k.now url identifier password w).result with stop | ⟨login, credential⟩
  · rw [Action.bind_of_error _ hr]
    exact Or.inr ⟨⟨stop, rfl⟩, hslot⟩
  · rw [Action.bind_eq_after _ hr]
    rcases keep_cases c k (login, credential) (obtain c k.now url identifier password w).world with
      ⟨written, rfl, hk, hs⟩ | ⟨⟨stop, hk⟩, hs⟩
    · exact Or.inl ⟨login, written, rfl, hk, hs⟩
    · exact Or.inr ⟨⟨stop, hk⟩, hs.trans hslot⟩

/-- A login is stored and reported, or else it leaves the slot alone and reports no
success. -/
theorem login_cases (c : Client) (k : Conditions) (url identifier password : String) (w : World) :
    (∃ login, ∃ credential : Credential, (obtain c k.now url identifier password w).result =
        .ok (login, ↑credential) ∧
      (Account.login c k url identifier password w).result = .ok (loginOutcome login credential) ∧
      (Account.login c k url identifier password w).world.slot = some credential.blob) ∨
    (Account.login c k url identifier password w).world.slot = w.slot ∧
      ∀ o, (Account.login c k url identifier password w).result = .ok o → o.success = false := by
  have hslot : (Account.login c k url identifier password w).world.slot =
      (establish c k url identifier password w).world.slot := by
    unfold Account.login
    rw [Law.slot_bind fun granted _ => Law.of_quiet (reportLogin_quiet granted),
      Action.attempt_eq]
  have hresult : (Account.login c k url identifier password w).result =
      (Action.caught (establish c k url identifier password w).result).bind
        fun granted => (reportLogin granted
          (establish c k url identifier password w).world).result := by
    unfold Account.login
    rw [Action.bind_result, Action.attempt_eq]
  rcases establish_cases c k url identifier password w with
    ⟨login, credential, ho, hr, hs⟩ | ⟨⟨stop, hr⟩, hs⟩
  · refine Or.inl ⟨login, credential, ho, ?_, hslot.trans hs⟩
    rw [hresult, hr]
    rfl
  · refine Or.inr ⟨hslot.trans hs, fun o ho => ?_⟩
    rw [hresult, hr] at ho
    cases stop with
    | escape e => cases ho
    | failure f =>
      obtain ⟨o', ho', hsuccess⟩ := refused_success f
        (establish c k url identifier password w).world
      have hoo : Except.ok o' = Except.ok o := ho'.symm.trans ho
      cases hoo
      exact hsuccess

theorem logout_slot (c : Client) (k : Conditions) (w : World) :
    (logout c k w).world.slot = (c.store.delete k w).world.slot := by
  unfold logout
  rw [Law.slot_bind fun deleted _ => Law.of_quiet (reportLogout_quiet deleted), Action.attempt_eq]

theorem token_slot (c : Client) (k : Conditions) (w : World) :
    (token c k w).world.slot = (c.store.get k w).world.slot := by
  unfold token
  rw [Law.slot_bind fun found _ => Law.of_quiet (reportToken_quiet found), Action.attempt_eq]

theorem user_slot (c : Client) (k : Conditions) (w : World) :
    (user c k w).world.slot = (c.store.get k w).world.slot := by
  unfold user
  rw [Law.slot_bind fun found _ => Law.of_quiet (reportUser_quiet found), Action.attempt_eq]

end Account

namespace Lobby

theorem requiredToken_slot (c : Client) (k : Conditions) (w : World) :
    (requiredToken c k w).world.slot = (c.store.get k w).world.slot :=
  Law.slot_bind fun found _ => Law.of_quiet (grantedToken_quiet found)

theorem list_slot (c : Client) (k : Conditions) (url : String) (w : World) :
    (list c k url w).world.slot = (c.store.get k w).world.slot := by
  unfold list
  rw [Law.slot_bind fun token _ => (listWith_slotless c token url).keepsSlot _]
  unfold optionalToken
  rw [Law.slot_bind fun found _ => Law.of_quiet (tokenIfAny_quiet found), Action.attempt_eq]

theorem create_slot (c : Client) (k : Conditions) (url : String) (config : TableConfig)
    (w : World) : (create c k url config w).world.slot = (c.store.get k w).world.slot := by
  unfold create createWith
  rw [Law.slot_bind fun created _ => Law.of_quiet (reportCreation_quiet _ created),
    Action.attempt_eq, ← requiredToken_slot]
  refine Law.slot_bind fun token _ => ?_
  exact Law.bind ((request_slotless c token url _ _ _).keepsSlot _) fun _ _ =>
    Law.of_quiet (Quiet.ofFailure _)

theorem join_slot (c : Client) (k : Conditions) (url tableId : String) (buyIn : Value)
    (w : World) : (join c k url tableId buyIn w).world.slot = (c.store.get k w).world.slot := by
  unfold join joinWith
  rw [Law.slot_bind fun joined _ => Law.of_quiet (reportSeat_quiet _ _ joined),
    Action.attempt_eq, ← requiredToken_slot]
  exact Law.slot_bind fun token _ => (request_slotless c token url _ _ _).keepsSlot _

end Lobby

namespace Command

/-- The steps that read the credential. -/
def Reads : Command → Prop
  | .token | .user | .list | .create _ | .join _ _ | .get => True
  | _ => False

/-- The steps that forget the credential. -/
def Forgets : Command → Prop
  | .logout | .delete => True
  | _ => False

end Command

/-- Whether a report is one of success. -/
def Report.success : Report → Bool
  | .login o => o.success
  | .logout o => o.success
  | .token o => o.success
  | .user o => o.success
  | .list o => o.success
  | .create o => o.success
  | .join o => o.success
  | _ => true

namespace Session

variable {s : Session} {step : SessionStep}

/-- A step stored a credential: the one of a login that reports success, or one that
was set without failure. -/
inductive Stored (s : Session) (step : SessionStep) (c : Credential) : Prop
  | login {identifier password : String} {o : LoginOutcome} {tokens : Tokens}
      (hcommand : step.command = .login identifier password)
      (hran : (s.run step).result = .ok (.login o)) (hsuccess : o.success = true)
      (htokens : o.tokens = some tokens)
      (hissue : s.client.store.policy.issue s.now tokens.accessToken tokens.refreshToken =
        .ok ↑c)
  | set {v : Value} (hcommand : step.command = .set v) (hvalue : credentialOf v = .ok ↑c)
      (hran : (s.run step).result = .ok .done)

/-- A read leaves the slot as it was, or empties it of a text that is worth nothing. -/
theorem got_slot {store : Store} {now : Moment} {slot after : Option String}
    {result : Except Stop (Option Credential)} (h : Store.Got store now slot result after) :
    after = slot ∨ after = none ∧ ∃ blob, slot = some blob ∧ Store.Worthless now blob := by
  cases h with
  | empty h => exact Or.inl h.symm
  | usable => exact Or.inl rfl
  | evicted h hw => exact Or.inr ⟨rfl, _, h, hw⟩
  | refused => exact Or.inl rfl
  | escaped => exact Or.inl rfl

/-- A step that reads the credential leaves the slot as the read does, unless it ends
before the read. -/
theorem reads_slot (s : Session) (step : SessionStep) (h : step.command.Reads) :
    (s.run step).world.slot = s.slot ∨ (s.run step).world.slot =
      (s.client.store.get (s.conditions step) (s.world step)).world.slot := by
  unfold run
  cases hc : step.command with
  | token =>
    rw [perform, Action.map_eq]
    exact Or.inr (Account.token_slot _ _ _)
  | user =>
    rw [perform, Action.map_eq]
    exact Or.inr (Account.user_slot _ _ _)
  | list =>
    rw [perform, Action.map_eq]
    exact Or.inr (Lobby.list_slot _ _ _ _)
  | create v =>
    rw [perform]
    cases hv : configOf v with
    | error e => exact Or.inl rfl
    | ok config =>
      rw [Action.bind_eq_after (x := Action.ofEscape _) (a := config) _ rfl, Action.map_eq]
      exact Or.inr (Lobby.create_slot _ _ _ _ _)
  | join tableId buyIn =>
    rw [perform, Action.map_eq]
    exact Or.inr (Lobby.join_slot _ _ _ _ _ _)
  | get =>
    rw [perform, Action.map_eq]
    exact Or.inr rfl
  | _ => simp [Command.Reads, hc] at h

/-- Forgetting the credential empties the slot or leaves it as it was. -/
theorem forgets_slot (s : Session) (step : SessionStep) (h : step.command.Forgets) :
    (s.run step).world.slot = s.slot ∨ (s.run step).world.slot = none := by
  have herase : (s.client.store.delete (s.conditions step) (s.world step)).world.slot = s.slot ∨
      (s.client.store.delete (s.conditions step) (s.world step)).world.slot = none := by
    rcases Store.erase_cases s.client.store step.faults (s.world step) with
      ⟨-, he⟩ | ⟨stop, -, -, he⟩
    · exact Or.inr he
    · exact Or.inl he
  unfold run
  cases hc : step.command with
  | logout =>
    rw [perform, Action.map_eq]
    have h := Account.logout_slot s.client (s.conditions step) (s.world step)
    rwa [← h] at herase
  | delete =>
    rw [perform, Law.slot_bind fun _ _ => Law.of_quiet (Quiet.pure _)]
    exact herase
  | _ => simp [Command.Forgets, hc] at h

theorem login_slot (s : Session) (step : SessionStep) {identifier password : String}
    (hc : step.command = .login identifier password) :
    (s.run step).world.slot = s.slot ∨
      ∃ c, Stored s step c ∧ (s.run step).world.slot = some c.blob := by
  have hrun : s.run step = (Report.login <$>
      Account.login s.client (s.conditions step) step.url identifier password) (s.world step) := by
    rw [run, hc, perform]
  rw [Action.map_eq] at hrun
  rcases Account.login_cases s.client (s.conditions step) step.url identifier password
    (s.world step) with ⟨login, c, ho, hr, hs⟩ | ⟨hs, -⟩
  · have hran : (s.run step).result = .ok (.login (Account.loginOutcome login c)) := by
      rw [hrun, hr]
      rfl
    refine Or.inr ⟨c, .login hc hran rfl rfl (Account.obtain_eq_ok ho).2, ?_⟩
    rw [hrun]
    exact hs
  · rw [hrun]
    exact Or.inl hs

theorem set_slot (s : Session) (step : SessionStep) {v : Value} (hc : step.command = .set v) :
    (s.run step).world.slot = s.slot ∨
      ∃ c, Stored s step c ∧ (s.run step).world.slot = some c.blob := by
  have hrun : s.run step =
      perform s.client (s.conditions step) step.url (.set v) (s.world step) := by
    rw [run, hc]
  cases hv : credentialOf v with
  | error e =>
    rw [hrun, perform, hv]
    exact Or.inl rfl
  | ok c =>
    have hset : s.run step = ((do s.client.store.set (s.conditions step) c; return Report.done) :
        Action Report) (s.world step) := by
      rw [hrun, perform, hv]
      exact Action.bind_eq_after (x := Action.ofEscape (.ok c)) (a := c) _ rfl
    rcases Store.set_cases s.client.store (s.conditions step) c (s.world step) with
      ⟨written, rfl, hr, hs⟩ | ⟨stop, hr, -, hs⟩
    · rw [Action.bind_eq_after _ hr] at hset
      refine Or.inr ⟨written, .set hc hv ?_, ?_⟩
      · rw [hset]
        rfl
      · rw [hset]
        exact hs
    · rw [Action.bind_of_error _ hr] at hset
      rw [hset]
      exact Or.inl hs

/-- All ways in which a step can leave the slot. -/
theorem slot_cases (s : Session) (step : SessionStep) (hput : ∀ slot, step.command ≠ .put slot) :
    (s.run step).world.slot = s.slot ∨
    (s.run step).world.slot = none ∧ (step.command.Forgets ∨
      step.command.Reads ∧ ∃ blob, s.slot = some blob ∧ Store.Worthless s.now blob) ∨
    ∃ c, Stored s step c ∧ (s.run step).world.slot = some c.blob := by
  have hreads : step.command.Reads → (s.run step).world.slot = s.slot ∨
      (s.run step).world.slot = none ∧
        ∃ blob, s.slot = some blob ∧ Store.Worthless s.now blob := by
    intro h
    rcases reads_slot s step h with hs | hs
    · exact Or.inl hs
    · rw [hs]
      exact got_slot (Store.get_got s.client.store (s.conditions step) (s.world step))
  cases hc : step.command with
  | login identifier password =>
    rcases login_slot s step hc with hs | hs
    · exact Or.inl hs
    · exact Or.inr (Or.inr hs)
  | set v =>
    rcases set_slot s step hc with hs | hs
    · exact Or.inl hs
    · exact Or.inr (Or.inr hs)
  | logout | delete =>
    have hforgets : step.command.Forgets := by rw [hc]; trivial
    rcases forgets_slot s step hforgets with hs | hs
    · exact Or.inl hs
    · exact Or.inr (Or.inl ⟨hs, Or.inl trivial⟩)
  | token | user | list | create v | join tableId buyIn | get =>
    have hread : step.command.Reads := by rw [hc]; trivial
    rcases hreads hread with hs | ⟨hs, hw⟩
    · exact Or.inl hs
    · exact Or.inr (Or.inl ⟨hs, Or.inr ⟨trivial, hw⟩⟩)
  | check watch =>
    refine Or.inl ?_
    rw [run, hc, perform]
    exact ((Probe.check_slotless _ watch _).map _).keepsSlot (s.world step)
  | put slot => exact absurd hc (hput slot)
  | advance span =>
    refine Or.inl ?_
    rw [run, hc, perform]
    cases (s.conditions step).now.add? span <;> rfl

end Session
end PokerClient
