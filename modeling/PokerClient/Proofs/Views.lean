import PokerClient.Proofs.Reading
import PokerClient.Proofs.SlotFrame

/-!
# Views of the session

A read of the credential yields one, finds none or fails, and every operation that
starts with the read can be told by its report which of the three it was. They also
leave the slot in the same state.
-/

namespace PokerClient

open Http Json Time

theorem FailureKind.code_injective {a b : FailureKind} (h : a.code = b.code) : a = b := by
  cases a <;> cases b <;> first | rfl | simp [code] at h

namespace Outcome

variable {o : Outcome} {f : Failure} {kind : FailureKind} {message : String}

/-- An outcome reports a failure of a kind. -/
def IsFailure (o : Outcome) (kind : FailureKind) : Prop :=
  o.success = false ∧ o.failure = some kind.code

/-- An outcome reports a failure of a kind in these words. -/
def Tells (o : Outcome) (kind : FailureKind) (message : String) : Prop :=
  o.IsFailure kind ∧ o.message = message

theorem isFailure_failed : (failed f).IsFailure kind ↔ f.kind = kind := by
  constructor
  · rintro ⟨-, h⟩
    exact FailureKind.code_injective (Option.some.inj h)
  · rintro rfl
    exact ⟨rfl, rfl⟩

theorem tells_failed : (failed f).Tells kind message ↔ f.kind = kind ∧ f.message = message :=
  and_congr_left' isFailure_failed

theorem FailsOnlyOf.not_isFailure (h : o.FailsOnlyOf Failure.OfRequest)
    (hkind : kind.isOfRequest = false) : ¬ o.IsFailure kind := by
  rintro ⟨hfalse, hcode⟩
  rcases h with htrue | ⟨f, hf, rfl⟩
  · rw [htrue] at hfalse
    cases hfalse
  · have hk : f.kind = kind := isFailure_failed.1 ⟨hfalse, hcode⟩
    unfold Failure.OfRequest at hf
    rw [hk, hkind] at hf
    cases hf

end Outcome

/-- A read of the credential fails with a failure of the secret store in these words. -/
def ReadFails (got : Except Stop (Option Credential)) (message : String) : Prop :=
  ∃ f : Failure, got = .error (.failure f) ∧ f.kind = .store ∧ f.message = message

/-- A read that does not escape yields a credential, finds none or fails. -/
theorem Store.get_cases (s : Store) (k : Conditions) (w : World)
    (hget : ∀ e, (s.get k w).result ≠ .error (.escape e)) :
    (∃ credential, (s.get k w).result = .ok (some credential)) ∨ (s.get k w).result = .ok none ∨
      ∃ f : Failure, (s.get k w).result = .error (.failure f) ∧ f.kind = .store := by
  have hgot := s.get_got k w
  generalize (s.get k w).result = got at hget hgot
  generalize (s.get k w).world.slot = after at hgot
  cases hgot with
  | empty | evicted => exact Or.inr (Or.inl rfl)
  | usable => exact Or.inl ⟨_, rfl⟩
  | refused hs =>
    obtain ⟨request, reason, rfl⟩ := hs
    exact Or.inr (Or.inr ⟨_, rfl, rfl⟩)
  | escaped => exact absurd rfl (hget _)

/-- What comes after a read that does not escape goes on with what it found or with a
failure of the secret store. -/
theorem Store.attempted_cases {β : Type} {s : Store} {k : Conditions} {w : World}
    (f : Except Failure (Option Credential) → Action β)
    (hget : ∀ e, (s.get k w).result ≠ .error (.escape e)) :
    (∃ found, (s.get k w).result = .ok found ∧
      (((s.get k).attempt >>= f) w).result = (f (.ok found) (s.get k w).world).result) ∨
    ∃ e : Failure, (s.get k w).result = .error (.failure e) ∧ e.kind = .store ∧
      (((s.get k).attempt >>= f) w).result = (f (.error e) (s.get k w).world).result := by
  rcases s.get_cases k w hget with ⟨credential, hgot⟩ | hgot | ⟨e, hgot, hkind⟩
  · exact Or.inl ⟨_, hgot, Action.attempted_of_ok hgot⟩
  · exact Or.inl ⟨_, hgot, Action.attempted_of_ok hgot⟩
  · exact Or.inr ⟨e, hgot, hkind, Action.attempted_of_failure hgot⟩

/-- What an operation reports that cannot do without a credential. -/
inductive Demanded (got : Except Stop (Option Credential)) (result : Except Stop Outcome) : Prop
  | granted {credential : Credential} (hgot : got = .ok (some credential))
      (hresult : ∀ o, result = .ok o → o.FailsOnlyOf Failure.OfRequest)
  | missing (hgot : got = .ok none) (hresult : result = .ok (.failed .loginRequired))
  | refused {f : Failure} (hgot : got = .error (.failure f)) (hkind : f.kind = .store)
      (hresult : result = .ok (.failed f))

/-- A read of the credential can be told by the report of an operation that needs one. -/
structure DemandView (got : Except Stop (Option Credential)) (result : Except Stop Outcome) :
    Prop where
  usable : (∃ credential, got = .ok (some credential)) ↔
    ∀ o, result = .ok o → ¬ o.IsFailure .notAuthenticated ∧ ¬ o.IsFailure .store
  absent : got = .ok none ↔ ∃ o, result = .ok o ∧ o.IsFailure .notAuthenticated
  refused : ∀ message, ReadFails got message ↔ ∃ o, result = .ok o ∧ o.Tells .store message

theorem Demanded.view {got : Except Stop (Option Credential)} {result : Except Stop Outcome}
    (h : Demanded got result) : DemandView got result := by
  cases h with
  | granted hgot hresult =>
    have hno (o : Outcome) (ho : result = .ok o) :
        ¬ o.IsFailure .notAuthenticated ∧ ¬ o.IsFailure .store :=
      ⟨(hresult o ho).not_isFailure rfl, (hresult o ho).not_isFailure rfl⟩
    refine ⟨⟨fun _ => hno, fun _ => ⟨_, hgot⟩⟩, ⟨?_, ?_⟩, fun message => ⟨?_, ?_⟩⟩
    · intro hnone
      cases hgot.symm.trans hnone
    · rintro ⟨o, ho, hfailure⟩
      exact absurd hfailure (hno o ho).1
    · rintro ⟨f, hf, -⟩
      cases hgot.symm.trans hf
    · rintro ⟨o, ho, hfailure, -⟩
      exact absurd hfailure (hno o ho).2
  | missing hgot hresult =>
    subst hgot hresult
    refine ⟨?_, ?_, fun message => ?_⟩
    · simp [Outcome.isFailure_failed, Failure.kind]
    · simp [Outcome.isFailure_failed, Failure.kind]
    · simp [ReadFails, Outcome.tells_failed, Failure.kind]
  | refused hgot hkind hresult =>
    subst hgot hresult
    refine ⟨?_, ?_, fun message => ?_⟩
    · simp [Outcome.isFailure_failed, hkind]
    · simp [Outcome.isFailure_failed, hkind]
    · simp [ReadFails, Outcome.tells_failed]

/-- What comes after a read decides what is reported: a failure if the read yielded no
credential, and whatever the backend makes of the request if it did. -/
theorem demanded_of_attempt {α : Type} {report : α → Outcome} {s : Store} {k : Conditions}
    {w : World} {f : Except Failure (Option Credential) → Action α}
    (hget : ∀ e, (s.get k w).result ≠ .error (.escape e))
    (hgranted : ∀ credential w a, (f (.ok (some credential)) w).result = .ok a →
      (report a).FailsOnlyOf Failure.OfRequest)
    (hmissing : ∀ w, (f (.ok none) w).result.map report = .ok (.failed .loginRequired))
    (hrefused : ∀ e w, (f (.error e) w).result.map report = .ok (.failed e)) :
    Demanded (s.get k w).result ((((s.get k).attempt >>= f) w).result.map report) := by
  rcases s.attempted_cases f hget with ⟨_ | credential, hgot, hresult⟩ | ⟨e, hgot, hkind, hresult⟩
  · refine .missing hgot ?_
    rw [hresult]
    exact hmissing _
  · refine .granted hgot fun o ho => ?_
    rw [hresult] at ho
    cases hr : (f (.ok (some credential)) (s.get k w).world).result with
    | error stop =>
      rw [hr] at ho
      cases ho
    | ok a =>
      rw [hr] at ho
      cases ho
      exact hgranted credential _ a hr
  · refine .refused hgot hkind ?_
    rw [hresult]
    exact hrefused e _

namespace Lobby

variable {c : Client} {k : Conditions} {w : World}

theorem create_demanded (url : String) (config : TableConfig)
    (hget : ∀ e, (c.store.get k w).result ≠ .error (.escape e)) :
    Demanded (c.store.get k w).result
      ((create c k url config w).result.map CreateOutcome.toOutcome) := by
  have hfail (f : Failure) (w : World) :
      (createWith c (.fail f) url config w).result.map CreateOutcome.toOutcome =
        .ok (.failed f) := by
    rw [createWith_fail]
    rfl
  rw [create_eq]
  refine demanded_of_attempt hget ?_ (hfail .loginRequired) hfail
  intro credential w o ho
  have hreported : (createWith c (pure credential.accessToken) url config w).result = .ok o := ho
  exact createWith_reports hreported

theorem join_demanded (url tableId : String) (buyIn : Value)
    (hget : ∀ e, (c.store.get k w).result ≠ .error (.escape e)) :
    Demanded (c.store.get k w).result
      ((join c k url tableId buyIn w).result.map JoinOutcome.toOutcome) := by
  have hfail (f : Failure) (w : World) :
      (joinWith c (.fail f) url tableId buyIn w).result.map JoinOutcome.toOutcome =
        .ok (.failed f) := by
    rw [joinWith_fail]
    rfl
  rw [join_eq]
  refine demanded_of_attempt hget ?_ (hfail .loginRequired) hfail
  intro credential w o ho
  have hreported :
      (joinWith c (pure credential.accessToken) url tableId buyIn w).result = .ok o := ho
  exact joinWith_reports hreported

end Lobby

namespace Account

variable {c : Client} {k : Conditions} {w : World}

/-- A read of the credential can be told by the report of the access token. -/
structure TokenView (got : Except Stop (Option Credential)) (result : Except Stop TokenOutcome) :
    Prop where
  usable : ∀ access expiry,
    (∃ credential : Credential, got = .ok (some credential) ∧
      credential.accessToken = access ∧ credential.expiresAt = expiry) ↔
    ∃ o, result = .ok o ∧ o.success = true ∧ o.accessToken = some access ∧
      o.expiresAt = some (Moment.ofUtc expiry)
  absent : got = .ok none ↔ ∃ o, result = .ok o ∧ o.success = true ∧ o.accessToken = none
  refused : ∀ message, ReadFails got message ↔ ∃ o, result = .ok o ∧ o.Tells .store message

/-- A read of the credential can be told by the report of who is logged in. -/
structure UserView (got : Except Stop (Option Credential)) (result : Except Stop UserOutcome) :
    Prop where
  usable : (∃ credential, got = .ok (some credential)) ↔
    ∃ o, result = .ok o ∧ o.success = true ∧ o.authenticated = true
  absent : got = .ok none ↔ ∃ o, result = .ok o ∧ o.success = true ∧ o.authenticated = false
  refused : ∀ message, ReadFails got message ↔ ∃ o, result = .ok o ∧ o.Tells .store message
  reports : ∃ o, result = .ok o

theorem describe_authenticated (credential : Credential) :
    (describe credential).success = true ∧ (describe credential).authenticated = true := by
  unfold describe
  cases Identity.user? credential.accessToken <;> exact ⟨rfl, rfl⟩

theorem tokenView_of_found {result : Except Stop TokenOutcome} (found : Option Credential)
    (hresult : result = .ok (tokenOutcome found)) : TokenView (.ok found) result := by
  subst hresult
  cases found with
  | none =>
    refine ⟨fun access expiry => ?_, ?_, fun message => ?_⟩
    · simp [tokenOutcome]
    · simp [tokenOutcome]
    · simp [ReadFails, tokenOutcome, Outcome.Tells, Outcome.IsFailure]
  | some credential =>
    refine ⟨fun access expiry => ?_, ?_, fun message => ?_⟩
    · simp [tokenOutcome, Moment.ofUtc]
    · simp [tokenOutcome]
    · simp [ReadFails, tokenOutcome, Outcome.Tells, Outcome.IsFailure]

theorem tokenView_of_refused {result : Except Stop TokenOutcome} {f : Failure}
    (hresult : result = .ok (.failed f)) : TokenView (.error (.failure f)) result := by
  subst hresult
  refine ⟨fun access expiry => ?_, ?_, fun message => ?_⟩
  · simp [TokenOutcome.failed, Outcome.failed]
  · simp [TokenOutcome.failed, Outcome.failed]
  · simp [ReadFails, TokenOutcome.failed, Outcome.tells_failed]

theorem token_view (hget : ∀ e, (c.store.get k w).result ≠ .error (.escape e)) :
    TokenView (c.store.get k w).result (token c k w).result := by
  rcases c.store.attempted_cases reportToken hget with
    ⟨found, hgot, hresult⟩ | ⟨f, hgot, -, hresult⟩
  · rw [hgot]
    exact tokenView_of_found found hresult
  · rw [hgot]
    exact tokenView_of_refused hresult

theorem userView_of_found {result : Except Stop UserOutcome} (found : Option Credential)
    (hresult : result = .ok (userOutcome found)) : UserView (.ok found) result := by
  subst hresult
  cases found with
  | none =>
    refine ⟨?_, ?_, fun message => ?_, ⟨_, rfl⟩⟩
    · simp [userOutcome]
    · simp [userOutcome]
    · simp [ReadFails, userOutcome, Outcome.Tells, Outcome.IsFailure]
  | some credential =>
    obtain ⟨hsuccess, hauthenticated⟩ := describe_authenticated credential
    refine ⟨?_, ?_, fun message => ?_, ⟨_, rfl⟩⟩
    · simp [userOutcome, hsuccess, hauthenticated]
    · simp [userOutcome, hauthenticated]
    · simp [ReadFails, userOutcome, Outcome.Tells, Outcome.IsFailure, hsuccess]

theorem userView_of_refused {result : Except Stop UserOutcome} {f : Failure}
    (hresult : result = .ok (.failed f)) : UserView (.error (.failure f)) result := by
  subst hresult
  refine ⟨?_, ?_, fun message => ?_, ⟨_, rfl⟩⟩
  · simp [UserOutcome.failed, Outcome.failed]
  · simp [UserOutcome.failed, Outcome.failed]
  · simp [ReadFails, UserOutcome.failed, Outcome.tells_failed]

theorem user_view (hget : ∀ e, (c.store.get k w).result ≠ .error (.escape e)) :
    UserView (c.store.get k w).result (user c k w).result := by
  rcases c.store.attempted_cases reportUser hget with
    ⟨found, hgot, hresult⟩ | ⟨f, hgot, -, hresult⟩
  · rw [hgot]
    exact userView_of_found found hresult
  · rw [hgot]
    exact userView_of_refused hresult

end Account

/-- The operations of a client in one and the same state tell the same of the credential,
and leave the slot the same. -/
structure ViewsAgree (c : Client) (k : Conditions) (url : String) (config : TableConfig)
    (tableId : String) (buyIn : Value) (w : World) : Prop where
  token : Account.TokenView (c.store.get k w).result (Account.token c k w).result
  user : Account.UserView (c.store.get k w).result (Account.user c k w).result
  create : DemandView (c.store.get k w).result
    ((Lobby.create c k url config w).result.map CreateOutcome.toOutcome)
  join : DemandView (c.store.get k w).result
    ((Lobby.join c k url tableId buyIn w).result.map JoinOutcome.toOutcome)
  token_slot : (Account.token c k w).world.slot = (c.store.get k w).world.slot
  user_slot : (Account.user c k w).world.slot = (c.store.get k w).world.slot
  create_slot : (Lobby.create c k url config w).world.slot = (c.store.get k w).world.slot
  join_slot : (Lobby.join c k url tableId buyIn w).world.slot = (c.store.get k w).world.slot

theorem views_agree (c : Client) (k : Conditions) (url : String) (config : TableConfig)
    (tableId : String) (buyIn : Value) (w : World)
    (hget : ∀ e, (c.store.get k w).result ≠ .error (.escape e)) :
    ViewsAgree c k url config tableId buyIn w where
  token := Account.token_view hget
  user := Account.user_view hget
  create := (Lobby.create_demanded url config hget).view
  join := (Lobby.join_demanded url tableId buyIn hget).view
  token_slot := Account.token_slot c k w
  user_slot := Account.user_slot c k w
  create_slot := Lobby.create_slot c k url config w
  join_slot := Lobby.join_slot c k url tableId buyIn w

/-- A text that is no credential, in a keyring that does not let go of it. -/
theorem views_agree_of_locked :
    let c : Client := { store := { kind := .keyring }, settings := .standard }
    let k : Conditions :=
      { now := .ofUtc default
        faults := { erase := some { nothingToDelete := false, message := "locked" } } }
    let w : World := { slot := some "?", answers := [], otherwise := .gaveUp "ReadError" "" }
    let config : TableConfig :=
      { name := "t", gameType := "texas_holdem", bettingStructure := "no_limit"
        gameFormat := "cash", maxPlayers := 9, smallBlind := .ofNat 1, bigBlind := .ofNat 2
        minBuyIn := .ofNat 100, maxBuyIn := .ofNat 400, ante := .absent, timeBank := 30
        isPrivate := false }
    ReadFails (c.store.get k w).result
        "Failed to delete credential from primo-poker/auth-token: locked" ∧
      (∀ e, (c.store.get k w).result ≠ .error (.escape e)) ∧
      ViewsAgree c k "https://poker.test" config "t" .null w := by
  intro c k w config
  have hfails : ReadFails (c.store.get k w).result
      "Failed to delete credential from primo-poker/auth-token: locked" := ⟨_, rfl, rfl, rfl⟩
  have hget (e : Escape) : (c.store.get k w).result ≠ .error (.escape e) := by
    obtain ⟨f, hf, -⟩ := hfails
    intro he
    cases hf.symm.trans he
  exact ⟨hfails, hget, views_agree c k _ config _ _ w hget⟩

end PokerClient
