import PokerClient.Proofs.LoggedOut

/-!
# Faults of the keyring

What the keyring refuses comes out of the store as a failure of the secret store, and
the slot is then what it was. The operations hand the failure on in what they report,
except that listing the tables goes on without a credential.
-/

namespace PokerClient

open Http Json Time Validation

/-- The keyring refuses a call with a fault. -/
inductive Faults.Refuses (faults : Faults) : StoreRequest → KeyringFault → Prop
  | read {fault : KeyringFault} (h : faults.read = some fault) : Refuses faults .read fault
  | write {fault : KeyringFault} (h : faults.write = some fault) : Refuses faults .write fault
  | erase {fault : KeyringFault} (h : faults.erase = some fault) : Refuses faults .erase fault
  | confirm {fault : KeyringFault} (h : faults.confirm = some fault) : Refuses faults .read fault

namespace Store

variable {s : Store} {k : Conditions} {faults : Faults} {w : World} {stop : Stop}

/-- What ended a run is the failure of the secret store that tells of a refused call in
the words of its fault. -/
def Blames (s : Store) (faults : Faults) (stop : Stop) : Prop :=
  ∃ request fault, faults.Refuses request fault ∧
    stop = .failure (.secretStore request s.label fault.message)

theorem Blames.code {f : Failure} (h : s.Blames faults (.failure f)) :
    f.code = FailureKind.store.code := by
  obtain ⟨request, fault, -, hf⟩ := h
  cases hf
  rfl

theorem not_blames_escape (e : Escape) : ¬ s.Blames faults (.escape e) := by
  rintro ⟨request, fault, -, he⟩
  cases he

theorem read_found {found : Option String} (h : (s.read faults w).result = .ok found) :
    found = w.slot := by
  rcases read_result s faults w with hslot | ⟨stop, hstop, -⟩
  · exact Except.ok.inj (h.symm.trans hslot)
  · cases h.symm.trans hstop

theorem read_error (h : (s.read faults w).result = .error stop) :
    ∃ fault, faults.read = some fault ∧
      stop = .failure (.secretStore .read s.label fault.message) := by
  unfold read at h
  cases hkind : s.kind with
  | memory =>
    simp only [hkind] at h
    cases h
  | keyring =>
    cases hfault : faults.read with
    | none =>
      simp only [hkind, hfault] at h
      cases h
    | some fault =>
      simp only [hkind, hfault] at h
      cases h
      exact ⟨fault, rfl, rfl⟩

theorem write_error {blob : String} (h : (s.write faults blob w).result = .error stop) :
    s.Blames faults stop := by
  unfold write at h
  cases hkind : s.kind with
  | memory =>
    simp only [hkind] at h
    cases h
  | keyring =>
    cases hfault : faults.write with
    | none =>
      simp only [hkind, hfault] at h
      cases h
    | some fault =>
      simp only [hkind, hfault] at h
      cases h
      exact ⟨.write, fault, .write hfault, rfl⟩

/-- A write fails of the keyring, or there is nothing to be written. -/
theorem set_error {c : Credential GivenText} (h : (s.set k c w).result = .error stop) :
    s.Blames k.faults stop ∨ ∃ e, c.writable = .error e ∧ stop = .escape e := by
  cases hc : c.writable with
  | error e =>
    rw [set_of_unwritable hc] at h
    cases h
    exact Or.inr ⟨e, rfl, rfl⟩
  | ok written =>
    rw [set_of_writable hc] at h
    exact Or.inl (write_error h)

/-- A deletion is not confirmed if the read is refused, or if there is something left. -/
theorem confirmErased_error {reason : String}
    (h : (s.confirmErased faults reason w).result = .error stop) :
    s.Blames faults stop ∨
      w.slot ≠ none ∧ stop = .failure (.secretStore .erase s.label reason) := by
  unfold confirmErased at h
  rw [Action.bind_result] at h
  cases hread : (s.read faults.afterErase w).result with
  | error stop' =>
    obtain ⟨fault, hfault, rfl⟩ := read_error hread
    rw [hread] at h
    cases h
    exact Or.inl ⟨.read, fault, .confirm hfault, rfl⟩
  | ok found =>
    have hfound : found = w.slot := read_found hread
    rw [hread] at h
    cases found with
    | none => cases h
    | some blob =>
      cases h
      have hleft : w.slot ≠ none := by simp [← hfound]
      exact Or.inr ⟨hleft, rfl⟩

theorem confirmErased_absent (hslot : w.slot = none) (hconfirm : faults.confirm = none)
    (reason : String) : (s.confirmErased faults reason w).result = .ok () := by
  unfold confirmErased
  rw [Action.bind_result]
  cases hread : (s.read faults.afterErase w).result with
  | error stop =>
    obtain ⟨fault, hfault, -⟩ := read_error hread
    have hsome : faults.confirm = some fault := hfault
    rw [hconfirm] at hsome
    cases hsome
  | ok found =>
    have hfound : found = none := (read_found hread).trans hslot
    rw [hfound]
    rfl

theorem erase_error (h : (s.erase faults w).result = .error stop) : s.Blames faults stop := by
  unfold erase at h
  cases hkind : s.kind with
  | memory =>
    simp only [hkind] at h
    cases h
  | keyring =>
    simp only [hkind, Action.noteCall_bind, Ran.after] at h
    cases hfault : faults.erase with
    | none =>
      simp only [hfault, Action.look_bind] at h
      cases hslot : w.slot with
      | some blob =>
        simp only [hslot] at h
        cases h
      | none =>
        simp only [hslot] at h
        rcases confirmErased_error h with hblamed | ⟨hleft, -⟩
        · exact hblamed
        · exact absurd hslot hleft
    | some fault =>
      have hrefused : s.Blames faults (.failure (.secretStore .erase s.label fault.message)) :=
        ⟨.erase, fault, .erase hfault, rfl⟩
      by_cases hnothing : fault.nothingToDelete = true
      · simp only [hfault, hnothing, if_true] at h
        rcases confirmErased_error h with hblamed | ⟨-, rfl⟩
        · exact hblamed
        · exact hrefused
      · simp only [hfault, hnothing] at h
        cases h
        exact hrefused

/-- That there was nothing to delete is no failure where there is nothing. -/
theorem erase_absent (hslot : w.slot = none)
    (hnothing : ∀ fault, faults.erase = some fault → fault.nothingToDelete = true)
    (hconfirm : faults.confirm = none) : (s.erase faults w).result = .ok () := by
  have hconfirmed := confirmErased_absent (s := s) hslot hconfirm
  unfold erase
  cases s.kind with
  | memory => rfl
  | keyring =>
    simp only [Action.noteCall_bind, Ran.after]
    cases hfault : faults.erase with
    | none =>
      simp only [Action.look_bind, hslot]
      exact hconfirmed _
    | some fault =>
      simp only [hnothing fault hfault, if_true]
      exact hconfirmed _

/-- Besides the keyring, nothing but a text that cannot be judged ends the dealing with it. -/
theorem settle_error {blob : String} (h : (s.settle k blob w).result = .error stop) :
    s.Blames k.faults stop ∨ ∃ e, judge k.now blob = .error e ∧ stop = .escape e := by
  have hevict (w : World)
      (h : ((do s.erase k.faults; return none : Action (Option Credential)) w).result =
        .error stop) : s.Blames k.faults stop := by
    rw [Action.bind_result] at h
    cases herase : (s.erase k.faults w).result with
    | ok u =>
      rw [herase] at h
      cases h
    | error stop' =>
      rw [herase] at h
      cases h
      exact erase_error herase
  unfold settle at h
  rw [Action.bind_result] at h
  cases hjudge : judge k.now blob with
  | error e =>
    rw [hjudge] at h
    cases h
    exact Or.inr ⟨e, rfl, rfl⟩
  | ok verdict =>
    rw [hjudge] at h
    cases verdict with
    | usable c => cases h
    | unreadable issues => exact Or.inl (hevict w h)
    | expired c => exact Or.inl (hevict w h)

theorem get_error (h : (s.get k w).result = .error stop) :
    s.Blames k.faults stop ∨
      ∃ blob e, w.slot = some blob ∧ judge k.now blob = .error e ∧ stop = .escape e := by
  unfold get at h
  rw [Action.bind_result] at h
  cases hread : (s.read k.faults w).result with
  | error stop' =>
    obtain ⟨fault, hfault, rfl⟩ := read_error hread
    rw [hread] at h
    cases h
    exact Or.inl ⟨.read, fault, .read hfault, rfl⟩
  | ok found =>
    have hfound : found = w.slot := read_found hread
    rw [hread] at h
    cases found with
    | none => cases h
    | some blob =>
      rcases settle_error h with hblamed | ⟨e, hjudge, rfl⟩
      · exact Or.inl hblamed
      · exact Or.inr ⟨blob, e, hfound.symm, hjudge, rfl⟩

/-- A run that failed was refused by the keyring, and has left the slot as it was. -/
def RefusedCleanly {α : Type} (s : Store) (faults : Faults) (w : World) (ran : Ran α) : Prop :=
  ∀ f, ran.result = .error (.failure f) → s.Blames faults (.failure f) ∧
    f.code = FailureKind.store.code ∧ ran.world.slot = w.slot

theorem get_refused (s : Store) (k : Conditions) (w : World) :
    s.RefusedCleanly k.faults w (s.get k w) := by
  intro f hf
  have hblamed : s.Blames k.faults (.failure f) := by
    rcases get_error hf with hblamed | ⟨blob, e, -, -, hescape⟩
    · exact hblamed
    · cases hescape
  have hslot : (s.get k w).world.slot = w.slot := by
    have hgot := s.get_got k w
    rw [hf] at hgot
    generalize (s.get k w).world.slot = after at hgot
    cases hgot with
    | refused => rfl
  exact ⟨hblamed, hblamed.code, hslot⟩

theorem set_refused (s : Store) (k : Conditions) (c : Credential GivenText) (w : World) :
    s.RefusedCleanly k.faults w (s.set k c w) := by
  intro f hf
  have hblamed : s.Blames k.faults (.failure f) := by
    rcases set_error hf with hblamed | ⟨e, -, hescape⟩
    · exact hblamed
    · cases hescape
  have hslot : (s.set k c w).world.slot = w.slot := by
    rcases set_cases s k c w with ⟨_, -, hdone, -⟩ | ⟨stop, -, -, hslot⟩
    · cases hf.symm.trans hdone
    · exact hslot
  exact ⟨hblamed, hblamed.code, hslot⟩

theorem erase_refused (s : Store) (faults : Faults) (w : World) :
    s.RefusedCleanly faults w (s.erase faults w) := by
  intro f hf
  have hblamed : s.Blames faults (.failure f) := erase_error hf
  have hslot : (s.erase faults w).world.slot = w.slot := by
    rcases erase_cases s faults w with ⟨hdone, -⟩ | ⟨stop, -, -, hslot⟩
    · cases hf.symm.trans hdone
    · exact hslot
  exact ⟨hblamed, hblamed.code, hslot⟩

theorem set_done {c : Credential GivenText} (h : (s.set k c w).result = .ok ()) :
    ∃ written : Credential, c = written ∧ (s.set k c w).world.slot = some written.blob := by
  rcases set_cases s k c w with ⟨written, hc, -, hslot⟩ | ⟨stop, hstop, -⟩
  · exact ⟨written, hc, hslot⟩
  · cases h.symm.trans hstop

theorem erase_done (h : (s.erase faults w).result = .ok ()) :
    (s.erase faults w).world.slot = none := by
  rcases erase_cases s faults w with ⟨-, hslot⟩ | ⟨stop, hstop, -⟩
  · exact hslot
  · cases h.symm.trans hstop

end Store

/-- What an operation without an own failure does where the store fails: it reports that
failure and leaves the slot as it was. -/
def HandsOn {α : Type} (f : Failure) (w : World) (failed : Failure → α) (ran : Ran α) : Prop :=
  ran.result = .ok (failed f) ∧ ran.world.slot = w.slot

namespace Account

variable {c : Client} {k : Conditions} {w : World} {f : Failure}

theorem logout_of_refused (h : (c.store.delete k w).result = .error (.failure f)) :
    HandsOn f w Outcome.failed (logout c k w) := by
  have hresult : (logout c k w).result = .ok (.failed f) :=
    Action.attempted_of_failure (f := reportLogout) h
  have hrefused := c.store.erase_refused k.faults w f h
  exact ⟨hresult, (logout_slot c k w).trans hrefused.2.2⟩

theorem token_of_refused (h : (c.store.get k w).result = .error (.failure f)) :
    HandsOn f w TokenOutcome.failed (token c k w) := by
  have hresult : (token c k w).result = .ok (.failed f) :=
    Action.attempted_of_failure (f := reportToken) h
  have hrefused := c.store.get_refused k w f h
  exact ⟨hresult, (token_slot c k w).trans hrefused.2.2⟩

theorem user_of_refused (h : (c.store.get k w).result = .error (.failure f)) :
    HandsOn f w UserOutcome.failed (user c k w) := by
  have hresult : (user c k w).result = .ok (.failed f) :=
    Action.attempted_of_failure (f := reportUser) h
  have hrefused := c.store.get_refused k w f h
  exact ⟨hresult, (user_slot c k w).trans hrefused.2.2⟩

section Unstored

variable {url identifier password : String} {granted : Login × Credential GivenText}
  (hgranted : (obtain c k.now url identifier password w).result = .ok granted)
include hgranted

theorem establish_of_unset {stop : Stop}
    (h : (c.store.set k granted.2 (obtain c k.now url identifier password w).world).result =
      .error stop) :
    (establish c k url identifier password w).result = .error stop := by
  unfold establish keep
  rw [Action.bind_result, hgranted]
  show ((c.store.set k granted.2 >>= fun _ => Pure.pure granted) _).result = _
  rw [Action.bind_of_error _ h]

/-- A login that is granted and cannot be stored has failed. -/
theorem login_of_refused
    (h : (c.store.set k granted.2 (obtain c k.now url identifier password w).world).result =
      .error (.failure f)) :
    HandsOn f w LoginOutcome.failed (Account.login c k url identifier password w) := by
  have hrefused := c.store.set_refused k granted.2 _ f h
  have hresult : (Account.login c k url identifier password w).result = .ok (.failed f) := by
    have hreported := Action.attempted_of_failure (f := reportLogin)
      (establish_of_unset hgranted h)
    obtain ⟨request, fault, -, hf⟩ := hrefused.1
    cases hf
    exact hreported
  have hslot : (Account.login c k url identifier password w).world.slot = w.slot := by
    rcases login_cases c k url identifier password w with
      ⟨login, credential, -, hran, -⟩ | ⟨hslot, -⟩
    · cases hresult.symm.trans hran
    · exact hslot
  exact ⟨hresult, hslot⟩

/-- A login whose tokens cannot be written is not reported, and the slot is left as it was. -/
theorem login_of_unwritable {e : Escape} (h : granted.2.writable = .error e) :
    (Account.login c k url identifier password w).result = .error (.escape e) ∧
      (Account.login c k url identifier password w).world.slot = w.slot := by
  have hset : (c.store.set k granted.2 (obtain c k.now url identifier password w).world).result =
      .error (.escape e) := by
    rw [Store.set_of_unwritable h]
    rfl
  have hresult : (Account.login c k url identifier password w).result = .error (.escape e) :=
    Action.attempted_of_escape (establish_of_unset hgranted hset)
  rcases login_cases c k url identifier password w with
    ⟨login, credential, -, hran, -⟩ | ⟨hslot, -⟩
  · cases hresult.symm.trans hran
  · exact ⟨hresult, hslot⟩

end Unstored

end Account

namespace Lobby

variable {c : Client} {k : Conditions} {w : World} {f : Failure}

theorem create_of_refused (url : String) (config : TableConfig)
    (h : (c.store.get k w).result = .error (.failure f)) :
    HandsOn f w CreateOutcome.failed (create c k url config w) := by
  have hresult : (create c k url config w).result = .ok (.failed f) := by
    rw [create_eq, Action.attempted_of_failure h]
    show (createWith c (.fail f) url config _).result = _
    rw [createWith_fail]
    rfl
  have hrefused := c.store.get_refused k w f h
  exact ⟨hresult, (create_slot c k url config w).trans hrefused.2.2⟩

theorem join_of_refused (url tableId : String) (buyIn : Value)
    (h : (c.store.get k w).result = .error (.failure f)) :
    HandsOn f w (JoinOutcome.failed · tableId) (join c k url tableId buyIn w) := by
  have hresult : (join c k url tableId buyIn w).result = .ok (.failed f tableId) := by
    rw [join_eq, Action.attempted_of_failure h]
    show (joinWith c (.fail f) url tableId buyIn _).result = _
    rw [joinWith_fail]
    rfl
  have hrefused := c.store.get_refused k w f h
  exact ⟨hresult, (join_slot c k url tableId buyIn w).trans hrefused.2.2⟩

/-- What the log says of a credential that cannot be had. -/
def ignored (f : Failure) : LogEntry where
  level := .warning
  area := .lobby
  message := s!"Ignoring unreadable credential ({f.message}), continuing unauthenticated"

/-- Where the store fails, the tables are listed without a token. -/
theorem list_of_refused (url : String) (h : (c.store.get k w).result = .error (.failure f)) :
    list c k url w = (listWith c none url (c.store.get k w).world).after
      ((c.store.get k w).trail ++ { entries := [ignored f] }) := by
  have hattempt : ((c.store.get k).attempt w).result = .ok (.error f) := by
    rw [Action.attempt_eq, h]
    rfl
  have hlogged (w : World) : (tokenIfAny (.error f) >>= fun token => listWith c token url) w =
      (listWith c none url w).after { entries := [ignored f] } := by
    unfold tokenIfAny
    dsimp only
    rw [bind_assoc]
    simp only [pure_bind]
    exact Action.bind_eq_after (x := Action.log _ _ _) (a := ()) _ rfl
  rw [list_eq, Action.bind_eq_after _ hattempt, hlogged, Ran.after_after, Action.attempt_eq]

end Lobby

/-- What the faults of the keyring come to in the accesses of a store. -/
structure Store.FaultsContained (s : Store) (k : Conditions) (w : World) : Prop where
  get : s.RefusedCleanly k.faults w (s.get k w)
  set : ∀ credential, s.RefusedCleanly k.faults w (s.set k credential w)
  delete : s.RefusedCleanly k.faults w (s.delete k w)
  /-- Nothing of the keyring escapes from a read, only what the text in the slot gives rise to. -/
  get_escape : ∀ e, (s.get k w).result = .error (.escape e) →
    ∃ blob, w.slot = some blob ∧ judge k.now blob = .error e
  /-- Nothing of the keyring escapes from a write, only what keeps a credential from being
  written. -/
  set_escape : ∀ credential e, (s.set k credential w).result = .error (.escape e) →
    credential.writable = .error e
  delete_escape : ∀ e, (s.delete k w).result ≠ .error (.escape e)
  set_done : ∀ credential, (s.set k credential w).result = .ok () →
    ∃ written : Credential, credential = written ∧
      (s.set k credential w).world.slot = some written.blob
  delete_done : (s.delete k w).result = .ok () → (s.delete k w).world.slot = none
  /-- The keyring may well say that there was nothing to delete. -/
  delete_absent : w.slot = none →
    (∀ fault, k.faults.erase = some fault → fault.nothingToDelete = true) →
    k.faults.confirm = none → (s.delete k w).result = .ok ()

theorem Store.faultsContained (s : Store) (k : Conditions) (w : World) :
    s.FaultsContained k w where
  get := s.get_refused k w
  set credential := s.set_refused k credential w
  delete := s.erase_refused k.faults w
  get_escape := by
    intro e he
    rcases get_error he with hblamed | ⟨blob, e', hslot, hjudge, hstop⟩
    · exact absurd hblamed (not_blames_escape e)
    · cases hstop
      exact ⟨blob, hslot, hjudge⟩
  set_escape := by
    intro credential e he
    rcases set_error he with hblamed | ⟨e', hwritable, hstop⟩
    · exact absurd hblamed (not_blames_escape e)
    · cases hstop
      exact hwritable
  delete_escape := by
    intro e he
    exact not_blames_escape e (erase_error he)
  set_done _ := set_done
  delete_done := erase_done
  delete_absent := erase_absent

/-- What the faults of the keyring come to in the operations of a client. -/
structure FaultsReported (c : Client) (k : Conditions) (w : World) : Prop where
  store : c.store.FaultsContained k w
  logout_done : ∀ o, (Account.logout c k w).result = .ok o → o.success = true →
    (Account.logout c k w).world.slot = none
  logout : ∀ f, (c.store.delete k w).result = .error (.failure f) →
    HandsOn f w Outcome.failed (Account.logout c k w)
  token : ∀ f, (c.store.get k w).result = .error (.failure f) →
    HandsOn f w TokenOutcome.failed (Account.token c k w)
  user : ∀ f, (c.store.get k w).result = .error (.failure f) →
    HandsOn f w UserOutcome.failed (Account.user c k w)
  create : ∀ f url config, (c.store.get k w).result = .error (.failure f) →
    HandsOn f w CreateOutcome.failed (Lobby.create c k url config w)
  join : ∀ f url tableId buyIn, (c.store.get k w).result = .error (.failure f) →
    HandsOn f w (JoinOutcome.failed · tableId) (Lobby.join c k url tableId buyIn w)
  login : ∀ f url identifier password granted,
    (Account.obtain c k.now url identifier password w).result = .ok granted →
    (c.store.set k granted.2 (Account.obtain c k.now url identifier password w).world).result =
      .error (.failure f) →
    HandsOn f w LoginOutcome.failed (Account.login c k url identifier password w)
  /-- Listing goes on as without a credential. -/
  list : ∀ f url, (c.store.get k w).result = .error (.failure f) →
    Lobby.list c k url w = (Lobby.listWith c none url (c.store.get k w).world).after
      ((c.store.get k w).trail ++ { entries := [Lobby.ignored f] })

theorem keyring_faults_reported (c : Client) (k : Conditions) (w : World) :
    FaultsReported c k w where
  store := c.store.faultsContained k w
  logout_done _ := Account.slot_of_logout
  logout _ := Account.logout_of_refused
  token _ := Account.token_of_refused
  user _ := Account.user_of_refused
  create _ := Lobby.create_of_refused
  join _ := Lobby.join_of_refused
  login _ _ _ _ _ := Account.login_of_refused
  list _ := Lobby.list_of_refused

/-- A text that is no credential is to be removed; the keyring says that there was nothing
to delete, and refuses the read that is to confirm it. -/
example :
    let s : Store := { kind := .keyring }
    let locked : KeyringFault := { nothingToDelete := false, message := "locked" }
    let absent : KeyringFault := { nothingToDelete := true, message := "none" }
    let k : Conditions :=
      { now := .ofUtc default, faults := { erase := some absent, confirm := some locked } }
    let w : World := { slot := some "?", answers := [], otherwise := .gaveUp "ReadError" "" }
    (s.get k w).result = .error (.failure (.secretStore .read s.label "locked")) ∧
      (s.get k w).world.slot = some "?" := ⟨rfl, rfl⟩

end PokerClient
