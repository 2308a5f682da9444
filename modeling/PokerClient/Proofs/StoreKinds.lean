import PokerClient.Session
import PokerClient.Proofs.Likeness

/-!
# Stores of either kind

Where the keyring refuses nothing, a session that keeps its slot there and one that
keeps it in memory cannot be told apart, whatever is put into the slot. Only the calls
of the secret store are peculiar to the keyring.
-/

namespace PokerClient

open Http Json Time Validation

/-- What came of an action, but for the calls of the secret store. -/
def Ran.withoutCalls {α : Type} (r : Ran α) : Ran α :=
  { r with trail := { r.trail with calls := [] } }

/-- The same worlds, and trails with the same requests and entries. -/
def Likeness.uncalled : Likeness where
  worlds := Eq
  trails t t' := t.requests = t'.requests ∧ t.entries = t'.entries
  refl _ := ⟨rfl, rfl⟩
  append := by
    intro s s' t t' hs ht
    simp [hs.1, hs.2, ht.1, ht.2]

theorem RunsAlike.withoutCalls_eq {α : Type} {r r' : Ran α} (h : RunsAlike .uncalled Eq r r') :
    r.withoutCalls = r'.withoutCalls := by
  obtain ⟨hresult, hworld, hrequests, hentries⟩ := h
  have hworld' : r.world = r'.world := hworld
  unfold Ran.withoutCalls
  simp only [hresult.eq, hworld', hrequests, hentries]

/-- Any action does the same twice. -/
theorem Alike.self {α : Type} (x : Action α) : Alike .uncalled Eq x x := by
  intro w w' hw
  cases hw
  exact ⟨EndsAlike.refl _, rfl, rfl, rfl⟩

/-- What comes after alike beginnings may be the very same. -/
theorem Alike.andThen {α β : Type} {x y : Action α} (hx : Alike .uncalled Eq x y)
    (f : α → Action β) : Alike .uncalled Eq (x >>= f) (y >>= f) := by
  refine hx.bind fun a b hab => ?_
  rw [hab]
  exact self (f b)

theorem Alike.attempt_eq {α : Type} {x y : Action α} (hx : Alike .uncalled Eq x y) :
    Alike .uncalled Eq x.attempt y.attempt := hx.attempt.mono fun _ _ h => h.eq

namespace Store

/-- The same store, kept in memory. -/
def inMemory (s : Store) : Store := { s with kind := .memory }

variable (s : Store) {k : Conditions} (hfaults : k.faults = {})

theorem read_inMemory : Alike .uncalled Eq (s.read {}) (s.inMemory.read {}) := by
  obtain ⟨kind, service, account, policy⟩ := s
  cases kind with
  | memory => exact Alike.self _
  | keyring =>
    intro w w' hw
    cases hw
    exact ⟨.ok rfl, rfl, rfl, rfl⟩

theorem write_inMemory (blob : String) :
    Alike .uncalled Eq (s.write {} blob) (s.inMemory.write {} blob) := by
  obtain ⟨kind, service, account, policy⟩ := s
  cases kind with
  | memory => exact Alike.self _
  | keyring =>
    intro w w' hw
    cases hw
    exact ⟨.ok rfl, rfl, rfl, rfl⟩

/-- The keyring objects to the deletion of nothing; the read that follows sets it right. -/
theorem erase_inMemory : Alike .uncalled Eq (s.erase {}) (s.inMemory.erase {}) := by
  obtain ⟨kind, service, account, policy⟩ := s
  cases kind with
  | memory => exact Alike.self _
  | keyring =>
    intro w w' hw
    cases hw
    obtain ⟨slot, answers, otherwise⟩ := w
    cases slot with
    | none => exact ⟨.ok rfl, rfl, rfl, rfl⟩
    | some blob => exact ⟨.ok rfl, rfl, rfl, rfl⟩

include hfaults

theorem settle_inMemory (blob : String) :
    Alike .uncalled Eq (s.settle k blob) (s.inMemory.settle k blob) := by
  have hevict : Alike .uncalled Eq (do s.erase k.faults; return none : Action (Option Credential))
      (do s.inMemory.erase k.faults; return none) := by
    rw [hfaults]
    exact s.erase_inMemory.andThen _
  unfold settle
  refine (Alike.self _).bind fun verdict verdict' hverdict => ?_
  cases hverdict
  cases verdict with
  | usable c => exact Alike.self _
  | unreadable issues => exact (Alike.self _).bind fun _ _ _ => hevict
  | expired c => exact (Alike.self _).bind fun _ _ _ => hevict

theorem get_inMemory : Alike .uncalled Eq (s.get k) (s.inMemory.get k) := by
  have hread : Alike .uncalled Eq (s.read k.faults) (s.inMemory.read k.faults) := by
    rw [hfaults]
    exact s.read_inMemory
  refine hread.bind fun found found' hfound => ?_
  cases hfound
  cases found with
  | none => exact Alike.self _
  | some blob => exact s.settle_inMemory hfaults blob

theorem set_inMemory (c : Credential GivenText) :
    Alike .uncalled Eq (s.set k c) (s.inMemory.set k c) := by
  unfold set
  rw [hfaults]
  refine (Alike.self _).bind fun written written' hwritten => ?_
  cases hwritten
  exact s.write_inMemory written.blob

theorem delete_inMemory : Alike .uncalled Eq (s.delete k) (s.inMemory.delete k) := by
  unfold delete
  rw [hfaults]
  exact s.erase_inMemory

end Store

/-- The same client, with its store in memory. -/
def Client.inMemory (c : Client) : Client := { c with store := c.store.inMemory }

namespace Session

theorem perform_inMemory (c : Client) {k : Conditions} (hfaults : k.faults = {}) (url : String)
    (command : Command) :
    Alike .uncalled Eq (perform c k url command) (perform c.inMemory k url command) := by
  have hget : Alike .uncalled Eq (c.store.get k) (c.inMemory.store.get k) :=
    c.store.get_inMemory hfaults
  have hdelete : Alike .uncalled Eq (c.store.delete k) (c.inMemory.store.delete k) :=
    c.store.delete_inMemory hfaults
  have hset (credential : Credential GivenText) :
      Alike .uncalled Eq (c.store.set k credential) (c.inMemory.store.set k credential) :=
    c.store.set_inMemory hfaults credential
  cases command with
  | login identifier password =>
    have hkeep (granted : Login × Credential GivenText) :
        Alike .uncalled Eq (Account.keep c k granted) (Account.keep c.inMemory k granted) :=
      (hset granted.2).andThen _
    have hestablish : Alike .uncalled Eq (Account.establish c k url identifier password)
        (Account.establish c.inMemory k url identifier password) := by
      refine (Alike.self (Account.obtain c k.now url identifier password)).bind ?_
      intro granted granted' hgranted
      cases hgranted
      exact hkeep granted
    exact (hestablish.attempt_eq.andThen _).andThen _
  | logout => exact (hdelete.attempt_eq.andThen _).andThen _
  | token => exact (hget.attempt_eq.andThen _).andThen _
  | user => exact (hget.attempt_eq.andThen _).andThen _
  | list => exact ((hget.attempt_eq.andThen _).andThen _).andThen _
  | create v =>
    refine (Alike.self _).bind fun config config' hconfig => ?_
    cases hconfig
    exact ((((hget.andThen _).andThen _).attempt_eq).andThen _).andThen _
  | join tableId buyIn => exact ((((hget.andThen _).andThen _).attempt_eq).andThen _).andThen _
  | check watch => exact Alike.self _
  | get => exact hget.andThen _
  | set v =>
    refine (Alike.self _).bind fun credential credential' hcredential => ?_
    cases hcredential
    exact (hset credential).andThen _
  | delete => exact hdelete.andThen _
  | put slot => exact Alike.self _
  | advance span => exact Alike.self _

/-- The same session, over a store of a given kind. -/
def withKind (s : Session) (kind : StoreKind) : Session :=
  { s with client := { s.client with store := { s.client.store with kind } } }

variable {s : Session} {step : SessionStep}

theorem run_memory (kind : StoreKind) (hfaults : step.faults = {}) :
    ((s.withKind kind).run step).withoutCalls =
      ((s.withKind .memory).run step).withoutCalls := by
  have halike := perform_inMemory (s.withKind kind).client
    (k := (s.withKind kind).conditions step) hfaults step.url step.command
  exact (halike _ _ rfl).withoutCalls_eq

theorem after_withKind (kind : StoreKind) (hfaults : step.faults = {}) :
    (s.withKind kind).after step = ((s.withKind .memory).after step).withKind kind := by
  have hworld := congrArg Ran.world (run_memory (s := s) kind hfaults)
  have hslot : ((s.withKind kind).run step).world.slot =
      ((s.withKind .memory).run step).world.slot := congrArg World.slot hworld
  unfold after
  rw [hslot]
  rfl

theorem runAll_memory (s : Session) (kind : StoreKind) (steps : List SessionStep)
    (hfaults : ∀ step ∈ steps, step.faults = {}) :
    ((s.withKind kind).runAll steps).map Ran.withoutCalls =
      ((s.withKind .memory).runAll steps).map Ran.withoutCalls := by
  induction steps generalizing s with
  | nil => rfl
  | cons step steps ih =>
    -- The next step starts from the same slot and clock again.
    have hstep := hfaults step List.mem_cons_self
    have hrun := run_memory (s := s) kind hstep
    have hafter := after_withKind (s := s) kind hstep
    have hrest := ih ((s.withKind .memory).after step) fun step' hstep' =>
      hfaults step' (List.mem_cons_of_mem _ hstep')
    rw [runAll, runAll, List.map_cons, List.map_cons, hrun, hafter, hrest]
    rfl

/-- Nothing but the calls of the secret store tells of what kind the store is. -/
theorem runAll_kind (s : Session) (kind kind' : StoreKind) (steps : List SessionStep)
    (hfaults : ∀ step ∈ steps, step.faults = {}) :
    ((s.withKind kind).runAll steps).map Ran.withoutCalls =
      ((s.withKind kind').runAll steps).map Ran.withoutCalls := by
  have hkind := s.runAll_memory kind steps hfaults
  have hkind' := s.runAll_memory kind' steps hfaults
  exact hkind.trans hkind'.symm

/-- A deletion of nothing, a text that is no credential, and a logout after it was removed. -/
theorem runAll_kind_of_unreadable :
    let s : Session :=
      { client := { store := {}, settings := .standard }
        now := .ofUtc default, slot := none, otherwise := .gaveUp "ReadError" "" }
    let steps : List SessionStep :=
      [{ command := .delete, url := "" }, { command := .put (some "?"), url := "" },
        { command := .list, url := "https://poker.test" }, { command := .logout, url := "" }]
    (∀ step ∈ steps, step.faults = {}) ∧
      ((s.withKind .keyring).runAll steps).map (fun r => r.trail.calls) =
        [[.erase, .read], [], [.read, .erase], [.erase, .read]] ∧
      ((s.withKind .keyring).runAll steps).map Ran.withoutCalls =
        ((s.withKind .memory).runAll steps).map Ran.withoutCalls := by
  intro s steps
  have hfaults : ∀ step ∈ steps, step.faults = {} := by simp [steps]
  exact ⟨hfaults, by decide +kernel, s.runAll_kind .keyring .memory steps hfaults⟩

end Session
end PokerClient
