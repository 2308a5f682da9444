import PokerClient.Proofs.CredentialText
import PokerClient.Proofs.KeyringFaults

/-!
# Listing without a credential

A credential can be missing in many ways: the slot is empty, its text is worthless, or
the keyring refuses to have the text read or removed. To the listing of the tables they
are all one. It asks, and hears, what it would over an empty slot.
-/

namespace PokerClient

open Http Json Time

/-- A read yields no credential: it finds none or the store fails. -/
def Store.Missing (s : Store) (k : Conditions) (w : World) : Prop :=
  (s.get k w).result = .ok none ∨ ∃ f, (s.get k w).result = .error (.failure f)

/-- Nothing is missed in an empty slot that can be read. -/
theorem Store.missing_of_empty (s : Store) (now : Moment) {w : World} (hslot : w.slot = none) :
    s.Missing { now } w := by
  left
  unfold get
  rw [Action.bind_result]
  rcases s.read_result {} w with hread | ⟨stop, hread, -⟩
  · rw [hread, hslot]
    rfl
  · obtain ⟨fault, hfault, -⟩ := read_error hread
    cases hfault

namespace Lobby

variable {c : Client} {k : Conditions} {w : World}

theorem list_of_none (url : String) (h : (c.store.get k w).result = .ok none) :
    list c k url w =
      (listWith c none url (c.store.get k w).world).after (c.store.get k w).trail := by
  have hattempt : ((c.store.get k).attempt w).result = .ok (.ok none) := by
    rw [Action.attempt_eq, h]
    rfl
  have htoken : (tokenIfAny (.ok none) >>= fun token => listWith c token url) =
      listWith c none url := pure_bind _ _
  rw [list_eq, Action.bind_eq_after _ hattempt, htoken, Action.attempt_eq]

/-- Without a credential the tables are listed without a token, after something that sends
nothing. -/
theorem list_of_missing (url : String) (h : c.store.Missing k w) :
    ∃ t : Trail, t.requests = [] ∧
      list c k url w = (listWith c none url (c.store.get k w).world).after t := by
  have hread : (c.store.get k w).trail.requests = [] := (c.store.get_offline k w).1
  rcases h with hnone | ⟨f, hfails⟩
  · exact ⟨_, hread, list_of_none url hnone⟩
  · refine ⟨_, ?_, list_of_refused url hfails⟩
    rw [Trail.requests_append, hread]
    rfl

theorem list_asIf (url : String) (h : c.store.Missing k w) :
    AsIf (list c k url) (listWith c none url) w (c.store.get k w).world.slot := by
  obtain ⟨t, ht, hlist⟩ := list_of_missing url h
  rw [c.store.get_world k w, listWith_slotless c none url] at hlist
  refine ⟨?_, ?_, ?_⟩
  · rw [hlist]
    rfl
  · rw [hlist]
    rfl
  · rw [hlist]
    show t.requests ++ (listWith c none url w).trail.requests = _
    rw [ht, List.nil_append]

/-- A listing that finds no credential ends like one over an empty slot and sends the same
requests, whatever store the slot belongs to. -/
theorem list_degrades (c : Client) (k : Conditions) (url : String) (w : World)
    (hmissing : c.store.Missing k w) (s : Store) (now : Moment) :
    let anonymous := list { c with store := s } { now } url (w.withSlot none)
    (list c k url w).result = anonymous.result ∧
      (list c k url w).trail.requests = anonymous.trail.requests ∧
      (list c k url w).world.answers = anonymous.world.answers := by
  intro anonymous
  have hlist := list_asIf url hmissing
  have hempty : AsIf (list { c with store := s } { now } url) (listWith c none url)
      (w.withSlot none) _ := list_asIf url (s.missing_of_empty now rfl)
  have hanonymous := listWith_slotless c none url w none
  refine ⟨?_, ?_, ?_⟩
  · rw [hlist.result, hempty.result, hanonymous]
    rfl
  · rw [hlist.requests, hempty.requests, hanonymous]
    rfl
  · rw [hlist.world, hempty.world, hanonymous]
    rfl

/-- An expired credential that the keyring does not let go of. -/
theorem list_degrades_of_stuck :
    let expired : Credential := { accessToken := "a", refreshToken := "r", expiresAt := default }
    let c : Client := { store := { kind := .keyring }, settings := .standard }
    let k : Conditions :=
      { now := .ofUtc default
        faults := { erase := some { nothingToDelete := false, message := "locked" } } }
    let w : World :=
      { slot := some expired.blob, answers := [], otherwise := .gaveUp "ReadError" "" }
    let anonymous := list { c with store := {} } { now := k.now } "https://poker.test"
      (w.withSlot none)
    c.store.Missing k w ∧
      (list c k "https://poker.test" w).result = anonymous.result ∧
      (list c k "https://poker.test" w).trail.requests = anonymous.trail.requests ∧
      (list c k "https://poker.test" w).world.answers = anonymous.world.answers := by
  intro expired c k w anonymous
  have hjudge : Store.judge k.now expired.blob = .ok (.expired expired) := by
    rw [Store.judge_eq, expired.ofBlob_blob]
    rfl
  have hmissing : c.store.Missing k w := by
    refine Or.inr ⟨.secretStore .erase c.store.label "locked", ?_⟩
    unfold Store.get
    rw [Action.bind_result]
    show (c.store.settle k expired.blob _).result = _
    unfold Store.settle
    rw [hjudge]
    rfl
  exact ⟨hmissing, list_degrades c k _ w hmissing {} k.now⟩

end Lobby
end PokerClient
