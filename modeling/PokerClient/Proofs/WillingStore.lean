import PokerClient.Proofs.CredentialText
import PokerClient.Proofs.StoreAccess

/-!
# A store that refuses nothing

Where the keyring refuses no call, every access to the slot does its work. A read
of the credential is then decided by the clock alone, if the slot is empty or has
the written form of a credential.
-/

namespace PokerClient

open Json Time

/-- A credential as long as it is usable. -/
def held (now : Moment) (cell : Option Credential) : Option Credential :=
  cell.filter fun c => now.instant?.any fun n => n < (c.expiresAt.micros : Int)

section Held

variable {now : Moment} {n : Int} {c : Credential}

theorem held_some (hn : now.instant? = some n) (h : n < (c.expiresAt.micros : Int)) :
    held now (some c) = some c := by
  simp [held, hn, h]

theorem held_expired (hn : now.instant? = some n) (h : ¬ n < (c.expiresAt.micros : Int)) :
    held now (some c) = none := by
  rw [held, hn, Option.filter_some, Option.any_some, decide_eq_false h]
  rfl

end Held

namespace Store

variable {s : Store} {w : World}

theorem read_willing (s : Store) (w : World) :
    (s.read {} w).result = .ok w.slot ∧ (s.read {} w).world = w := by
  unfold read
  cases s.kind <;> exact ⟨rfl, rfl⟩

theorem erase_willing (s : Store) (w : World) : AsIf (s.erase {}) (pure ()) w none := by
  obtain ⟨kind, service, account, policy⟩ := s
  obtain ⟨slot, answers, otherwise⟩ := w
  cases kind with
  | memory => exact ⟨rfl, rfl, rfl⟩
  | keyring => cases slot <;> exact ⟨rfl, rfl, rfl⟩

theorem write_willing (s : Store) (blob : String) (w : World) :
    AsIf (s.write {} blob) (pure ()) w (some blob) := by
  unfold write
  cases s.kind <;> exact ⟨rfl, rfl, rfl⟩

theorem set_willing (s : Store) {k : Conditions} (hfaults : k.faults = {}) (c : Credential)
    (w : World) : AsIf (s.set k c) (pure ()) w (some c.blob) := by
  rw [set_of_writable (Credential.writable_given c), hfaults]
  exact write_willing s c.blob w

theorem delete_willing (s : Store) {k : Conditions} (hfaults : k.faults = {}) (w : World) :
    AsIf (s.delete k) (pure ()) w none := by
  unfold delete
  rw [hfaults]
  exact erase_willing s w

/-- On a clock that is placed, a credential in the slot is usable or expired. -/
theorem judge_blob (c : Credential) {now : Moment} {n : Int} (hn : now.instant? = some n) :
    judge now c.blob = .ok (if n < (c.expiresAt.micros : Int) then .usable c else .expired c) := by
  rw [judge_eq, c.ofBlob_blob]
  dsimp only
  rw [Credential.isUsable_eq_ok_iff.2 ⟨n, hn, rfl⟩]
  by_cases h : n < (c.expiresAt.micros : Int)
  · rw [if_pos h, decide_eq_true h]
    rfl
  · rw [if_neg h, decide_eq_false h]
    rfl

theorem settle_willing (s : Store) {k : Conditions} {n : Int} {c : Credential}
    (hfaults : k.faults = {}) (hn : k.now.instant? = some n) (hslot : w.slot = some c.blob) :
    AsIf (s.settle k c.blob) (pure (held k.now (some c))) w
      ((held k.now (some c)).map Credential.blob) := by
  have hjudge := judge_blob c hn
  unfold settle
  by_cases h : n < (c.expiresAt.micros : Int)
  · rw [if_pos h] at hjudge
    rw [hjudge, held_some hn h]
    refine ⟨rfl, ?_, rfl⟩
    show w = w.withSlot (some c.blob)
    rw [← hslot]
    rfl
  · rw [if_neg h] at hjudge
    rw [hjudge, held_expired hn h, hfaults]
    have herased : AsIf (do s.erase {}; return none : Action (Option Credential)) (pure none) w
        none := (erase_willing s w).bind fun _ => Slotless.of_quiet (Quiet.pure none)
    refine AsIf.of_bind (z := Action.ofEscape _) (b := .expired c) rfl rfl rfl ?_
    exact AsIf.of_bind (z := Action.log _ _ _) (b := ()) rfl rfl rfl herased

/-- A read yields the credential as long as it is usable, and leaves no other one. -/
theorem get_willing (s : Store) {k : Conditions} {n : Int} {cell : Option Credential}
    (hfaults : k.faults = {}) (hn : k.now.instant? = some n)
    (hslot : w.slot = cell.map Credential.blob) :
    AsIf (s.get k) (pure (held k.now cell)) w ((held k.now cell).map Credential.blob) := by
  obtain ⟨hresult, hworld⟩ := read_willing s w
  have hrequests : (s.read {} w).trail.requests = [] := (read_obeys Law.offline s {} w).1
  unfold get
  rw [hfaults]
  refine AsIf.of_bind hresult hworld hrequests ?_
  cases cell with
  | none =>
    rw [hslot]
    refine ⟨rfl, ?_, rfl⟩
    show w = w.withSlot none
    have hnone : w.slot = none := hslot
    rw [← hnone]
    rfl
  | some c =>
    rw [hslot]
    exact settle_willing s hfaults hn hslot

end Store
end PokerClient
