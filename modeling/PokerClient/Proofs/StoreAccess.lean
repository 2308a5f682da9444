import PokerClient.Store
import PokerClient.Proofs.Footprint

/-!
# Accesses to the slot

Each access to the secret slot either does its work or ends with a failure of the
secret store and leaves the slot as it was. From this follows all that a read of
the credential can come to, whatever text is in the slot.
-/

namespace PokerClient

open Time Validation

namespace Store

variable {s : Store} {k : Conditions} {faults : Faults} {w : World} {blob : String}

/-- A text that stands for a credential whose time is still to come. -/
def Usable (now : Moment) (blob : String) (c : Credential) : Prop :=
  Credential.ofBlob blob = .ok (.valid c) ∧
    ∃ n, now.instant? = some n ∧ n < (c.expiresAt.micros : Int)

/-- A text that stands for no credential, or for one whose time has come. -/
def Worthless (now : Moment) (blob : String) : Prop :=
  (∃ issues, Credential.ofBlob blob = .ok (.invalid issues)) ∨
    ∃ c n, Credential.ofBlob blob = .ok (.valid c) ∧ now.instant? = some n ∧
      (c.expiresAt.micros : Int) ≤ n

theorem Usable.not_worthless {now : Moment} {c : Credential} (h : Usable now blob c) :
    ¬ Worthless now blob := by
  obtain ⟨hb, n, hn, hlt⟩ := h
  rintro (⟨issues, hi⟩ | ⟨c', m, hb', hm, hle⟩)
  · cases hb.symm.trans hi
  · cases hb.symm.trans hb'
    cases hn.symm.trans hm
    omega

theorem judge_eq (now : Moment) (blob : String) :
    judge now blob = match Credential.ofBlob blob with
      | .error e => .error e
      | .ok (.invalid issues) => .ok (.unreadable issues.length)
      | .ok (.valid c) => (c.isUsable now).map fun b => if b then .usable c else .expired c := by
  unfold judge
  rcases Credential.ofBlob blob with e | c | issues
  · rfl
  · simp only [bind, Except.bind, pure, Except.pure]
    cases c.isUsable now <;> rfl
  · rfl

/-- What a verdict says of the text that was judged. -/
theorem judge_sound {now : Moment} {v : Verdict} (h : judge now blob = .ok v) :
    match v with
      | .usable c => Usable now blob c
      | _ => Worthless now blob := by
  rw [judge_eq] at h
  rcases hb : Credential.ofBlob blob with e | c | issues
  · simp [hb] at h
  · simp only [hb] at h
    cases hu : c.isUsable now with
    | error e => simp [hu, Except.map] at h
    | ok b =>
      obtain ⟨n, hn, hlt⟩ := Credential.isUsable_eq_ok_iff.1 hu
      simp only [hu, Except.map, Except.ok.injEq] at h
      subst h
      cases b with
      | true => exact ⟨hb, n, hn, of_decide_eq_true hlt.symm⟩
      | false => exact Or.inr ⟨c, n, hb, hn, Int.not_lt.1 (of_decide_eq_false hlt.symm)⟩
  · simp only [hb, Except.ok.injEq] at h
    subst h
    exact Or.inl ⟨issues, hb⟩

/-- The failure of an access to the slot. -/
def IsRefusal (s : Store) (r : Stop) : Prop :=
  ∃ request reason, r = .failure (.secretStore request s.label reason)

theorem read_obeys (L : Law) (s : Store) (faults : Faults) (w : World) :
    L.Obeyed (s.read faults) w := by
  unfold read
  cases s.kind with
  | memory => exact Law.look
  | keyring =>
    refine Law.bind (Law.noteCall _) fun _ _ => ?_
    cases faults.read with
    | none => exact Law.look
    | some fault => exact Law.of_quiet (Quiet.fail _)

theorem read_result (s : Store) (faults : Faults) (w : World) :
    (s.read faults w).result = .ok w.slot ∨
      ∃ stop, (s.read faults w).result = .error stop ∧ s.IsRefusal stop := by
  unfold read
  cases s.kind with
  | memory => exact Or.inl rfl
  | keyring =>
    cases faults.read with
    | none => exact Or.inl rfl
    | some fault => exact Or.inr ⟨_, rfl, _, _, rfl⟩

theorem write_offline (s : Store) (faults : Faults) (blob : String) (w : World) :
    Law.offline.Obeyed (s.write faults blob) w := by
  unfold write
  cases s.kind with
  | memory => exact ⟨rfl, rfl, rfl⟩
  | keyring => cases faults.write <;> exact ⟨rfl, rfl, rfl⟩

/-- A write fills the slot or leaves it as it was. -/
theorem write_cases (s : Store) (faults : Faults) (blob : String) (w : World) :
    (s.write faults blob w).result = .ok () ∧ (s.write faults blob w).world.slot = some blob ∨
      ∃ stop, (s.write faults blob w).result = .error stop ∧ s.IsRefusal stop ∧
        (s.write faults blob w).world.slot = w.slot := by
  unfold write
  cases s.kind with
  | memory => exact Or.inl ⟨rfl, rfl⟩
  | keyring =>
    cases faults.write with
    | none => exact Or.inl ⟨rfl, rfl⟩
    | some fault => exact Or.inr ⟨_, rfl, ⟨_, _, rfl⟩, rfl⟩

theorem set_of_writable {c : Credential GivenText} {c' : Credential} (h : c.writable = .ok c') :
    s.set k c = s.write k.faults c'.blob := by
  unfold set
  rw [h]
  exact pure_bind _ _

/-- A credential that cannot be written is not even handed to the keyring. -/
theorem set_of_unwritable {c : Credential GivenText} {e : Escape} (h : c.writable = .error e) :
    s.set k c = Action.escape e := by
  unfold set
  rw [h]
  funext w
  exact Action.bind_of_error _ rfl

theorem set_offline (s : Store) (k : Conditions) (c : Credential GivenText) (w : World) :
    Law.offline.Obeyed (s.set k c) w :=
  Law.bind (Law.of_quiet (Quiet.ofEscape _)) fun _ _ => write_offline _ _ _ _

/-- A credential is stored in its written form, or else the slot is left as it was. -/
theorem set_cases (s : Store) (k : Conditions) (c : Credential GivenText) (w : World) :
    (∃ c' : Credential, c = c' ∧ (s.set k c w).result = .ok () ∧
      (s.set k c w).world.slot = some c'.blob) ∨
    ∃ stop, (s.set k c w).result = .error stop ∧
      (s.IsRefusal stop ∨ ∃ e, c.writable = .error e ∧ stop = .escape e) ∧
      (s.set k c w).world.slot = w.slot := by
  cases hc : c.writable with
  | error e =>
    rw [set_of_unwritable hc]
    exact Or.inr ⟨_, rfl, Or.inr ⟨e, rfl, rfl⟩, rfl⟩
  | ok c' =>
    rw [set_of_writable hc]
    rcases write_cases s k.faults c'.blob w with ⟨hr, hs⟩ | ⟨stop, hr, href, hs⟩
    · exact Or.inl ⟨c', Credential.writable_eq_ok_iff.1 hc, hr, hs⟩
    · exact Or.inr ⟨stop, hr, Or.inl href, hs⟩

theorem confirmErased_obeys (L : Law) (s : Store) (faults : Faults) (reason : String) (w : World) :
    L.Obeyed (s.confirmErased faults reason) w := by
  refine Law.bind (read_obeys L s faults.afterErase w) fun found _ => ?_
  cases found
  · exact Law.of_quiet (Quiet.pure _)
  · exact Law.of_quiet (Quiet.fail _)

/-- An empty slot is taken to be erased, and no other. -/
theorem confirmErased_result (s : Store) (faults : Faults) (reason : String) (w : World) :
    (s.confirmErased faults reason w).result = .ok () ∧ w.slot = none ∨
      ∃ stop, (s.confirmErased faults reason w).result = .error stop ∧ s.IsRefusal stop := by
  unfold confirmErased
  rw [Action.bind_result]
  rcases read_result s faults.afterErase w with hr | ⟨stop, hr, hs⟩
  · rw [hr]
    cases w.slot with
    | none => exact Or.inl ⟨rfl, rfl⟩
    | some blob => exact Or.inr ⟨_, rfl, _, _, rfl⟩
  · rw [hr]
    exact Or.inr ⟨stop, rfl, hs⟩

theorem erase_offline (s : Store) (faults : Faults) (w : World) :
    Law.offline.Obeyed (s.erase faults) w := by
  unfold erase
  cases s.kind with
  | memory => exact ⟨rfl, rfl, rfl⟩
  | keyring =>
    refine Law.bind (Law.noteCall _) fun _ _ => ?_
    cases faults.erase with
    | some fault =>
      dsimp only
      split
      · exact confirmErased_obeys _ s faults _ _
      · exact Law.of_quiet (Quiet.fail _)
    | none =>
      refine Law.bind Law.look fun found _ => ?_
      cases found with
      | some blob => exact ⟨rfl, rfl, rfl⟩
      | none => exact confirmErased_obeys _ s faults _ _

/-- Erasing empties the slot or leaves it as it was. -/
theorem erase_cases (s : Store) (faults : Faults) (w : World) :
    (s.erase faults w).result = .ok () ∧ (s.erase faults w).world.slot = none ∨
      ∃ stop, (s.erase faults w).result = .error stop ∧ s.IsRefusal stop ∧
        (s.erase faults w).world.slot = w.slot := by
  have hconfirm (reason : String) :
      (s.confirmErased faults reason w).result = .ok () ∧
          (s.confirmErased faults reason w).world.slot = none ∨
        ∃ stop, (s.confirmErased faults reason w).result = .error stop ∧ s.IsRefusal stop ∧
          (s.confirmErased faults reason w).world.slot = w.slot := by
    have hslot : (s.confirmErased faults reason w).world.slot = w.slot :=
      confirmErased_obeys Law.keepsSlot s faults reason w
    rcases confirmErased_result s faults reason w with ⟨hr, hw⟩ | ⟨stop, hr, hs⟩
    · exact Or.inl ⟨hr, hslot.trans hw⟩
    · exact Or.inr ⟨stop, hr, hs, hslot⟩
  unfold erase
  cases s.kind with
  | memory => exact Or.inl ⟨rfl, rfl⟩
  | keyring =>
    dsimp only
    rw [Action.bind_of_ok (a := ()) _ rfl]
    cases faults.erase with
    | some fault =>
      dsimp only
      split
      · exact hconfirm fault.message
      · exact Or.inr ⟨_, rfl, ⟨_, _, rfl⟩, rfl⟩
    | none =>
      dsimp only
      rw [Action.bind_of_ok (a := w.slot) _ rfl]
      cases hw : w.slot with
      | some blob => exact Or.inl ⟨rfl, rfl⟩
      | none =>
        have h := hconfirm "Password not found"
        rwa [hw] at h

/-- What a read of the credential comes to, and what it leaves in the slot. -/
inductive Got (s : Store) (now : Moment) (slot : Option String) :
    Except Stop (Option Credential) → Option String → Prop
  | empty (h : slot = none) : Got s now slot (.ok none) none
  | usable {blob : String} {c : Credential} (h : slot = some blob) (hc : Usable now blob c) :
      Got s now slot (.ok (some c)) slot
  | evicted {blob : String} (h : slot = some blob) (hw : Worthless now blob) :
      Got s now slot (.ok none) none
  | refused {stop : Stop} (hs : s.IsRefusal stop) : Got s now slot (.error stop) slot
  | escaped {blob : String} {e : Escape} (h : slot = some blob) (he : judge now blob = .error e) :
      Got s now slot (.error (.escape e)) slot

theorem evict_got (s : Store) (k : Conditions) (hs : w.slot = some blob)
    (hw : Worthless k.now blob) :
    Got s k.now w.slot ((do s.erase k.faults; return none : Action (Option Credential)) w).result
      ((do s.erase k.faults; return none : Action (Option Credential)) w).world.slot := by
  rcases erase_cases s k.faults w with ⟨hr, he⟩ | ⟨stop, hr, hstop, he⟩
  · rw [Action.bind_of_ok _ hr]
    have hn : Got s k.now w.slot (.ok none) none := .evicted hs hw
    rwa [← he] at hn
  · rw [Action.bind_of_error _ hr, he]
    exact .refused hstop

theorem settle_got (s : Store) (k : Conditions) (hs : w.slot = some blob) :
    Got s k.now w.slot (s.settle k blob w).result (s.settle k blob w).world.slot := by
  unfold settle
  cases hj : judge k.now blob with
  | error e =>
    rw [Action.bind_of_error (x := Action.ofEscape _) _ rfl]
    exact .escaped hs hj
  | ok v =>
    rw [Action.bind_of_ok (x := Action.ofEscape _) (a := v) _ rfl]
    have hv := judge_sound hj
    cases v with
    | usable c => exact .usable hs hv
    | unreadable issues =>
      dsimp only
      rw [Action.bind_of_ok (x := Action.log _ _ _) (a := ()) _ rfl]
      exact evict_got s k hs hv
    | expired c =>
      dsimp only
      rw [Action.bind_of_ok (x := Action.log _ _ _) (a := ()) _ rfl]
      exact evict_got s k hs hv

/-- All that a read of the credential can come to. -/
theorem get_got (s : Store) (k : Conditions) (w : World) :
    Got s k.now w.slot (s.get k w).result (s.get k w).world.slot := by
  have hslot : (s.read k.faults w).world.slot = w.slot := read_obeys Law.keepsSlot s k.faults w
  unfold get
  rcases read_result s k.faults w with hr | ⟨stop, hr, hstop⟩
  · rw [Action.bind_of_ok _ hr]
    cases hw : w.slot with
    | none =>
      have hn : (s.read k.faults w).world.slot = none := hslot.trans hw
      show Got s k.now none (.ok none) (s.read k.faults w).world.slot
      rw [hn]
      exact .empty rfl
    | some blob =>
      have h := settle_got s k (hslot.trans hw)
      rwa [hslot, hw] at h
  · rw [Action.bind_of_error _ hr]
    show Got s k.now w.slot (.error stop) (s.read k.faults w).world.slot
    rw [hslot]
    exact .refused hstop

theorem get_offline (s : Store) (k : Conditions) (w : World) : Law.offline.Obeyed (s.get k) w := by
  have hevict (w : World) : Law.offline.Obeyed
      (do s.erase k.faults; return none : Action (Option Credential)) w :=
    Law.bind (erase_offline s k.faults w) fun _ _ => Law.of_quiet (Quiet.pure _)
  refine Law.bind (read_obeys _ s k.faults w) fun found _ => ?_
  cases found with
  | none => exact Law.of_quiet (Quiet.pure _)
  | some blob =>
    refine Law.bind (Law.of_quiet (Quiet.ofEscape _)) fun verdict _ => ?_
    cases verdict with
    | usable c => exact Law.of_quiet (Quiet.pure _)
    | unreadable issues => exact Law.bind (Law.of_quiet (Quiet.log _ _ _)) fun _ _ => hevict _
    | expired c => exact Law.bind (Law.of_quiet (Quiet.log _ _ _)) fun _ _ => hevict _

/-- A read changes nothing in the world but the slot. -/
theorem get_world (s : Store) (k : Conditions) (w : World) :
    (s.get k w).world = w.withSlot (s.get k w).world.slot := by
  obtain ⟨-, hanswers, hotherwise⟩ := s.get_offline k w
  generalize (s.get k w).world = after at hanswers hotherwise
  obtain ⟨slot, answers, otherwise⟩ := after
  cases hanswers
  cases hotherwise
  rfl

end Store
end PokerClient
