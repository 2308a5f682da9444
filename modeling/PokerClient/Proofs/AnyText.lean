import PokerClient.Proofs.WillingStore

/-!
# Any text in the slot

A text that stands for no credential counts as none, and is removed when it is read.
One kind of text is left out of this: that of a credential whose expiry, on its own
clock a time of the calendar, is none in universal time.
-/

namespace PokerClient

open Json Time Validation

namespace Time

theorem Timestamp.ofMicros?_eq_none_iff {n : Int} :
    ofMicros? n = none ↔ n < 0 ∨ ((dayLimit * microsPerDay : Nat) : Int) ≤ n := by
  cases n with
  | ofNat k =>
    by_cases h : k < dayLimit * microsPerDay
    · simp only [ofMicros?, h, dite_true, reduceCtorEq, false_iff, Int.ofNat_eq_natCast]
      omega
    · simp only [ofMicros?, h, dite_false, true_iff, Int.ofNat_eq_natCast]
      omega
  | negSucc k =>
    simp only [ofMicros?, true_iff]
    omega

/-- The clocks of universal time show all instants but those before and after the years
1 to 9999. -/
theorem Moment.toUtc?_eq_none_iff {m : Moment} :
    m.toUtc? = none ↔ ∃ n, m.instant? = some n ∧
      (n < 0 ∨ ((dayLimit * microsPerDay : Nat) : Int) ≤ n) := by
  obtain ⟨wall, offset, clock⟩ := m
  cases offset with
  | none => simp [toUtc?, instant?]
  | some o =>
    simp only [toUtc?, instant?, Timestamp.shift?, Option.getD_some, Option.map_some,
      Option.some.injEq, exists_eq_left']
    exact Timestamp.ofMicros?_eq_none_iff

end Time

namespace Credential

/-- A text with an expiry that is none in universal time, whatever else it says. -/
def OutOfReach (blob : String) : Prop :=
  ∃ fields m n, parse .strict blob.toList = .ok (.object fields) ∧
    required fields expiresAtName.accepted (moment false) = .valid m ∧ m.instant? = some n ∧
    (n < 0 ∨ ((dayLimit * microsPerDay : Nat) : Int) ≤ n)

theorem ofFields_eq_error_iff {Token : Type} {token : Reading Token} {wide : Bool}
    {fields : Fields} {e : Escape} :
    ofFields token wide fields = .error e ↔ e = .dateOutOfRange ∧
      ∃ m, required fields expiresAtName.accepted (moment wide) = .valid m ∧ m.toUtc? = none := by
  unfold ofFields
  cases required fields expiresAtName.accepted (moment wide) with
  | invalid issues => simp
  | valid m => cases hm : m.toUtc? <;> simp [hm, eq_comm]

/-- What reading a text escapes with. -/
theorem ofBlob_eq_error_iff {blob : String} {e : Escape} :
    ofBlob blob = .error e ↔ e = .dateOutOfRange ∧ OutOfReach blob := by
  unfold ofBlob OutOfReach
  cases parse .strict blob.toList with
  | error refusal => simp
  | ok v =>
    cases v with
    | object fields =>
      simp only [check, ofFields_eq_error_iff, Moment.toUtc?_eq_none_iff]
      simp
    | _ => simp [check]

end Credential

namespace Store

open Credential

variable {s : Store} {k : Conditions} {n : Int} {w : World} {blob : String}

theorem judge_eq_usable {now : Moment} {c : Credential} (h : Usable now blob c) :
    judge now blob = .ok (.usable c) := by
  obtain ⟨hblob, n, hn, hlt⟩ := h
  rw [judge_eq, hblob]
  dsimp only
  rw [isUsable_eq_ok_iff.2 ⟨n, hn, rfl⟩, decide_eq_true hlt]
  rfl

theorem judge_outOfReach (now : Moment) (h : OutOfReach blob) :
    judge now blob = .error .dateOutOfRange := by
  rw [judge_eq, ofBlob_eq_error_iff.2 ⟨rfl, h⟩]

/-- On a clock that is placed, nothing but an expiry out of reach keeps a text from being
judged. -/
theorem judge_eq_ok (hn : k.now.instant? = some n) (h : ¬ OutOfReach blob) :
    ∃ v, judge k.now blob = .ok v := by
  rw [judge_eq]
  rcases hblob : ofBlob blob with e | c | issues
  · exact absurd (ofBlob_eq_error_iff.1 hblob).2 h
  · dsimp only
    rw [isUsable_eq_ok_iff.2 ⟨n, hn, rfl⟩]
    exact ⟨_, rfl⟩
  · exact ⟨_, rfl⟩

/-- A text that is judged and not usable is removed. -/
theorem settle_worthless {v : Verdict} (hfaults : k.faults = {}) (hv : judge k.now blob = .ok v)
    (hunusable : ∀ c, ¬ Usable k.now blob c) :
    AsIf (s.settle k blob) (pure none) w none := by
  have herased : AsIf (do s.erase {}; return none : Action (Option Credential)) (pure none) w
      none := (erase_willing s w).bind fun _ => Slotless.of_quiet (Quiet.pure none)
  unfold settle
  rw [hv, hfaults]
  cases v with
  | usable c => exact absurd (judge_sound hv) (hunusable c)
  | unreadable issues =>
    refine AsIf.of_bind (z := Action.ofEscape _) (b := .unreadable issues) rfl rfl rfl ?_
    exact AsIf.of_bind (z := Action.log _ _ _) (b := ()) rfl rfl rfl herased
  | expired c =>
    refine AsIf.of_bind (z := Action.ofEscape _) (b := .expired c) rfl rfl rfl ?_
    exact AsIf.of_bind (z := Action.log _ _ _) (b := ()) rfl rfl rfl herased

/-- A read goes on with the text in the slot, if the keyring lets it be read. -/
theorem get_eq_settle (hfaults : k.faults = {}) (hslot : w.slot = some blob) :
    (s.get k w).result = (s.settle k blob w).result ∧
      (s.get k w).world = (s.settle k blob w).world := by
  obtain ⟨hresult, hworld⟩ := read_willing s w
  unfold get
  rw [hfaults, Action.bind_eq_after _ hresult, hworld, hslot]
  exact ⟨rfl, rfl⟩

theorem settle_usable {c : Credential} (hc : Usable k.now blob c) :
    s.settle k blob = pure (some c) := by
  unfold settle
  rw [judge_eq_usable hc]
  exact pure_bind _ _

theorem get_usable {c : Credential} (hfaults : k.faults = {}) (hslot : w.slot = some blob)
    (hc : Usable k.now blob c) :
    (s.get k w).result = .ok (some c) ∧ (s.get k w).world.slot = some blob := by
  obtain ⟨hresult, hworld⟩ := get_eq_settle (s := s) hfaults hslot
  have hsettle : s.settle k blob = pure (some c) := settle_usable hc
  rw [hresult, hworld, hsettle]
  exact ⟨rfl, hslot⟩

/-- A text with an expiry out of reach is neither read nor removed, whatever the clock. -/
theorem get_outOfReach (hfaults : k.faults = {}) (hslot : w.slot = some blob)
    (h : OutOfReach blob) :
    (s.get k w).result = .error (.escape .dateOutOfRange) ∧
      (s.get k w).world.slot = some blob := by
  obtain ⟨hresult, hworld⟩ := get_eq_settle (s := s) hfaults hslot
  have hsettle : s.settle k blob w = (Action.escape .dateOutOfRange) w := by
    unfold settle
    rw [judge_outOfReach k.now h]
    exact Action.bind_of_error _ rfl
  rw [hresult, hworld, hsettle]
  exact ⟨rfl, hslot⟩

theorem get_worthless (hfaults : k.faults = {}) (hn : k.now.instant? = some n)
    (hslot : w.slot = some blob) (hunusable : ∀ c, ¬ Usable k.now blob c)
    (h : ¬ OutOfReach blob) :
    (s.get k w).result = .ok none ∧ (s.get k w).world.slot = none := by
  obtain ⟨hresult, hworld⟩ := get_eq_settle (s := s) hfaults hslot
  obtain ⟨v, hv⟩ := judge_eq_ok hn h
  have hsettle : AsIf (s.settle k blob) (pure none) w none :=
    settle_worthless hfaults hv hunusable
  rw [hresult, hworld]
  exact ⟨hsettle.result, congrArg World.slot hsettle.world⟩

/-- What a read of the credential makes of the text in the slot. -/
structure TextRead (s : Store) (k : Conditions) (w : World) (blob : String) : Prop where
  usable : ∀ c, Usable k.now blob c →
    (s.get k w).result = .ok (some c) ∧ (s.get k w).world.slot = some blob
  outOfReach : OutOfReach blob →
    (s.get k w).result = .error (.escape .dateOutOfRange) ∧ (s.get k w).world.slot = some blob
  absent : (∀ c, ¬ Usable k.now blob c) → ¬ OutOfReach blob →
    (s.get k w).result = .ok none ∧ (s.get k w).world.slot = none

theorem get_text (hfaults : k.faults = {}) (hn : k.now.instant? = some n)
    (hslot : w.slot = some blob) : TextRead s k w blob where
  usable _ hc := get_usable hfaults hslot hc
  outOfReach h := get_outOfReach hfaults hslot h
  absent hunusable h := get_worthless hfaults hn hslot hunusable h

/-- A credential until midnight of the first day of the calendar, on a clock five hours
ahead of universal time. -/
def earliest : String :=
  "\x7b\"access_token\":\"a\",\"refresh_token\":\"r\"," ++
    "\"expires_at\":\"0001-01-01T00:00:00+05:00\"\x7d"

theorem earliest_outOfReach : OutOfReach earliest := by
  have hblob : (ofBlob earliest).toOption = none := by decide +kernel
  cases h : ofBlob earliest with
  | error e => exact (ofBlob_eq_error_iff.1 h).2
  | ok checked => simp [h, Except.toOption] at hblob

theorem get_text_of_earliest :
    let s : Store := { kind := .keyring }
    let k : Conditions := { now := { wall := default, offset := some 7200 } }
    let w : World := { slot := some earliest, answers := [], otherwise := .gaveUp "ReadError" "" }
    k.now.instant? = some (-7200000000) ∧ OutOfReach earliest ∧ TextRead s k w earliest := by
  intro s k w
  have hnow : k.now.instant? = some (-7200000000) := by decide
  exact ⟨hnow, earliest_outOfReach, get_text rfl hnow rfl⟩

/-- The text is no usable credential, and is neither read nor removed. -/
theorem get_keeps_earliest :
    let s : Store := {}
    let k : Conditions := { now := .ofUtc default }
    let w : World := { slot := some earliest, answers := [], otherwise := .gaveUp "ReadError" "" }
    k.faults = {} ∧ k.now.instant? = some 0 ∧ (∀ c, ¬ Usable k.now earliest c) ∧
      (∀ found, (s.get k w).result ≠ .ok found) ∧ (s.get k w).world.slot = some earliest := by
  intro s k w
  have hget : (s.get k w).result = .error (.escape .dateOutOfRange) ∧
      (s.get k w).world.slot = some earliest := get_outOfReach rfl rfl earliest_outOfReach
  refine ⟨rfl, rfl, ?_, ?_, hget.2⟩
  · rintro c ⟨hc, -⟩
    cases hc.symm.trans (ofBlob_eq_error_iff.2 ⟨rfl, earliest_outOfReach⟩)
  · intro found hfound
    cases hfound.symm.trans hget.1

end Store
end PokerClient
