import PokerClient.Policy
import PokerClient.Proofs.FieldChecks
import PokerClient.Proofs.Rounding

/-!
# The lifetime of a credential

An issued credential is usable until the validity is over. The whole seconds that are left
are cut from the floating point number nearest to the time that is left. That number may be
a whole second too late when the credential lasts for centuries, but never when less than
`2 ^ 33` seconds are left, as the numbers are then closer together than microseconds.
-/

namespace PokerClient

open Numeric Time

namespace Time

/-- The whole seconds of the number of seconds that is nearest to a count of microseconds. -/
def wholeSeconds (micros : Nat) : Nat :=
  Binary64.nearestUnits (micros * Binary64.unitsPerOne) microsPerSecond / Binary64.unitsPerOne

section WholeSeconds

variable {micros later : Nat}

theorem microsPerSecond_pos : 0 < microsPerSecond := by decide

theorem wholeSeconds_zero : wholeSeconds 0 = 0 := by decide +kernel

theorem unitsPerOne_eq : Binary64.unitsPerOne = twoTo 1074 := rfl

theorem unitsPerOne_pos : 0 < Binary64.unitsPerOne := twoTo_pos 1074

theorem wholeSeconds_mono (h : micros ≤ later) : wholeSeconds micros ≤ wholeSeconds later :=
  Nat.div_le_div_right
    (Binary64.nearestUnits_mono microsPerSecond_pos (Nat.mul_le_mul_right _ h))

/-- The scale of a span of less than `2 ^ 33` seconds. -/
theorem scaleOf_micros_le (h : micros < twoTo 33 * microsPerSecond) :
    Binary64.scaleOf (micros * Binary64.unitsPerOne / microsPerSecond) ≤ 1054 := by
  apply Binary64.scaleOf_le
  rw [Nat.div_lt_iff_lt_mul microsPerSecond_pos]
  calc micros * Binary64.unitsPerOne < twoTo 33 * microsPerSecond * Binary64.unitsPerOne :=
        Nat.mul_lt_mul_of_pos_right h unitsPerOne_pos
    _ = twoTo (53 + 1054) * microsPerSecond := by
        rw [Nat.mul_right_comm, unitsPerOne_eq, ← twoTo_add]

/-- The seconds that have passed are on the grid. -/
theorem le_nearestUnits_micros (h : micros < twoTo 33 * microsPerSecond) :
    micros / microsPerSecond * Binary64.unitsPerOne ≤
      Binary64.nearestUnits (micros * Binary64.unitsPerOne) microsPerSecond := by
  obtain ⟨scale, hscale⟩ : ∃ scale,
      scale = Binary64.scaleOf (micros * Binary64.unitsPerOne / microsPerSecond) := ⟨_, rfl⟩
  have hle : scale ≤ 1074 := by
    have hmicros := scaleOf_micros_le h
    omega
  obtain ⟨fine, hfine⟩ := Nat.exists_eq_add_of_le hle
  have hpoint : micros / microsPerSecond * Binary64.unitsPerOne =
      micros / microsPerSecond * twoTo fine * twoTo scale := by
    rw [unitsPerOne_eq, hfine, twoTo_add, Nat.mul_assoc, Nat.mul_comm (twoTo scale)]
  have hwhole : micros / microsPerSecond * Binary64.unitsPerOne * microsPerSecond ≤
      micros * Binary64.unitsPerOne := by
    rw [Nat.mul_right_comm]
    exact Nat.mul_le_mul_right _ (Nat.div_mul_le_self micros microsPerSecond)
  rw [hpoint, hscale] at hwhole
  rw [hpoint, hscale]
  exact Binary64.le_nearestUnits microsPerSecond_pos hwhole

/-- The last microsecond of a second is further away from the next second than half a
step of the grid. -/
theorem nearestUnits_micros_lt (h : micros < twoTo 33 * microsPerSecond) :
    Binary64.nearestUnits (micros * Binary64.unitsPerOne) microsPerSecond <
      (micros / microsPerSecond + 1) * Binary64.unitsPerOne := by
  have hscale := twoTo_mono (scaleOf_micros_le h)
  have hstep : microsPerSecond * twoTo 1054 < Binary64.unitsPerOne := by
    calc microsPerSecond * twoTo 1054 < twoTo 20 * twoTo 1054 :=
          Nat.mul_lt_mul_of_pos_right (by decide) (twoTo_pos 1054)
      _ = Binary64.unitsPerOne := by rw [unitsPerOne_eq, ← twoTo_add]
  have hhalf := Binary64.nearestUnits_le (micros * Binary64.unitsPerOne) microsPerSecond_pos
  have hcoarse := Nat.mul_le_mul_left microsPerSecond hscale
  have hnext : micros + 1 ≤ (micros / microsPerSecond + 1) * microsPerSecond :=
    Nat.lt_mul_of_div_lt (Nat.lt_succ_self _) microsPerSecond_pos
  have hunits := Nat.mul_le_mul_right Binary64.unitsPerOne hnext
  rw [Nat.add_mul micros, Nat.one_mul, Nat.mul_right_comm,
    Nat.mul_comm _ microsPerSecond] at hunits
  refine Nat.lt_of_mul_lt_mul_left (a := microsPerSecond) ?_
  omega

/-- With less than `2 ^ 33` seconds nothing is lost or gained by rounding. -/
theorem wholeSeconds_eq (h : micros < twoTo 33 * microsPerSecond) :
    wholeSeconds micros = micros / microsPerSecond :=
  Nat.div_eq_of_lt_le (le_nearestUnits_micros h) (nearestUnits_micros_lt h)

theorem wholeSeconds_pos_iff : 0 < wholeSeconds micros ↔ microsPerSecond ≤ micros := by
  constructor
  · intro hpos
    apply Nat.le_of_not_lt
    intro hlt
    have hsmall : micros < twoTo 33 * microsPerSecond := Nat.lt_trans hlt (by decide)
    rw [wholeSeconds_eq hsmall, Nat.div_eq_of_lt hlt] at hpos
    exact Nat.lt_irrefl 0 hpos
  · intro hle
    calc 0 < wholeSeconds microsPerSecond := by
          rw [wholeSeconds_eq (by decide)]
          decide
      _ ≤ wholeSeconds micros := wholeSeconds_mono hle

end WholeSeconds

/-- The seconds of a span are cut towards zero, if there are not too many of them to count. -/
theorem Span.seconds_eq (s : Span) (h : s.micros.natAbs < twoTo 63) :
    s.seconds = if s.micros < 0 then -(wholeSeconds s.micros.natAbs : Int)
      else (wholeSeconds s.micros.natAbs : Int) := by
  have hsmall : s.micros.natAbs * Binary64.unitsPerOne / microsPerSecond < twoTo 2097 := by
    calc s.micros.natAbs * Binary64.unitsPerOne / microsPerSecond
        ≤ s.micros.natAbs * Binary64.unitsPerOne := Nat.div_le_self _ _
      _ < twoTo 63 * Binary64.unitsPerOne := Nat.mul_lt_mul_of_pos_right h unitsPerOne_pos
      _ = twoTo (63 + 1074) := by rw [unitsPerOne_eq, ← twoTo_add]
      _ ≤ twoTo 2097 := twoTo_mono (by decide)
  unfold seconds Binary64.ofRatio Binary64.truncate?
  rw [Binary64.units?_ofUnits _ microsPerSecond_pos hsmall, Option.map_some, Option.getD_some]
  unfold wholeSeconds
  by_cases hneg : s.micros < 0
  · rw [decide_eq_true hneg, if_pos rfl, if_pos hneg, Int.neg_tdiv, Int.ofNat_tdiv]
  · rw [decide_eq_false hneg, if_neg Bool.false_ne_true, if_neg hneg, Int.ofNat_tdiv]

/-- The last microseconds before a second are lost when there are centuries to go. -/
example : wholeSeconds 315537897599999999 = 315537897600 := by decide +kernel

/-- A clock shows an instant if it is placed, less than a day from universal time. -/
def Moment.Shows (m : Moment) (n : Int) : Prop :=
  m.instant? = some n ∧ ∀ o, m.offset = some o → o.micros.natAbs < microsPerDay

/-- The clocks of the calendar are at most a day ahead of its end or behind its start. -/
theorem Moment.Shows.bounds {m : Moment} {n : Int} (h : m.Shows n) :
    -(microsPerDay : Int) < n ∧ n < ((dayLimit * microsPerDay + microsPerDay : Nat) : Int) := by
  obtain ⟨hn, hoffset⟩ := h
  obtain ⟨o, ho, rfl⟩ := Option.map_eq_some_iff.1 hn
  have hday := hoffset o ho
  have hwall := m.wall.micros_lt
  unfold microsPerDay microsPerSecond dayLimit at *
  omega

end Time

namespace Credential

/-- What is said of the whole seconds that are left until an expiry. -/
structure Left (expiry now left : Int) : Prop where
  nonneg : 0 ≤ left
  pos_iff : 0 < left ↔ now + microsPerSecond ≤ expiry
  spent : expiry ≤ now → left = 0
  floor : expiry - now < (twoTo 33 * microsPerSecond : Nat) →
    left = max 0 ((expiry - now) / microsPerSecond)

/-- A credential lasts until an expiry: it is usable just as long, and the seconds that are
left fall as the clock goes on. -/
structure Lasts {Token : Type} (c : Credential Token) (expiry : Int) : Prop where
  usable : ∀ {m : Moment} {now : Int}, m.Shows now → c.isUsable m = .ok (decide (now < expiry))
  left : ∀ {m : Moment} {now : Int}, m.Shows now →
    ∃ left, c.expiresIn m = .ok left ∧ Left expiry now left
  falls : ∀ {m m' : Moment} {now later left left' : Int}, m.Shows now → m'.Shows later →
    now ≤ later → c.expiresIn m = .ok left → c.expiresIn m' = .ok left' → left' ≤ left

variable {Token : Type} {c : Credential Token} {m : Moment} {now expiry : Int}

/-- The seconds that are left are those of the time up to the expiry, or none after it. -/
theorem expiresIn_eq (h : m.Shows now) :
    c.expiresIn m = .ok (wholeSeconds ((c.expiresAt.micros : Int) - now).toNat : Nat) := by
  obtain ⟨hfrom, hto⟩ := h.bounds
  have hexpiry := c.expiresAt.micros_lt
  have hrange : ((c.expiresAt.micros : Int) - now).natAbs < twoTo 63 := by
    have hlimit : dayLimit * microsPerDay + microsPerDay < twoTo 63 := by decide
    omega
  have hseconds := Span.seconds_eq ⟨(c.expiresAt.micros : Int) - now⟩ hrange
  unfold expiresIn
  rw [h.1]
  dsimp only at hseconds ⊢
  rw [hseconds]
  split
  · have hzero : ((c.expiresAt.micros : Int) - now).toNat = 0 := by omega
    have hmax (n : Nat) : max 0 (-(n : Int)) = 0 := by omega
    rw [hzero, wholeSeconds_zero, hmax]
    rfl
  · have habs : ((c.expiresAt.micros : Int) - now).natAbs =
        ((c.expiresAt.micros : Int) - now).toNat := by omega
    have hmax (n : Nat) : max 0 (n : Int) = n := by omega
    rw [habs, hmax]

theorem left_of_wholeSeconds (expiry now : Int) :
    Left expiry now (wholeSeconds (expiry - now).toNat : Nat) where
  nonneg := Int.natCast_nonneg _
  pos_iff := by
    rw [Int.natCast_pos, wholeSeconds_pos_iff]
    unfold microsPerSecond
    omega
  spent h := by
    have hzero : (expiry - now).toNat = 0 := by omega
    rw [hzero, wholeSeconds_zero]
    rfl
  floor h := by
    have hpos : 0 < twoTo 33 * microsPerSecond := by decide
    rw [wholeSeconds_eq (by omega)]
    unfold microsPerSecond
    omega

theorem lasts (c : Credential Token) : c.Lasts c.expiresAt.micros where
  usable h := isUsable_eq_ok_iff.2 ⟨_, h.1, rfl⟩
  left h := ⟨_, expiresIn_eq h, left_of_wholeSeconds _ _⟩
  falls := by
    intro m m' now later left left' h h' hle hleft hleft'
    cases (expiresIn_eq h).symm.trans hleft
    cases (expiresIn_eq h').symm.trans hleft'
    exact Int.ofNat_le.2 (wholeSeconds_mono (by omega))

end Credential

namespace Policy

/-- On a clock whose offset stays, an issued credential lasts until the validity is over. -/
theorem issued_lasts {Token : Type} {p : Policy} {now : Moment} {n : Int}
    {access refresh : Token} {c : Credential Token} (hnow : now.Shows n)
    (hfixed : now.clock = .fixed) (h : p.issue now access refresh = .ok c) :
    c.Lasts (n + p.validity.micros) := by
  obtain ⟨-, -, sum, hadd, hexpiry⟩ := issue_eq_ok h
  rw [← hexpiry _ (Moment.instant?_add?_fixed hfixed hadd hnow.1)]
  exact c.lasts

/-- A credential for a second and a half, issued on a clock half an hour behind universal
time. -/
theorem issued_lasts_of_behind :
    let p : Policy := { validity := ⟨1500000⟩ }
    let now : Moment := { wall := ⟨86399500000, by decide⟩, offset := some ⟨-1800000000⟩ }
    let c : Credential :=
      { accessToken := "a", refreshToken := "r", expiresAt := ⟨88201000000, by decide⟩ }
    now.Shows 88199500000 ∧ now.clock = .fixed ∧ p.issue now "a" "r" = .ok c ∧
      c.Lasts (88199500000 + 1500000) := by
  intro p now c
  have hnow : now.Shows 88199500000 := by
    refine ⟨by decide, ?_⟩
    intro o ho
    cases ho
    decide
  have hissue : p.issue now "a" "r" = .ok c := eq_ok_of_toOption (by decide +kernel)
  exact ⟨hnow, rfl, hissue, issued_lasts hnow rfl hissue⟩

end Policy
end PokerClient
