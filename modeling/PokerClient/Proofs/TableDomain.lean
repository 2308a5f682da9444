import PokerClient.Proofs.WireForms

/-!
# The domain of table configurations

The checks refuse a configuration when one number lies below another. A number without a
place, which is neither below nor above any other, gets past such a refusal, but not past
the bound that every number has by itself. So the bounds hold of what is accepted as they
stand, and whatever keeps to them is accepted as it is written.
-/

namespace PokerClient

open Json Numeric Validation

namespace Numeric.Binary64

variable {x y : Binary64}

theorem isNaN_of_lt (h : x < y) : x.isNaN = false ∧ y.isNaN = false := by
  obtain ⟨a, b, hx, hy, -⟩ := (lt_iff x y).1 h
  constructor
  · cases x with
    | nan => cases hx
    | infinite | finite => rfl
  · cases y with
    | nan => cases hy
    | infinite | finite => rfl

theorem isNaN_of_le (h : x ≤ y) : y.isNaN = false := by
  obtain ⟨a, b, -, hy, -⟩ := (le_iff x y).1 h
  cases y with
  | nan => cases hy
  | infinite | finite => rfl

theorem exists_position (h : x.isNaN = false) : ∃ a, x.position = some a := by
  cases x with
  | nan => cases h
  | infinite | finite => exact ⟨_, rfl⟩

/-- Numbers that have a place are in order one way or the other. -/
theorem not_lt_iff_le (hx : x.isNaN = false) (hy : y.isNaN = false) : ¬ y < x ↔ x ≤ y := by
  obtain ⟨a, ha⟩ := exists_position hx
  obtain ⟨b, hb⟩ := exists_position hy
  simp [lt_iff, le_iff, ha, hb]

theorem lt_of_lt_of_le {z : Binary64} (h : x < y) (h' : y ≤ z) : x < z := by
  obtain ⟨a, b, ha, hb, hab⟩ := (lt_iff x y).1 h
  obtain ⟨b', c, hb', hc, hbc⟩ := (le_iff y z).1 h'
  cases hb.symm.trans hb'
  exact (lt_iff x z).2 ⟨a, c, ha, hc, Int.lt_of_lt_of_le hab hbc⟩

end Numeric.Binary64

namespace TableConfig

/-- The amounts of chips of a configuration. -/
def amounts (c : TableConfig) : List Binary64 :=
  [c.smallBlind, c.bigBlind, c.minBuyIn, c.maxBuyIn, c.ante.number]

/-- A configuration of a table that can be played at. -/
structure Playable (c : TableConfig) : Prop where
  name : 1 ≤ c.name.length ∧ c.name.length ≤ 50
  players : 2 ≤ c.maxPlayers ∧ c.maxPlayers ≤ 10
  blinds : Binary64.zero < c.smallBlind ∧ c.smallBlind ≤ c.bigBlind
  buyIns : Binary64.zero < c.minBuyIn ∧ c.minBuyIn ≤ c.maxBuyIn
  ante : Binary64.zero ≤ c.ante.number
  timeBank : 0 ≤ c.timeBank
  amounts : ∀ x ∈ c.amounts, x.isNaN = false

variable {c : TableConfig}

theorem Bounded.playable (h : c.Bounded) : c.Playable where
  name := h.name
  players := h.players
  blinds := by
    have hsmall := (Binary64.isNaN_of_lt h.smallBlind).2
    have hbig := (Binary64.isNaN_of_lt h.bigBlind).2
    exact ⟨h.smallBlind, (Binary64.not_lt_iff_le hsmall hbig).1 h.blinds⟩
  buyIns := by
    have hmin := (Binary64.isNaN_of_lt h.minBuyIn).2
    have hmax := (Binary64.isNaN_of_lt h.maxBuyIn).2
    exact ⟨h.minBuyIn, (Binary64.not_lt_iff_le hmin hmax).1 h.buyIns⟩
  ante := h.ante
  timeBank := h.timeBank
  amounts := by
    have hsmall := (Binary64.isNaN_of_lt h.smallBlind).2
    have hbig := (Binary64.isNaN_of_lt h.bigBlind).2
    have hmin := (Binary64.isNaN_of_lt h.minBuyIn).2
    have hmax := (Binary64.isNaN_of_lt h.maxBuyIn).2
    have hante := Binary64.isNaN_of_le h.ante
    simp [TableConfig.amounts, hsmall, hbig, hmin, hmax, hante]

theorem Playable.bounded (h : c.Playable) : c.Bounded where
  name := h.name
  players := h.players
  smallBlind := h.blinds.1
  bigBlind := Binary64.lt_of_lt_of_le h.blinds.1 h.blinds.2
  minBuyIn := h.buyIns.1
  maxBuyIn := Binary64.lt_of_lt_of_le h.buyIns.1 h.buyIns.2
  ante := h.ante
  timeBank := h.timeBank
  blinds := by
    have hsmall := (Binary64.isNaN_of_lt h.blinds.1).2
    exact (Binary64.not_lt_iff_le hsmall (Binary64.isNaN_of_le h.blinds.2)).2 h.blinds.2
  buyIns := by
    have hmin := (Binary64.isNaN_of_lt h.buyIns.1).2
    exact (Binary64.not_lt_iff_le hmin (Binary64.isNaN_of_le h.buyIns.2)).2 h.buyIns.2

/-- The configurations that are let through are those of tables that can be played at. -/
structure DomainKept : Prop where
  checked : ∀ (v : Value) (c : TableConfig), check v = .valid c → c.Playable
  cashGame : ∀ (arguments : Fields) (c : TableConfig),
    CashGame.config arguments = .ok (.valid c) → c.Playable
  written : ∀ (c : TableConfig) (naming : Naming), c.Playable →
    ∃ c', check (c.dump naming) = .valid c' ∧ c.Same c'

theorem domain_kept : DomainKept where
  checked v _ h := Bounded.playable (Accepted.bounded (Or.inl ⟨v, h⟩))
  cashGame arguments _ h := Bounded.playable (Accepted.bounded (Or.inr ⟨arguments, h⟩))
  written c naming h := ⟨c.settled, h.bounded.check_dump naming, c.same_settled⟩

end TableConfig
end PokerClient
