import PokerClient.Numeric.Binary64

/-!
# Rounding to the nearest number

A ratio is rounded on the grid of the numbers around it. Rounding keeps the order, also
from one grid to the next coarser one, and leaves the points of its grid where they are.
-/

namespace PokerClient
namespace Numeric

theorem twoTo_add (m n : Nat) : twoTo (m + n) = twoTo m * twoTo n := Nat.pow_add 2 m n

theorem twoTo_mono {m n : Nat} (h : m ≤ n) : twoTo m ≤ twoTo n :=
  Nat.pow_le_pow_right (by decide) h

/-! ## Rounding to an integer -/

section HalfEven

variable {num num' den k : Nat}

/-- A ratio and the integer it is rounded to are at most a half apart. -/
theorem roundHalfEven_bracket (num : Nat) (hden : 0 < den) :
    2 * (den * roundHalfEven num den) ≤ 2 * num + den ∧
      2 * num ≤ 2 * (den * roundHalfEven num den) + den := by
  have hsplit := Nat.div_add_mod num den
  have hrest := Nat.mod_lt num hden
  have hsucc : den * (num / den + 1) = den * (num / den) + den := Nat.mul_succ _ _
  unfold roundHalfEven
  dsimp only
  split
  · omega
  · split
    · omega
    · split <;> omega

theorem roundHalfEven_mono (hden : 0 < den) (h : num ≤ num') :
    roundHalfEven num den ≤ roundHalfEven num' den := by
  obtain ⟨hle, -⟩ := roundHalfEven_bracket num hden
  obtain ⟨-, hge⟩ := roundHalfEven_bracket num' hden
  apply Nat.le_of_not_lt
  intro hlt
  have hstep := Nat.mul_le_mul_left den (Nat.succ_le_of_lt hlt)
  rw [Nat.mul_succ] at hstep
  have hsame : num = num' := by omega
  rw [hsame] at hlt
  exact Nat.lt_irrefl _ hlt

theorem roundHalfEven_mul (hden : 0 < den) (k : Nat) : roundHalfEven (k * den) den = k := by
  unfold roundHalfEven
  dsimp only
  rw [Nat.mul_mod_left, Nat.mul_div_cancel k hden, if_pos (by omega)]

theorem le_roundHalfEven (hden : 0 < den) (h : k * den ≤ num) : k ≤ roundHalfEven num den := by
  calc k = roundHalfEven (k * den) den := (roundHalfEven_mul hden k).symm
    _ ≤ roundHalfEven num den := roundHalfEven_mono hden h

theorem roundHalfEven_le (hden : 0 < den) (h : num ≤ k * den) : roundHalfEven num den ≤ k := by
  calc roundHalfEven num den ≤ roundHalfEven (k * den) den := roundHalfEven_mono hden h
    _ = k := roundHalfEven_mul hden k

end HalfEven

/-! ## Rounding to a number -/

namespace Binary64

theorem lt_twoTo_scaleOf (n : Nat) : n < twoTo (53 + scaleOf n) := by
  have hlog : n < 2 ^ (n.log2 + 1) := Nat.lt_log2_self
  refine Nat.lt_of_lt_of_le hlog (twoTo_mono ?_)
  unfold scaleOf
  omega

theorem twoTo_scaleOf_le {n : Nat} (h : 0 < scaleOf n) : twoTo (52 + scaleOf n) ≤ n := by
  have hpos : n ≠ 0 := by
    rintro rfl
    exact absurd h (by decide)
  have hscale : 52 + scaleOf n = n.log2 := by
    unfold scaleOf at *
    omega
  rw [hscale]
  exact Nat.log2_self_le hpos

theorem scaleOf_le {n e : Nat} (h : n < twoTo (53 + e)) : scaleOf n ≤ e := by
  apply Nat.le_of_not_lt
  intro hlt
  have hlow := twoTo_scaleOf_le (n := n) (by omega)
  have hmono : twoTo (53 + e) ≤ twoTo (52 + scaleOf n) := twoTo_mono (by omega)
  omega

theorem scaleOf_mono {m n : Nat} (h : m ≤ n) : scaleOf m ≤ scaleOf n :=
  scaleOf_le (Nat.lt_of_le_of_lt h (lt_twoTo_scaleOf n))

/-- The units of the value nearest to a ratio of units, with its significand on the grid
of its scale. -/
def nearestUnits (num den : Nat) : Nat :=
  roundHalfEven num (den * twoTo (scaleOf (num / den))) * twoTo (scaleOf (num / den))

section Nearest

variable {num num' den : Nat}

theorem significand_le (num : Nat) (hden : 0 < den) :
    roundHalfEven num (den * twoTo (scaleOf (num / den))) ≤ twoTo 53 := by
  have hlt := lt_twoTo_scaleOf (num / den)
  have hnum : num < twoTo (53 + scaleOf (num / den)) * den := (Nat.div_lt_iff_lt_mul hden).1 hlt
  refine roundHalfEven_le (Nat.mul_pos hden (twoTo_pos _)) (Nat.le_of_lt ?_)
  rwa [twoTo_add, Nat.mul_assoc, Nat.mul_comm (twoTo _) den] at hnum

theorem le_significand (hden : 0 < den) (h : 0 < scaleOf (num / den)) :
    twoTo 52 ≤ roundHalfEven num (den * twoTo (scaleOf (num / den))) := by
  have hle := twoTo_scaleOf_le h
  have hnum : twoTo (52 + scaleOf (num / den)) * den ≤ num := (Nat.le_div_iff_mul_le hden).1 hle
  refine le_roundHalfEven (Nat.mul_pos hden (twoTo_pos _)) ?_
  rwa [twoTo_add, Nat.mul_assoc, Nat.mul_comm (twoTo _) den] at hnum

theorem nearestUnits_mono (hden : 0 < den) (h : num ≤ num') :
    nearestUnits num den ≤ nearestUnits num' den := by
  have hscale : scaleOf (num / den) ≤ scaleOf (num' / den) := scaleOf_mono (Nat.div_le_div_right h)
  unfold nearestUnits
  rcases Nat.eq_or_lt_of_le hscale with heq | hlt
  · rw [heq]
    exact Nat.mul_le_mul_right _ (roundHalfEven_mono (Nat.mul_pos hden (twoTo_pos _)) h)
  -- On a coarser grid the least significand is already past the whole of the finer grid.
  · calc roundHalfEven num (den * twoTo (scaleOf (num / den))) * twoTo (scaleOf (num / den))
        ≤ twoTo 53 * twoTo (scaleOf (num / den)) :=
          Nat.mul_le_mul_right _ (significand_le num hden)
      _ = twoTo (53 + scaleOf (num / den)) := (twoTo_add _ _).symm
      _ ≤ twoTo (52 + scaleOf (num' / den)) := twoTo_mono (by omega)
      _ = twoTo 52 * twoTo (scaleOf (num' / den)) := twoTo_add _ _
      _ ≤ _ := Nat.mul_le_mul_right _ (le_significand hden (by omega))

/-- A point of the grid that is not above the ratio is not above its nearest value. -/
theorem le_nearestUnits (hden : 0 < den) {k : Nat}
    (h : k * twoTo (scaleOf (num / den)) * den ≤ num) :
    k * twoTo (scaleOf (num / den)) ≤ nearestUnits num den := by
  refine Nat.mul_le_mul_right _ (le_roundHalfEven (Nat.mul_pos hden (twoTo_pos _)) ?_)
  rwa [Nat.mul_assoc, Nat.mul_comm (twoTo _)] at h

/-- The nearest value is at most half a step of the grid away. -/
theorem nearestUnits_le (num : Nat) (hden : 0 < den) :
    2 * (den * nearestUnits num den) ≤ 2 * num + den * twoTo (scaleOf (num / den)) := by
  have hbracket :=
    (roundHalfEven_bracket num (Nat.mul_pos hden (twoTo_pos (scaleOf (num / den))))).1
  rwa [Nat.mul_assoc den, Nat.mul_comm (twoTo _)] at hbracket

/-- Within the range of the format a ratio is rounded to the value nearest to it. -/
theorem units?_ofUnits (negative : Bool) (hden : 0 < den) (hsmall : num / den < twoTo 2097) :
    (ofUnits negative num den).units? = some (if negative then -(nearestUnits num den : Int)
      else (nearestUnits num den : Int)) := by
  have hscale : scaleOf (num / den) ≤ 2044 := scaleOf_le hsmall
  have hle := significand_le num hden
  unfold ofUnits
  dsimp only
  by_cases hfull : roundHalfEven num (den * twoTo (scaleOf (num / den))) = twoTo 53
  · have hcanonical : Canonical (twoTo 52) (scaleOf (num / den) + 1) :=
      ⟨by decide, Or.inr (Nat.le_refl _), by omega⟩
    have hunits : twoTo 52 * twoTo (scaleOf (num / den) + 1) = nearestUnits num den := by
      unfold nearestUnits
      rw [hfull, ← twoTo_add, ← twoTo_add]
      congr 1
      omega
    rw [if_pos hfull]
    unfold pack
    rw [dif_pos hcanonical]
    unfold units?
    dsimp only
    rw [hunits]
  · have hcanonical : Canonical (roundHalfEven num (den * twoTo (scaleOf (num / den))))
        (scaleOf (num / den)) := by
      refine ⟨by omega, ?_, by omega⟩
      rcases Nat.eq_zero_or_pos (scaleOf (num / den)) with hzero | hpos
      · exact Or.inl hzero
      · exact Or.inr (le_significand hden hpos)
    rw [if_neg hfull]
    unfold pack
    rw [dif_pos hcanonical]
    rfl

end Nearest

end Binary64
end Numeric
end PokerClient
