import PokerClient.Time.Rfc3339

/-!
# Digits that are read back

A number written with a fixed count of digits is read back from the front of a
text, whatever comes after it.
-/

namespace PokerClient
namespace Numeric

theorem isDigit_eq (c : Char) : isDigit c = c.isDigit := by
  unfold isDigit digitValue? Char.isDigit
  by_cases h : '0' ≤ c ∧ c ≤ '9'
  · rw [if_pos h]
    exact (decide_eq_true h).symm.trans (Bool.decide_and _ _)
  · rw [if_neg h]
    exact (decide_eq_false h).symm.trans (Bool.decide_and _ _)

theorem digitValue?_getD {c : Char} (h : isDigit c) :
    (digitValue? c).getD 0 = c.toNat - '0'.toNat := by
  unfold isDigit at h
  unfold digitValue? at *
  by_cases hc : '0' ≤ c ∧ c ≤ '9'
  · rw [if_pos hc]
    rfl
  · rw [if_neg hc] at h
    cases h

theorem natOfDigits_eq {cs : List Char} (h : ∀ c ∈ cs, isDigit c) :
    natOfDigits cs = Nat.ofDigitChars 10 cs 0 := by
  have hfold (n : Nat) :
      cs.foldl (fun n c => 10 * n + (digitValue? c).getD 0) n = Nat.ofDigitChars 10 cs n := by
    induction cs generalizing n with
    | nil => simp
    | cons c cs ih =>
      have hc := digitValue?_getD (h c (by simp))
      have hcs := ih fun d hd => h d (by simp [hd])
      rw [List.foldl_cons, hc, hcs, Nat.ofDigitChars_cons]
  exact hfold 0

theorem isDigit_digitsOfNat (n : Nat) : ∀ c ∈ digitsOfNat n, isDigit c := by
  intro c hc
  rw [isDigit_eq]
  exact Nat.isDigit_of_mem_toDigits (by decide) (by decide) hc

theorem isDigit_paddedDigits (width n : Nat) : ∀ c ∈ paddedDigits width n, isDigit c := by
  intro c hc
  rcases List.mem_append.1 hc with h | h
  · rw [(List.mem_replicate.1 h).2]
    decide
  · exact isDigit_digitsOfNat n c h

theorem natOfDigits_paddedDigits (width n : Nat) : natOfDigits (paddedDigits width n) = n := by
  rw [natOfDigits_eq (isDigit_paddedDigits width n), paddedDigits, Nat.ofDigitChars_append,
    Nat.ofDigitChars_replicate_zero, Nat.mul_zero]
  exact Nat.ofDigitChars_ten_toDigits

theorem length_paddedDigits {width n : Nat} (hw : 0 < width) (hn : n < tenTo width) :
    (paddedDigits width n).length = width := by
  have hle : (digitsOfNat n).length ≤ width := (Nat.length_toDigits_le_iff (by decide) hw).2 hn
  rw [paddedDigits, List.length_append, List.length_replicate]
  omega

/-- A run of digits ends where another character stands, or with the text. -/
theorem takeWhile_paddedDigits (width n : Nat) {rest : List Char}
    (hrest : ∀ c ∈ rest.head?, isDigit c = false) :
    (paddedDigits width n ++ rest).takeWhile isDigit = paddedDigits width n := by
  rw [List.takeWhile_append_of_pos (isDigit_paddedDigits width n)]
  cases rest with
  | nil => simp
  | cons c rest => simp [hrest c rfl]

theorem dropWhile_paddedDigits (width n : Nat) {rest : List Char}
    (hrest : ∀ c ∈ rest.head?, isDigit c = false) :
    (paddedDigits width n ++ rest).dropWhile isDigit = rest := by
  rw [List.dropWhile_append_of_pos (isDigit_paddedDigits width n)]
  cases rest with
  | nil => simp
  | cons c rest => simp [hrest c rfl]

end Numeric

namespace Time

open Numeric

theorem readDigits?_paddedDigits {width n : Nat} (hw : 0 < width) (hn : n < tenTo width)
    (rest : List Char) :
    readDigits? width (paddedDigits width n ++ rest) = some (n, rest) := by
  have hlength := length_paddedDigits hw hn
  have hle : (paddedDigits width n).length ≤ width := Nat.le_of_eq hlength
  have hge : width ≤ (paddedDigits width n).length := Nat.le_of_eq hlength.symm
  have htake : (paddedDigits width n ++ rest).take width = paddedDigits width n := by
    rw [List.take_append_of_le_length hge, List.take_of_length_le hle]
  have hdrop : (paddedDigits width n ++ rest).drop width = rest := by
    rw [List.drop_append_of_le_length hge, List.drop_of_length_le hle, List.nil_append]
  have hall : (paddedDigits width n).all isDigit :=
    List.all_eq_true.2 (isDigit_paddedDigits width n)
  unfold readDigits?
  rw [htake, hdrop]
  dsimp only
  rw [if_pos ⟨hlength, hall⟩, natOfDigits_paddedDigits]

end Time
end PokerClient
