import PokerClient.Time.Timestamp

/-!
# Days and their dates

A day number is got back from its date. The year is one whose days reach around
the day, and the month is found by taking off one month after another.
-/

namespace PokerClient
namespace Time

theorem daysBeforeYear_succ (p : Nat) :
    daysBeforeYear (p + 1) + p / 100 = 365 * p + p / 4 + p / 400 := by
  unfold daysBeforeYear
  dsimp only
  omega

/-- The average year is off by less than a year at any day. -/
theorem yearOfDay_spec (n : Nat) :
    1 ≤ yearOfDay n ∧ daysBeforeYear (yearOfDay n) ≤ n ∧ n < daysBeforeYear (yearOfDay n + 1) := by
  obtain ⟨p, hp⟩ : ∃ p, p = 400 * n / 146097 := ⟨_, rfl⟩
  have hlow : 146097 * p ≤ 400 * n := by omega
  have hhigh : 400 * n < 146097 * p + 146097 := by omega
  unfold yearOfDay
  rw [← hp]
  have hguess := daysBeforeYear_succ p
  have hnext := daysBeforeYear_succ (p + 1)
  have hafter := daysBeforeYear_succ (p + 1 + 1)
  dsimp only
  by_cases habove : daysBeforeYear (p + 1 + 1) ≤ n
  · rw [if_pos habove]
    refine ⟨by omega, habove, ?_⟩
    omega
  · rw [if_neg habove]
    -- A day before the guessed year lies in the year before, which is none below the first.
    by_cases hbelow : n < daysBeforeYear (p + 1)
    · rw [if_pos hbelow]
      cases p with
      | zero =>
        have hfirst : daysBeforeYear (0 + 1) = 0 := rfl
        omega
      | succ q =>
        have hbefore := daysBeforeYear_succ q
        refine ⟨by omega, ?_, hbelow⟩
        show daysBeforeYear (q + 1) ≤ n
        omega
    · rw [if_neg hbelow]
      exact ⟨by omega, by omega, by omega⟩

/-- The days in months of the given lengths. -/
def total : List Nat → Nat
  | [] => 0
  | length :: rest => length + total rest

theorem foldl_add_eq_total (lengths : List Nat) (n : Nat) :
    lengths.foldl (· + ·) n = n + total lengths := by
  induction lengths generalizing n with
  | nil => rfl
  | cons length rest ih =>
    have hrest := ih (n + length)
    rw [List.foldl_cons, hrest, total, Nat.add_assoc]

theorem daysBeforeMonth_succ (leap : Bool) (i : Nat) :
    daysBeforeMonth leap (i + 1) = total ((monthLengths leap).take i) := by
  unfold daysBeforeMonth
  rw [foldl_add_eq_total, Nat.zero_add]
  rfl

theorem total_monthLengths (leap : Bool) :
    total (monthLengths leap) = if leap then 366 else 365 := by
  cases leap <;> rfl

/-- The months of a year make up the year. -/
theorem daysBeforeYear_add {year : Nat} (h : 1 ≤ year) :
    daysBeforeYear year + total (monthLengths (isLeap year)) = daysBeforeYear (year + 1) := by
  obtain ⟨p, rfl⟩ : ∃ p, year = p + 1 := ⟨year - 1, by omega⟩
  have hfirst := daysBeforeYear_succ p
  have hnext := daysBeforeYear_succ (p + 1)
  rw [total_monthLengths]
  by_cases h4 : (p + 1) % 4 = 0
  · by_cases h100 : (p + 1) % 100 = 0
    · by_cases h400 : (p + 1) % 400 = 0
      · have hleap : isLeap (p + 1) = true := by simp [isLeap, h4, h400]
        rw [if_pos hleap]
        omega
      · have hleap : ¬ isLeap (p + 1) = true := by simp [isLeap, h100, h400]
        rw [if_neg hleap]
        omega
    · have hleap : isLeap (p + 1) = true := by simp [isLeap, h4, h100]
      rw [if_pos hleap]
      omega
  · have hleap : ¬ isLeap (p + 1) = true := by simp [isLeap, h4]
    have hq4 : (p + 1) / 4 = p / 4 := by omega
    have hq100 : (p + 1) / 100 = p / 100 := by omega
    have hq400 : (p + 1) / 400 = p / 400 := by omega
    rw [if_neg hleap]
    omega

/-- A day in the months of the given lengths lies in one of them, which comes
`i` months after the first. -/
theorem monthOfDay_spec (lengths : List Nat) (month n : Nat) (h : n < total lengths) :
    ∃ i, i < lengths.length ∧ (monthOfDay lengths month n).1 = month + i ∧
      1 ≤ (monthOfDay lengths month n).2 ∧ (monthOfDay lengths month n).2 ≤ lengths.getD i 0 ∧
      total (lengths.take i) + ((monthOfDay lengths month n).2 - 1) = n := by
  induction lengths generalizing month n with
  | nil => cases h
  | cons length rest ih =>
    unfold monthOfDay
    by_cases hn : n < length
    · rw [if_pos hn]
      exact ⟨0, by simp, rfl, by simp, hn, by simp [total]⟩
    · rw [if_neg hn]
      rw [total] at h
      obtain ⟨i, hi, hmonth, hday, hle, hsum⟩ := ih (month + 1) (n - length) (by omega)
      refine ⟨i + 1, by simpa using hi, by omega, hday, by simpa using hle, ?_⟩
      rw [List.take_succ_cons, total]
      omega

/-- The date of a day exists and has the number of the day. -/
theorem Date.ofDayNumber_spec (n : Nat) :
    (Date.ofDayNumber n).Exists ∧ 1 ≤ (Date.ofDayNumber n).year ∧
      (Date.ofDayNumber n).dayNumber = n := by
  obtain ⟨hone, hfrom, hto⟩ := yearOfDay_spec n
  have hyear := daysBeforeYear_add hone
  obtain ⟨i, hi, hmonth, hday, hle, hsum⟩ :=
    monthOfDay_spec (monthLengths (isLeap (yearOfDay n))) 1 (n - daysBeforeYear (yearOfDay n))
      (by omega)
  have hlength : (monthLengths (isLeap (yearOfDay n))).length = 12 := rfl
  have hpast := daysBeforeMonth_succ (isLeap (yearOfDay n)) i
  unfold ofDayNumber
  dsimp only
  generalize monthOfDay (monthLengths (isLeap (yearOfDay n))) 1
    (n - daysBeforeYear (yearOfDay n)) = found at *
  obtain ⟨month, day⟩ := found
  dsimp only at *
  subst hmonth
  have hindex : 1 + i - 1 = i := by omega
  refine ⟨⟨by dsimp only; omega, by dsimp only; omega, hday, ?_⟩, hone, ?_⟩
  · dsimp only
    rw [hindex]
    exact hle
  · unfold dayNumber
    dsimp only
    rw [Nat.add_comm 1 i, hpast]
    omega

theorem total_take_add_getD {lengths : List Nat} {i : Nat} (h : i < lengths.length) :
    total (lengths.take i) + lengths.getD i 0 ≤ total lengths := by
  induction lengths generalizing i with
  | nil => cases h
  | cons length rest ih =>
    cases i with
    | zero => simp [total]
    | succ i =>
      have hrest := ih (Nat.lt_of_succ_lt_succ h)
      simp only [List.take_succ_cons, List.getD_cons_succ, total]
      omega

/-- A date that exists is before the next year. -/
theorem Date.Exists.dayNumber_lt {d : Date} (h : d.Exists) (hyear : 1 ≤ d.year) :
    d.dayNumber < daysBeforeYear (d.year + 1) := by
  obtain ⟨hone, htwelve, hday, hle⟩ := h
  have hlength : (monthLengths (isLeap d.year)).length = 12 := rfl
  have hmonth := daysBeforeMonth_succ (isLeap d.year) (d.month - 1)
  have htotal : total ((monthLengths (isLeap d.year)).take (d.month - 1)) +
      (monthLengths (isLeap d.year)).getD (d.month - 1) 0 ≤ total (monthLengths (isLeap d.year)) :=
    total_take_add_getD (by omega)
  have hnext := daysBeforeYear_add hyear
  rw [Nat.sub_add_cancel hone] at hmonth
  unfold dayNumber
  omega

theorem daysBeforeYear_mono {year later : Nat} (h : year ≤ later) :
    daysBeforeYear year ≤ daysBeforeYear later := by
  induction h with
  | refl => exact Nat.le_refl _
  | @step next h ih =>
    refine Nat.le_trans ih ?_
    cases next with
    | zero => exact Nat.le_refl 0
    | succ p =>
      have hp := daysBeforeYear_succ p
      have hnext := daysBeforeYear_succ (p + 1)
      rw [Nat.succ_eq_add_one]
      omega

theorem Date.year_ofDayNumber_le {n : Nat} (h : n < dayLimit) :
    (Date.ofDayNumber n).year ≤ 9999 := by
  obtain ⟨hone, hfrom, hto⟩ := yearOfDay_spec n
  show yearOfDay n ≤ 9999
  obtain ⟨p, hp⟩ : ∃ p, yearOfDay n = p + 1 := ⟨yearOfDay n - 1, by omega⟩
  have hdays := daysBeforeYear_succ p
  rw [hp] at hfrom ⊢
  unfold dayLimit at h
  omega

end Time
end PokerClient
