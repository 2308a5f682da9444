import PokerClient.Proofs.CalendarInverse
import PokerClient.Proofs.DigitText

/-!
# Moments that are read back

A text with the digits of a date, of a time of day and of an offset in their places is
read as the moment that it gives, and is refused if there is no such date, time or offset.
The text of a time stamp in universal time is one of these texts.
-/

namespace PokerClient
namespace Time

open Numeric

theorem Date.Exists.day_le {d : Date} (h : d.Exists) : d.day ≤ 31 := by
  have hlengths : ∀ leap : Bool, ∀ i < 12, (monthLengths leap).getD i 0 ≤ 31 := by decide
  obtain ⟨hone, htwelve, -, hday⟩ := h
  exact Nat.le_trans hday (hlengths (isLeap d.year) (d.month - 1) (by omega))

theorem after?_cons (c : Char) (rest : List Char) : after? c (c :: rest) = some rest := if_pos rfl

/-! ## Where the clock is -/

/-- What a text says of how far its clock is ahead of universal time. -/
inductive Zone where
  | unplaced
  | universal
  | away (behind : Bool) (hour minute : Fin 100)
  deriving DecidableEq

namespace Zone

def write : Zone → List Char
  | unplaced => []
  | universal => ['Z']
  | away behind hour minute =>
    (if behind then '-' else '+') :: (paddedDigits 2 hour ++ ':' :: paddedDigits 2 minute)

/-- No clock is a day away from universal time. -/
def Exists : Zone → Prop
  | away _ hour minute => (hour : Nat) < 24 ∧ (minute : Nat) < 60
  | _ => True

instance : (z : Zone) → Decidable z.Exists
  | away _ _ _ => inferInstanceAs (Decidable (_ ∧ _))
  | unplaced | universal => .isTrue trivial

/-- How far the clock is ahead of universal time, if it is placed. -/
def offset? : Zone → Option Offset
  | unplaced => none
  | universal => some 0
  | away behind hour minute =>
    let seconds : Int := ((hour : Nat) * 60 + (minute : Nat)) * 60
    some (.ofSeconds (if behind then -seconds else seconds))

variable (z : Zone)

/-- A zone is not taken for more digits or for a fraction. -/
theorem head_write : ∀ c ∈ z.write.head?, isDigit c = false ∧ c ≠ '.' ∧ c ≠ ',' := by
  intro c hc
  cases z with
  | unplaced => cases hc
  | universal =>
    cases hc
    decide
  | away behind hour minute => cases behind <;> cases hc <;> decide

theorem readOffset?_digits (behind : Bool) (hour minute : Fin 100) :
    (readOffset? behind (paddedDigits 2 hour ++ ':' :: paddedDigits 2 minute)).map some =
      if (away behind hour minute).Exists then some (away behind hour minute).offset?
      else none := by
  have hminute := readDigits?_paddedDigits (by decide : 0 < 2) minute.isLt []
  rw [List.append_nil] at hminute
  unfold readOffset?
  simp only [bind, Option.bind, readDigits?_paddedDigits (by decide : 0 < 2) hour.isLt,
    after?_cons, Option.getD_some, hminute, and_true]
  by_cases h : (hour : Nat) < 24 ∧ (minute : Nat) < 60
  · rw [if_pos h, if_pos (show (away behind hour minute).Exists from h)]
    rfl
  · rw [if_neg h, if_neg (show ¬ (away behind hour minute).Exists from h)]
    rfl

theorem readZone?_write : readZone? z.write = if z.Exists then some z.offset? else none := by
  cases z with
  | unplaced => rfl
  | universal => rfl
  | away behind hour minute =>
    rw [← readOffset?_digits behind hour minute]
    cases behind <;> rfl

end Zone

/-! ## Dates and times of day -/

theorem readDate?_digits (d : Date) (hyear : d.year < tenTo 4) (hmonth : d.month < tenTo 2)
    (hday : d.day < tenTo 2) (rest : List Char) :
    readDate? (paddedDigits 4 d.year ++ '-' :: (paddedDigits 2 d.month ++
      '-' :: (paddedDigits 2 d.day ++ rest))) = if d.Exists then some (d, rest) else none := by
  unfold readDate?
  simp only [bind, Option.bind, readDigits?_paddedDigits (by decide : 0 < 4) hyear,
    readDigits?_paddedDigits (by decide : 0 < 2) hmonth,
    readDigits?_paddedDigits (by decide : 0 < 2) hday, after?_cons]

/-- The six digits of a fraction behind a point. -/
def writeFraction : Option (Fin 1000000) → List Char
  | none => []
  | some f => '.' :: paddedDigits 6 f

/-- The microseconds of a fraction, none if there is no fraction. -/
def fractionMicros (f : Option (Fin 1000000)) : Nat := f.elim 0 Fin.val

theorem readFraction?_write (f : Option (Fin 1000000)) {rest : List Char}
    (hrest : ∀ c ∈ rest.head?, isDigit c = false ∧ c ≠ '.' ∧ c ≠ ',') :
    readFraction? (writeFraction f ++ rest) = some (fractionMicros f, rest) := by
  cases f with
  | none =>
    cases rest with
    | nil => rfl
    | cons c rest =>
      obtain ⟨-, hpoint, hcomma⟩ := hrest c rfl
      exact if_neg fun h => h.elim hpoint hcomma
  | some f =>
    have hlength : (paddedDigits 6 f).length = 6 := length_paddedDigits (by decide) f.isLt
    have hcount : microsOfDigits (paddedDigits 6 f) = f := by
      unfold microsOfDigits
      rw [List.take_of_length_le (Nat.le_of_eq hlength), natOfDigits_paddedDigits, hlength]
      exact Nat.mul_one _
    have hsome : (paddedDigits 6 f).isEmpty = false := by
      rw [List.isEmpty_eq_false_iff_exists_mem]
      exact List.exists_mem_of_length_pos (by omega)
    have hdigits : ∀ c ∈ rest.head?, isDigit c = false := fun c hc => (hrest c hc).1
    unfold readFraction? writeFraction
    dsimp only [List.cons_append]
    rw [if_pos (Or.inl rfl), takeWhile_paddedDigits 6 f hdigits, dropWhile_paddedDigits 6 f hdigits,
      hsome, hcount]
    rfl

/-- A text of a date and a time of day to the second, or to the microsecond, by the
numbers that its digits give. -/
structure WrittenMoment where
  year : Fin 10000
  month : Fin 100
  day : Fin 100
  hour : Fin 100
  minute : Fin 100
  second : Fin 100
  fraction : Option (Fin 1000000)
  zone : Zone
  deriving DecidableEq

namespace WrittenMoment

variable (w : WrittenMoment)

def date : Date := { year := w.year, month := w.month, day := w.day }

/-- The microseconds since midnight. -/
def micros : Nat :=
  (w.hour * 60 + w.minute) * 60 * microsPerSecond +
    (w.second * microsPerSecond + fractionMicros w.fraction)

def writeTime : List Char :=
  paddedDigits 2 w.hour ++ ':' :: (paddedDigits 2 w.minute ++ ':' :: (paddedDigits 2 w.second ++
    (writeFraction w.fraction ++ w.zone.write)))

def write : List Char :=
  paddedDigits 4 w.year ++ '-' :: (paddedDigits 2 w.month ++ '-' :: (paddedDigits 2 w.day ++
    'T' :: w.writeTime))

def text : String := String.ofList w.write

/-- Whether there are such a date, such a time of day and such an offset. -/
def Exists : Prop :=
  w.date.Exists ∧ ((w.hour : Nat) < 24 ∧ (w.minute : Nat) < 60 ∧ (w.second : Nat) < 60) ∧
    w.zone.Exists

instance : Decidable w.Exists := inferInstanceAs (Decidable (_ ∧ _))

theorem readSeconds?_write :
    readSeconds? (':' :: (paddedDigits 2 w.second ++ (writeFraction w.fraction ++ w.zone.write))) =
      if (w.second : Nat) < 60 then
        some (w.second * microsPerSecond + fractionMicros w.fraction, w.zone.write)
      else none := by
  unfold readSeconds?
  simp only [bind, Option.bind, readDigits?_paddedDigits (by decide : 0 < 2) w.second.isLt,
    readFraction?_write w.fraction w.zone.head_write]

theorem readTime?_write :
    readTime? w.writeTime =
      if (w.hour : Nat) < 24 ∧ (w.minute : Nat) < 60 ∧ (w.second : Nat) < 60 then
        some (w.micros, w.zone.write)
      else none := by
  unfold readTime? writeTime
  simp only [bind, Option.bind, readDigits?_paddedDigits (by decide : 0 < 2) w.hour.isLt,
    readDigits?_paddedDigits (by decide : 0 < 2) w.minute.isLt, after?_cons, readSeconds?_write]
  by_cases hsecond : (w.second : Nat) < 60
  · simp only [hsecond, if_true, and_true]
    rfl
  · simp only [hsecond, if_false, and_false]

theorem readDate?_write :
    readDate? w.write = if w.date.Exists then some (w.date, 'T' :: w.writeTime) else none :=
  readDate?_digits w.date w.year.isLt w.month.isLt w.day.isLt _

theorem readParts?_write :
    readParts? w.write = if w.Exists then some (w.date, w.micros, w.zone.offset?) else none := by
  have hmark : isTimeMark 'T' = true := by decide
  unfold readParts? Exists
  rw [readDate?_write]
  by_cases hdate : w.date.Exists
  · by_cases htime : (w.hour : Nat) < 24 ∧ (w.minute : Nat) < 60 ∧ (w.second : Nat) < 60
    · by_cases hzone : w.zone.Exists <;>
        simp [hdate, hmark, readTime?_write, htime, Zone.readZone?_write, hzone]
    · simp [hdate, hmark, readTime?_write, htime]
  · simp [hdate]

/-- The text is no count of seconds, as its digits end with a mark of the date. -/
theorem readCount?_write : readCount? w.write = none := by
  have hlength : (paddedDigits 4 w.year).length = 4 := length_paddedDigits (by decide) w.year.isLt
  have hsmall : ¬ twoTo 63 ≤ natOfDigits (paddedDigits 4 w.year) := by
    have hbound : (10000 : Nat) ≤ twoTo 63 := by decide
    rw [natOfDigits_paddedDigits]
    omega
  have hsign : splitSign w.write = (false, w.write) := by
    obtain ⟨c, cs, hcs⟩ := List.exists_cons_of_length_pos (l := paddedDigits 4 w.year) (by omega)
    have hc : isDigit c := isDigit_paddedDigits 4 w.year c (by simp [hcs])
    have hminus : c ≠ '-' := by
      rintro rfl
      exact absurd hc (by decide)
    have hplus : c ≠ '+' := by
      rintro rfl
      exact absurd hc (by decide)
    unfold write splitSign
    rw [hcs, List.cons_append]
    simp [hminus, hplus]
  have hdash (rest : List Char) : ∀ c ∈ ('-' :: rest).head?, isDigit c = false := by
    intro c hc
    cases hc
    decide
  unfold readCount?
  rw [hsign]
  unfold write
  simp only [takeWhile_paddedDigits 4 w.year (hdash _), dropWhile_paddedDigits 4 w.year (hdash _),
    if_neg hsmall]
  rfl

theorem readBareDate?_write : readBareDate? w.write = none := by
  unfold readBareDate?
  rw [readDate?_write]
  by_cases h : w.date.Exists <;> simp [h]

theorem micros_lt (h : w.Exists) : w.micros < microsPerDay := by
  obtain ⟨-, ⟨hhour, hminute, hsecond⟩, -⟩ := h
  have hfraction : fractionMicros w.fraction < 1000000 := by
    cases w.fraction with
    | none => decide
    | some f => exact f.isLt
  unfold micros microsPerDay microsPerSecond
  omega

/-- The reading of the clock, which no clock shows in the year zero. -/
theorem exists_wall (h : w.Exists) (hyear : (w.year : Nat) ≠ 0) :
    ∃ wall, Timestamp.ofDate? w.date w.micros = some wall ∧
      wall.micros = w.date.dayNumber * microsPerDay + w.micros := by
  have hday : w.date.dayNumber < dayLimit := by
    calc w.date.dayNumber < daysBeforeYear (w.year + 1) :=
          h.1.dayNumber_lt (Nat.pos_of_ne_zero hyear)
      _ ≤ daysBeforeYear 10000 := daysBeforeYear_mono w.year.isLt
      _ = dayLimit := daysBeforeYear_ten_thousand
  have hmicros := w.micros_lt h
  have hlimit : w.date.dayNumber * microsPerDay + w.micros < dayLimit * microsPerDay := by
    have hle := Nat.mul_le_mul_right microsPerDay (Nat.succ_le_of_lt hday)
    rw [Nat.succ_mul] at hle
    omega
  refine ⟨⟨_, hlimit⟩, ?_, rfl⟩
  unfold Timestamp.ofDate?
  rw [if_neg (show ¬ w.date.year = 0 from hyear)]
  exact Timestamp.ofMicros?_micros ⟨_, hlimit⟩

/-- The text is read as the moment that it gives. -/
theorem ofText_eq_ok (h : w.Exists) {wall : Timestamp}
    (hwall : Timestamp.ofDate? w.date w.micros = some wall) :
    Moment.ofText w.write = .ok { wall, offset := w.zone.offset? } := by
  unfold Moment.ofText
  rw [readParts?_write, if_pos h]
  dsimp only
  rw [hwall]

theorem ofText_of_yearZero (h : w.Exists) (hyear : (w.year : Nat) = 0) :
    Moment.ofText w.write = .error .outOfRange := by
  have hwall : Timestamp.ofDate? w.date w.micros = none := if_pos hyear
  unfold Moment.ofText
  rw [readParts?_write, if_pos h]
  dsimp only
  rw [hwall]

theorem ofText_of_not_exists (h : ¬ w.Exists) :
    Moment.ofText w.write = .error .unreadable := by
  unfold Moment.ofText
  rw [readParts?_write, if_neg h, readCount?_write, readBareDate?_write]

end WrittenMoment

/-! ## Time stamps in universal time -/

namespace Timestamp

variable (t : Timestamp)

/-- The microseconds of a day from its hours, minutes, seconds and the rest. -/
theorem daySecond_split :
    ((t.daySecond / 3600 * 60 + t.daySecond / 60 % 60) * 60) * microsPerSecond +
        (t.daySecond % 60 * microsPerSecond + t.fraction) = t.micros % microsPerDay := by
  unfold daySecond fraction microsPerDay microsPerSecond
  omega

theorem daySecond_lt : t.daySecond < 86400 := by
  unfold daySecond microsPerDay microsPerSecond
  omega

theorem fraction_lt : t.fraction < 1000000 :=
  Nat.mod_lt t.micros (by decide : 0 < microsPerSecond)

theorem date_spec : t.date.Exists ∧ 1 ≤ t.date.year ∧ t.date.year ≤ 9999 ∧
    t.date.dayNumber * microsPerDay + t.micros % microsPerDay = t.micros := by
  have hlt : t.micros / microsPerDay < dayLimit := Nat.div_lt_of_lt_mul (by
    rw [Nat.mul_comm]
    exact t.micros_lt)
  obtain ⟨hexists, hone, hnumber⟩ := Date.ofDayNumber_spec (t.micros / microsPerDay)
  refine ⟨hexists, hone, Date.year_ofDayNumber_le hlt, ?_⟩
  show (Date.ofDayNumber (t.micros / microsPerDay)).dayNumber * microsPerDay + _ = _
  rw [hnumber]
  exact Nat.div_add_mod' t.micros microsPerDay

/-- The parts of the text in universal time. -/
def written : WrittenMoment where
  year := ⟨t.date.year, Nat.lt_succ_of_le t.date_spec.2.2.1⟩
  month := ⟨t.date.month, Nat.lt_of_le_of_lt t.date_spec.1.2.1 (by decide)⟩
  day := ⟨t.date.day, Nat.lt_of_le_of_lt t.date_spec.1.day_le (by decide)⟩
  hour := ⟨t.daySecond / 3600, by have := t.daySecond_lt; omega⟩
  minute := ⟨t.daySecond / 60 % 60, by omega⟩
  second := ⟨t.daySecond % 60, by omega⟩
  fraction := if t.fraction = 0 then none else some ⟨t.fraction, t.fraction_lt⟩
  zone := .universal

theorem fractionMicros_written : fractionMicros t.written.fraction = t.fraction := by
  unfold written
  by_cases h : t.fraction = 0 <;> simp [h, fractionMicros]

theorem write_written : t.written.write = t.write 'T' ++ ['Z'] := by
  have hfraction : writeFraction t.written.fraction =
      if t.fraction = 0 then [] else '.' :: paddedDigits 6 t.fraction := by
    unfold written
    by_cases h : t.fraction = 0 <;> simp [h, writeFraction]
  unfold WrittenMoment.write WrittenMoment.writeTime write
  rw [hfraction]
  simp [written, Zone.write]

theorem exists_written : t.written.Exists := by
  have hday := t.daySecond_lt
  refine ⟨t.date_spec.1, ⟨?_, ?_, ?_⟩, trivial⟩
  · show t.daySecond / 3600 < 24
    omega
  · exact Nat.mod_lt _ (by decide)
  · exact Nat.mod_lt _ (by decide)

theorem micros_written : t.written.micros = t.micros % microsPerDay := by
  unfold WrittenMoment.micros
  rw [fractionMicros_written]
  exact t.daySecond_split

end Timestamp
end Time
end PokerClient
