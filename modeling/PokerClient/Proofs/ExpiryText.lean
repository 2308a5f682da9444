import PokerClient.Credential
import PokerClient.Proofs.FieldChecks
import PokerClient.Proofs.MomentText
import PokerClient.Proofs.WrittenText

/-!
# Expiries in writing

A text of a date and a time of day denotes an instant. What a credential is worth depends
on the instant of its expiry and on that of the clock: not on the offset that the text was
written with, nor on that of the clock.

The calendar is taken to hold in the year before year 1 as well, which may be written but
is shown by no clock.
-/

namespace PokerClient

open Json Time Validation

namespace Time

/-- The day of a date, counted from the first day of year 1. -/
def Date.civilDay (d : Date) : Int :=
  let passed : Int := (d.year : Int) - 1
  365 * passed + passed / 4 - passed / 100 + passed / 400 +
    (daysBeforeMonth (isLeap d.year) d.month : Nat) + ((d.day : Int) - 1)

theorem Date.civilDay_eq {d : Date} (hyear : 1 ≤ d.year) (hday : 1 ≤ d.day) :
    d.civilDay = (d.dayNumber : Nat) := by
  unfold civilDay dayNumber daysBeforeYear
  dsimp only
  omega

namespace Moment

/-- The moment on a clock in universal time. -/
def inUtc? (m : Moment) : Option Moment := m.toUtc?.map ofUtc

theorem inUtc?_bind_inUtc? (m : Moment) : m.inUtc?.bind inUtc? = m.inUtc? := by
  unfold inUtc?
  cases m.toUtc? with
  | none => rfl
  | some t =>
    show (ofUtc t).toUtc?.map ofUtc = some (ofUtc t)
    rw [toUtc?_ofUtc, Option.map_some]

/-- A clock that is not placed is taken to show universal time. -/
theorem inUtc?_unplaced (wall : Timestamp) :
    inUtc? { wall, offset := none } = some (ofUtc wall) := by
  simp [inUtc?, toUtc?]

theorem instant?_inUtc? {m u : Moment} {n : Int} (hu : m.inUtc? = some u)
    (hn : m.instant? = some n) : u.instant? = some n := by
  obtain ⟨t, ht, rfl⟩ := Option.map_eq_some_iff.1 hu
  rw [instant?_ofUtc, toUtc?_eq_some ht hn]

end Moment

namespace WrittenMoment

variable {w : WrittenMoment}

theorem toList_text (w : WrittenMoment) : w.text.toList = w.write := String.toList_ofList

/-- The instant that the text gives, in microseconds since year 1 began in universal time.
A clock that is not placed shows universal time. -/
def instant (w : WrittenMoment) : Int :=
  w.date.civilDay * microsPerDay + w.micros - (w.zone.offset?.getD 0).micros

/-- A text denotes an instant if its parts exist. -/
def Denotes (w : WrittenMoment) (n : Int) : Prop := w.Exists ∧ w.instant = n

instance (w : WrittenMoment) (n : Int) : Decidable (w.Denotes n) :=
  inferInstanceAs (Decidable (_ ∧ _))

/-- A text that a clock can show is read, and in universal time it has the reading of its
instant. -/
theorem Denotes.read {n : Int} (h : w.Denotes n) (hyear : (w.year : Nat) ≠ 0) :
    ∃ m, Moment.ofText w.text.toList = .ok m ∧ m.toUtc? = Timestamp.ofMicros? n := by
  obtain ⟨hexists, hinstant⟩ := h
  obtain ⟨wall, hwall, hmicros⟩ := w.exists_wall hexists hyear
  have hday : w.date.civilDay = (w.date.dayNumber : Nat) :=
    Date.civilDay_eq (Nat.pos_of_ne_zero hyear) hexists.1.2.2.1
  refine ⟨{ wall, offset := w.zone.offset? }, ?_, ?_⟩
  · rw [toList_text]
    exact w.ofText_eq_ok hexists hwall
  · unfold Moment.toUtc? Timestamp.shift?
    dsimp only
    rw [hmicros, ← hinstant]
    unfold instant
    rw [hday]
    rfl

end WrittenMoment

namespace Timestamp

variable (t : Timestamp)

theorem text_written : t.written.text = t.utcText := by
  unfold WrittenMoment.text utcText
  rw [write_written]

/-- A time stamp is the instant of its text in universal time. -/
theorem denotes_written : t.written.Denotes t.micros := by
  obtain ⟨hexists, hone, -, hmicros⟩ := t.date_spec
  refine ⟨t.exists_written, ?_⟩
  have hday : t.written.date.civilDay = (t.date.dayNumber : Nat) :=
    Date.civilDay_eq hone hexists.2.2.1
  have hzone : (t.written.zone.offset?.getD 0).micros = 0 := rfl
  unfold WrittenMoment.instant
  rw [hday, hzone, micros_written]
  omega

end Timestamp
end Time

namespace Credential

/-- An object that has two tokens and an expiry in writing, whatever else it has. -/
structure Spells (fields : Fields) (access refresh : String) (w : WrittenMoment) : Prop where
  access : fields.get? accessTokenName.plain = some (.str access)
  refresh : fields.get? refreshTokenName.plain = some (.str refresh)
  expiry : fields.get? expiresAtName.plain = some (.str w.text)

/-- What an object is checked as, by itself or when a text of it is read. -/
def CheckedAs (fields : Fields) (outcome : Checked Credential) : Prop :=
  (∀ wide, check givenText wide (.object fields) = .ok (outcome.map given)) ∧
    ∀ blob : String, parse .strict blob.toList = .ok (.object fields) → ofBlob blob = .ok outcome

theorem checkedAs_of_ofFields {fields : Fields} {outcome : Checked Credential}
    (hgiven : ∀ wide, ofFields givenText wide fields = .ok (outcome.map given))
    (htext : ofFields text false fields = .ok outcome) : CheckedAs fields outcome := by
  refine ⟨hgiven, fun blob hblob => ?_⟩
  unfold ofBlob
  rw [hblob]
  exact htext

namespace Spells

variable {fields : Fields} {access refresh : String} {w : WrittenMoment} {n : Int}
variable {Token : Type} {token : Reading Token} {wrap : String → Token}

theorem required_access (h : Spells fields access refresh w)
    (htoken : ∀ s, token (.str s) = .valid (wrap s)) :
    required fields accessTokenName.accepted token = .valid (wrap access) := by
  refine (required_of_get h.access).trans ?_
  rw [htoken]
  rfl

theorem required_refresh (h : Spells fields access refresh w)
    (htoken : ∀ s, token (.str s) = .valid (wrap s)) :
    required fields refreshTokenName.accepted token = .valid (wrap refresh) := by
  refine (required_of_get h.refresh).trans ?_
  rw [htoken]
  rfl

theorem required_expiry (h : Spells fields access refresh w) (wide : Bool) :
    required fields expiresAtName.accepted (moment wide) =
      (moment wide (.str w.text)).inside (.field expiresAtName.plain) :=
  required_of_get h.expiry

/-- Tokens that are strings stay what they are, whichever way they are read. -/
theorem ofFields_valid (h : Spells fields access refresh w)
    (htoken : ∀ s, token (.str s) = .valid (wrap s)) (hw : w.Denotes n)
    (hyear : (w.year : Nat) ≠ 0) {t : Timestamp} (ht : Timestamp.ofMicros? n = some t)
    (wide : Bool) :
    ofFields token wide fields = .ok (.valid ⟨wrap access, wrap refresh, t⟩) := by
  obtain ⟨m, hread, hutc⟩ := hw.read hyear
  have hmoment : moment wide (.str w.text) = .valid m := by
    unfold moment
    dsimp only
    rw [hread]
  unfold ofFields
  rw [h.required_expiry, hmoment]
  dsimp only [Checked.inside_valid]
  rw [hutc, ht, h.required_access htoken, h.required_refresh htoken]
  rfl

theorem valid (h : Spells fields access refresh w) (hw : w.Denotes n)
    (hyear : (w.year : Nat) ≠ 0) {t : Timestamp} (ht : Timestamp.ofMicros? n = some t) :
    CheckedAs fields (.valid ⟨access, refresh, t⟩) :=
  checkedAs_of_ofFields (h.ofFields_valid givenText_str hw hyear ht)
    (h.ofFields_valid text_str hw hyear ht false)

/-- An expiry that is not read is the one issue of the object. -/
theorem ofFields_invalid (h : Spells fields access refresh w)
    (htoken : ∀ s, token (.str s) = .valid (wrap s)) {kind : Kind} {wide : Bool}
    (hread : moment wide (.str w.text) = .fail kind) :
    ofFields token wide fields =
      .ok (.invalid [{ path := [.field expiresAtName.plain], kind }]) := by
  unfold ofFields
  rw [h.required_expiry, hread]
  dsimp only [Checked.fail, Checked.inside]
  rw [h.required_access htoken, h.required_refresh htoken]
  rfl

theorem invalid (h : Spells fields access refresh w) {kind : Kind}
    (hread : ∀ wide, moment wide (.str w.text) = .fail kind) :
    CheckedAs fields (.invalid [{ path := [.field expiresAtName.plain], kind }]) :=
  checkedAs_of_ofFields (fun wide => h.ofFields_invalid givenText_str (hread wide))
    (h.ofFields_invalid text_str (hread false))

theorem invalid_of_yearZero (h : Spells fields access refresh w) (hw : w.Exists)
    (hyear : (w.year : Nat) = 0) :
    CheckedAs fields
      (.invalid [{ path := [.field expiresAtName.plain], kind := .momentOutOfRange }]) := by
  refine h.invalid fun wide => ?_
  unfold moment
  dsimp only
  rw [w.toList_text, w.ofText_of_yearZero hw hyear]

theorem invalid_of_not_exists (h : Spells fields access refresh w) (hw : ¬ w.Exists) :
    CheckedAs fields
      (.invalid [{ path := [.field expiresAtName.plain], kind := .unreadableMoment }]) := by
  refine h.invalid fun wide => ?_
  unfold moment
  dsimp only
  rw [w.toList_text, w.ofText_of_not_exists hw]

end Spells

/-! ## Objects of three strings -/

/-- The fields of a credential in writing. -/
def texts (access refresh expiry : String) : List (String × String) :=
  [(accessTokenName.plain, access), (refreshTokenName.plain, refresh),
    (expiresAtName.plain, expiry)]

section Texts

variable (access refresh expiry : String)

theorem collect_texts :
    collect [] (texts access refresh expiry) = strings (texts access refresh expiry) := by
  simp [collect, strings, texts, accessTokenName, refreshTokenName, expiresAtName, Fields.put]

/-- The text of the fields is read as the fields. -/
theorem parse_texts {d : Dialect} (hd : d.depth ≠ some 0) :
    parse d (Value.write (.object (strings (texts access refresh expiry)))) =
      .ok (.object (strings (texts access refresh expiry))) := by
  have hread : parse d (Value.write (.object (strings (texts access refresh expiry)))) =
      .ok (.object (collect [] (texts access refresh expiry))) := parse_written hd _ _
  rw [hread, collect_texts]

theorem spells_texts (w : WrittenMoment) :
    Spells (strings (texts access refresh w.text)) access refresh w :=
  ⟨rfl, rfl, rfl⟩

end Texts

/-! ## What instants decide -/

/-- Two clocks that show an instant find a credential alike. -/
theorem asked_alike (c : Credential) {m m' : Moment} {n : Int} (hm : m.instant? = some n)
    (hm' : m'.instant? = some n) :
    ∃ usable left, c.isUsable m = .ok usable ∧ c.isUsable m' = .ok usable ∧
      c.expiresIn m = .ok left ∧ c.expiresIn m' = .ok left := by
  refine ⟨decide (n < (c.expiresAt.micros : Int)),
    max 0 (Span.seconds ⟨(c.expiresAt.micros : Int) - n⟩), ?_, ?_, ?_, ?_⟩
  · exact isUsable_eq_ok_iff.2 ⟨n, hm, rfl⟩
  · exact isUsable_eq_ok_iff.2 ⟨n, hm', rfl⟩
  · unfold expiresIn
    rw [hm]
  · unfold expiresIn
    rw [hm']

/-- Instants alone decide on an expiry: the instant of its text, if a clock can show the
text, and the instant of the clock that it is compared with. -/
structure ByInstant : Prop where
  texts : ∀ {fields fields' : Fields} {access refresh : String} {w w' : WrittenMoment} {n : Int},
    Spells fields access refresh w → Spells fields' access refresh w' →
    w.Denotes n → w'.Denotes n → (w.year : Nat) ≠ 0 → (w'.year : Nat) ≠ 0 →
    0 ≤ n → n < (dayLimit * microsPerDay : Nat) →
      ∃ t : Timestamp, (t.micros : Int) = n ∧ CheckedAs fields (.valid ⟨access, refresh, t⟩) ∧
        CheckedAs fields' (.valid ⟨access, refresh, t⟩)
  yearZero : ∀ {fields : Fields} {access refresh : String} {w : WrittenMoment},
    Spells fields access refresh w → w.Exists → (w.year : Nat) = 0 →
      CheckedAs fields
        (.invalid [{ path := [.field expiresAtName.plain], kind := .momentOutOfRange }])
  noMoment : ∀ {fields : Fields} {access refresh : String} {w : WrittenMoment},
    Spells fields access refresh w → ¬ w.Exists →
      CheckedAs fields
        (.invalid [{ path := [.field expiresAtName.plain], kind := .unreadableMoment }])
  clocks : ∀ (c : Credential) {m m' : Moment} {n : Int}, m.instant? = some n →
    m'.instant? = some n →
      ∃ usable left, c.isUsable m = .ok usable ∧ c.isUsable m' = .ok usable ∧
        c.expiresIn m = .ok left ∧ c.expiresIn m' = .ok left
  settled : ∀ m : Moment, m.inUtc?.bind Moment.inUtc? = m.inUtc?
  unplaced : ∀ wall : Timestamp, Moment.inUtc? { wall, offset := none } = some (.ofUtc wall)
  kept : ∀ {m u : Moment} {n : Int}, m.inUtc? = some u → m.instant? = some n →
    u.instant? = some n

theorem expiry_by_instant : ByInstant where
  texts := by
    intro fields fields' access refresh w w' n h h' hw hw' hyear hyear' hfrom hto
    obtain ⟨k, rfl⟩ := Int.eq_ofNat_of_zero_le hfrom
    have ht := Timestamp.ofMicros?_micros ⟨k, Int.ofNat_lt.1 hto⟩
    exact ⟨_, rfl, h.valid hw hyear ht, h'.valid hw' hyear' ht⟩
  yearZero h hw hyear := h.invalid_of_yearZero hw hyear
  noMoment h hw := h.invalid_of_not_exists hw
  clocks c _ _ _ hm hm' := c.asked_alike hm hm'
  settled m := m.inUtc?_bind_inUtc?
  unplaced wall := Moment.inUtc?_unplaced wall
  kept hu hn := Moment.instant?_inUtc? hu hn

/-- An instant of a leap day in universal time, and of the day after it on a clock that is
ahead. -/
theorem expiry_by_instant_of_leapDay :
    let plain : WrittenMoment := ⟨2024, 2, 29, 23, 0, 0, some 250000, .universal⟩
    let ahead : WrittenMoment := ⟨2024, 3, 1, 0, 30, 0, some 250000, .away false 1 30⟩
    let fields (w : WrittenMoment) : Fields := strings (texts "a" "r" w.text)
    let n : Int := 63844844400250000
    plain.text = "2024-02-29T23:00:00.250000Z" ∧ ahead.text = "2024-03-01T00:30:00.250000+01:30" ∧
      plain.Denotes n ∧ ahead.Denotes n ∧
      ∃ t : Timestamp, (t.micros : Int) = n ∧ CheckedAs (fields plain) (.valid ⟨"a", "r", t⟩) ∧
        CheckedAs (fields ahead) (.valid ⟨"a", "r", t⟩) := by
  intro plain ahead fields n
  have hplain : plain.Denotes n := by decide +kernel
  have hahead : ahead.Denotes n := by decide +kernel
  refine ⟨by decide +kernel, by decide +kernel, hplain, hahead, ?_⟩
  exact expiry_by_instant.texts (spells_texts "a" "r" plain) (spells_texts "a" "r" ahead) hplain
    hahead (by decide) (by decide) (by decide) (by decide)

/-- An instant of the first day of year 1, written on a clock that still shows the year
zero, is refused. -/
theorem yearZero_refused :
    let plain : WrittenMoment := ⟨1, 1, 1, 4, 0, 0, none, .universal⟩
    let behind : WrittenMoment := ⟨0, 12, 31, 23, 0, 0, none, .away true 5 0⟩
    let blob (w : WrittenMoment) : String :=
      String.ofList (Value.write (.object (strings (texts "a" "r" w.text))))
    let n : Int := 14400000000
    plain.text = "0001-01-01T04:00:00Z" ∧ behind.text = "0000-12-31T23:00:00-05:00" ∧
      plain.Denotes n ∧ behind.Denotes n ∧ 0 ≤ n ∧ n < (dayLimit * microsPerDay : Nat) ∧
      ofBlob (blob plain) = .ok (.valid ⟨"a", "r", ⟨14400000000, by decide⟩⟩) ∧
      ∀ c, ofBlob (blob behind) ≠ .ok (.valid c) := by
  intro plain behind blob n
  have hplain : plain.Denotes n := by decide +kernel
  have hbehind : behind.Denotes n := by decide +kernel
  have hparse (w : WrittenMoment) : parse .strict (blob w).toList =
      .ok (.object (strings (texts "a" "r" w.text))) := by
    show parse .strict (String.ofList _).toList = _
    rw [String.toList_ofList]
    exact parse_texts "a" "r" w.text (by decide)
  refine ⟨by decide +kernel, by decide +kernel, hplain, hbehind, by decide, by decide, ?_, ?_⟩
  · have hvalid := (spells_texts "a" "r" plain).valid hplain (by decide)
      (Timestamp.ofMicros?_micros ⟨14400000000, by decide⟩)
    exact hvalid.2 _ (hparse plain)
  · intro c hc
    have hinvalid := (spells_texts "a" "r" behind).invalid_of_yearZero hbehind.1 rfl
    cases hc.symm.trans (hinvalid.2 _ (hparse behind))

end Credential
end PokerClient
