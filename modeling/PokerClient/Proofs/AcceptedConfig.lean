import PokerClient.CashGame
import PokerClient.Proofs.FieldChecks
import PokerClient.Proofs.Rounding

/-!
# Accepted configurations of tables

Which configurations the checks let through, and which of them can be written as JSON.
The checks bound every number from below and two of them by another number, but none
from above. So it is the greatest numbers, and the strings, that decide whether an
accepted configuration can be sent.
-/

namespace PokerClient

open Json Numeric Validation

namespace Numeric.Binary64

variable {x y : Binary64}

/-- A finite number stands before infinity. -/
theorem position_lt_of_finite {a : Int} (hx : x.isFinite = true) (ha : x.position = some a) :
    a < (twoTo 2098 : Int) := by
  cases x with
  | nan | infinite => cases hx
  | finite negative m e hcanonical =>
    have hbound : m * twoTo e < twoTo 2098 := by
      calc m * twoTo e < twoTo 53 * twoTo e :=
            Nat.mul_lt_mul_of_pos_right hcanonical.1 (twoTo_pos e)
        _ ≤ twoTo 53 * twoTo 2045 := Nat.mul_le_mul_left _ (twoTo_mono hcanonical.2.2)
        _ = twoTo 2098 := (twoTo_add 53 2045).symm
    cases negative with
    | false =>
      cases ha
      exact Int.ofNat_lt.2 hbound
    | true =>
      cases ha
      show -((m * twoTo e : Nat) : Int) < _
      omega

/-- A number above zero and not above a finite one is finite. -/
theorem finite_of_not_lt (hpos : zero < x) (hle : ¬ y < x) (hy : y.isFinite = true) :
    x.isFinite = true := by
  obtain ⟨o, a, ho, ha, hlt⟩ := (lt_iff _ _).1 hpos
  cases x with
  | nan => cases ha
  | finite => rfl
  | infinite negative =>
    cases negative with
    | true =>
      have ho : (0 : Int) = o := Option.some.inj ho
      have ha : -(twoTo 2098 : Int) = a := Option.some.inj ha
      omega
    | false =>
      obtain ⟨b, hb⟩ : ∃ b, y.position = some b := by
        cases y with
        | nan | infinite => cases hy
        | finite => exact ⟨_, rfl⟩
      exact absurd ((lt_iff _ _).2 ⟨b, _, hb, rfl, position_lt_of_finite hy hb⟩) hle

end Numeric.Binary64

/-- A string that has a text. -/
def Validation.GivenText.IsText : GivenText → Prop
  | .whole _ => True
  | .torn points => ∀ n ∈ points, n.isValidChar

namespace TableConfig

/-- What the checks make sure of. -/
structure Bounded (c : TableConfig) : Prop where
  name : 1 ≤ c.name.length ∧ c.name.length ≤ 50
  players : 2 ≤ c.maxPlayers ∧ c.maxPlayers ≤ 10
  smallBlind : Binary64.zero < c.smallBlind
  bigBlind : Binary64.zero < c.bigBlind
  minBuyIn : Binary64.zero < c.minBuyIn
  maxBuyIn : Binary64.zero < c.maxBuyIn
  ante : Binary64.zero ≤ c.ante.number
  timeBank : 0 ≤ c.timeBank
  blinds : ¬ c.bigBlind < c.smallBlind
  buyIns : ¬ c.maxBuyIn < c.minBuyIn

theorem positive_of_required {fields : Fields} {names : List String} {x : Binary64}
    (h : required fields names (positive number) = .valid x) : Binary64.zero < x := by
  obtain ⟨v, hv⟩ := required_eq_valid h
  exact of_decide_eq_true (such_eq_valid.1 hv).2

theorem players_of_optional {fields : Fields} {names : List String} {n : Int}
    (h : optional fields names 9 (atMost 10 (atLeast 2 integer)) = .valid n) :
    2 ≤ n ∧ n ≤ 10 := by
  rcases optional_eq_valid h with rfl | ⟨v, hv⟩
  · decide
  · obtain ⟨hleast, hmost⟩ := such_eq_valid.1 hv
    exact ⟨of_decide_eq_true (such_eq_valid.1 hleast).2, of_decide_eq_true hmost⟩

theorem time_of_optional {fields : Fields} {names : List String} {n : Int}
    (h : optional fields names 30 (atLeast 0 integer) = .valid n) : 0 ≤ n := by
  rcases optional_eq_valid h with rfl | ⟨v, hv⟩
  · decide
  · exact of_decide_eq_true (such_eq_valid.1 hv).2

theorem ante_of_read {fields : Fields} {name : FieldName} {ante : Amount}
    (h : Amount.read fields name (nonNegative number) = .valid ante) :
    Binary64.zero ≤ ante.number := by
  rcases optional_eq_valid h with rfl | ⟨v, hv⟩
  · decide
  · obtain ⟨x, hx, rfl⟩ := Checked.map_eq_valid.1 hv
    exact of_decide_eq_true (such_eq_valid.1 hx).2

theorem name_of_required {fields : Fields} {names : List String} {s : String}
    (h : required fields names (textBetween 1 50) = .valid s) : 1 ≤ s.length ∧ s.length ≤ 50 := by
  obtain ⟨v, hv⟩ := required_eq_valid h
  obtain ⟨hleast, hmost⟩ := such_eq_valid.1 hv
  exact ⟨of_decide_eq_true (such_eq_valid.1 hleast).2, of_decide_eq_true hmost⟩

theorem checkBounds_eq_valid {c c' : TableConfig} (h : checkBounds c = .valid c') :
    c' = c ∧ ¬ c.bigBlind < c.smallBlind ∧ ¬ c.maxBuyIn < c.minBuyIn := by
  unfold checkBounds at h
  split at h
  · cases h
  · split at h
    · cases h
    · rename_i hblinds hbuyIns
      cases h
      exact ⟨rfl, hblinds, hbuyIns⟩

theorem ofFields_bounded {fields : Fields} {c : TableConfig} (h : ofFields fields = .valid c) :
    c.Bounded := by
  unfold ofFields at h
  cases hread : readFields fields with
  | invalid issues =>
    rw [hread] at h
    cases h
  | valid c' =>
    rw [hread] at h
    obtain ⟨rfl, hblinds, hbuyIns⟩ := checkBounds_eq_valid h
    unfold readFields at hread
    simp only [Checked.seq_eq_valid, Checked.map_eq_valid] at hread
    obtain ⟨_, isPrivate, ⟨_, timeBank, ⟨_, ante, ⟨_, maxBuyIn, ⟨_, minBuyIn, ⟨_, bigBlind,
      ⟨_, smallBlind, ⟨_, maxPlayers, ⟨_, format, ⟨_, structure', ⟨_, type, ⟨name, hname, rfl⟩,
      -, rfl⟩, -, rfl⟩, -, rfl⟩, hmaxPlayers, rfl⟩, hsmall, rfl⟩, hbig, rfl⟩, hmin, rfl⟩, hmax,
      rfl⟩, hante, rfl⟩, htimeBank, rfl⟩, -, rfl⟩ := hread
    exact {
      name := name_of_required hname
      players := players_of_optional hmaxPlayers
      smallBlind := positive_of_required hsmall
      bigBlind := positive_of_required hbig
      minBuyIn := positive_of_required hmin
      maxBuyIn := positive_of_required hmax
      ante := ante_of_read hante
      timeBank := time_of_optional htimeBank
      blinds := hblinds
      buyIns := hbuyIns }

/-- A configuration that is let through, by itself or as that of a cash game. -/
def Accepted (c : TableConfig) : Prop :=
  (∃ v, check v = .valid c) ∨ ∃ arguments, CashGame.config arguments = .ok (.valid c)

theorem Accepted.fields {c : TableConfig} (h : c.Accepted) :
    ∃ fields, ofFields fields = .valid c := by
  rcases h with ⟨v, hv⟩ | ⟨arguments, hgame⟩
  · cases v with
    | object fields => exact ⟨fields, hv⟩
    | _ => cases hv
  · unfold CashGame.config at hgame
    split at hgame
    · cases hgame
    · cases hgame
    · split at hgame
      · dsimp only at hgame
        split at hgame
        · exact ⟨_, Except.ok.inj hgame⟩
        · cases hgame
        · cases hgame
      · cases hgame

theorem Accepted.bounded {c : TableConfig} (h : c.Accepted) : c.Bounded := by
  obtain ⟨fields, hfields⟩ := h.fields
  exact ofFields_bounded hfields

/-- A configuration can be written: its numbers are finite and its strings are texts. -/
structure Writable (c : TableConfig) : Prop where
  smallBlind : c.smallBlind.isFinite = true
  bigBlind : c.bigBlind.isFinite = true
  minBuyIn : c.minBuyIn.isFinite = true
  maxBuyIn : c.maxBuyIn.isFinite = true
  ante : c.ante.number.isFinite = true
  gameType : c.gameType.IsText
  bettingStructure : c.bettingStructure.IsText
  gameFormat : c.gameFormat.IsText

/-- The blinds and the buy-ins are bounded by the greater ones of them. -/
theorem Bounded.writable {c : TableConfig} (h : c.Bounded) (hbig : c.bigBlind.isFinite = true)
    (hmax : c.maxBuyIn.isFinite = true) (hante : c.ante.number.isFinite = true)
    (htype : c.gameType.IsText) (hstructure : c.bettingStructure.IsText)
    (hformat : c.gameFormat.IsText) : c.Writable where
  smallBlind := Binary64.finite_of_not_lt h.smallBlind h.blinds hbig
  bigBlind := hbig
  minBuyIn := Binary64.finite_of_not_lt h.minBuyIn h.buyIns hmax
  maxBuyIn := hmax
  ante := hante
  gameType := htype
  bettingStructure := hstructure
  gameFormat := hformat

end TableConfig

namespace Json

theorem Value.sent_eq_ok {v : Value} {text : List Char} :
    v.sent = .ok text ↔ v.isFinite = true ∧ v.firstHalf? = none ∧ text = v.write := by
  unfold sent
  cases hfinite : v.isFinite with
  | false => simp
  | true =>
    cases v.firstHalf? with
    | none => simp [eq_comm]
    | some half => simp

end Json

namespace TableConfig

theorem dump_isFinite (naming : Naming) (c : TableConfig) : (c.dump naming).isFinite = true ↔
    c.smallBlind.isFinite = true ∧ c.bigBlind.isFinite = true ∧ c.minBuyIn.isFinite = true ∧
      c.maxBuyIn.isFinite = true ∧ c.ante.number.isFinite = true := by
  have htext (t : GivenText) : t.dump.isFinite = true := by cases t <;> rfl
  have hante : c.ante.dump.isFinite = c.ante.number.isFinite := by cases c.ante <;> rfl
  simp [dump, Value.isFinite, Value.allFieldsFinite, htext, hante]

theorem dump_firstHalf? (naming : Naming) (c : TableConfig) :
    (c.dump naming).firstHalf? = none ↔
      c.gameType.IsText ∧ c.bettingStructure.IsText ∧ c.gameFormat.IsText := by
  have htext (t : GivenText) : t.dump.firstHalf? = none ↔ t.IsText := by
    cases t with
    | whole s => simp [GivenText.dump, Value.firstHalf?, GivenText.IsText]
    | torn points =>
      show points.find? (fun n => !n.isValidChar) = none ↔ ∀ n ∈ points, n.isValidChar
      rw [List.find?_eq_none]
      refine forall₂_congr fun n hn => ?_
      rw [Bool.not_eq_true, Bool.not_eq_false', decide_eq_true_eq]
  have hante : c.ante.dump.firstHalf? = none := by cases c.ante <;> rfl
  simp [dump, Value.firstHalf?, Value.firstHalfIn?, htext, hante]

theorem sent_eq_ok {naming : Naming} {c : TableConfig} {text : List Char} :
    (c.dump naming).sent = .ok text ↔ c.Writable ∧ text = (c.dump naming).write := by
  rw [Value.sent_eq_ok, dump_isFinite, dump_firstHalf?]
  constructor
  · rintro ⟨⟨hsmall, hbig, hmin, hmax, hante⟩, ⟨htype, hstructure, hformat⟩, htext⟩
    exact ⟨⟨hsmall, hbig, hmin, hmax, hante, htype, hstructure, hformat⟩, htext⟩
  · rintro ⟨h, htext⟩
    exact ⟨⟨h.smallBlind, h.bigBlind, h.minBuyIn, h.maxBuyIn, h.ante⟩,
      ⟨h.gameType, h.bettingStructure, h.gameFormat⟩, htext⟩

end TableConfig
end PokerClient
