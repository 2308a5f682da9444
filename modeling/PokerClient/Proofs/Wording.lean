import Mathlib
import PokerClient.Proofs.EnvelopeReading
import PokerClient.Proofs.ParsedValue
import PokerClient.Rejection

/-!
# The words of an error body

An error body has words under `error`, or under `message` in an object there. Only where
nothing counts as given under `error` are its words looked for under `message`, in the same
two ways. Words that are found are told in the place of the body, and they are never the
whole body; a body without words is told as it stands.
-/

namespace PokerClient

open Json Validation

namespace Rejection

variable {fields : Fields} {v : Value} {words body : String}

/-- A field holds words: a string that is not empty. -/
def Holds (fields : Fields) (name words : String) : Prop :=
  ∃ v, fields.get? name = some v ∧ HasText v words ∧ words ≠ ""

/-- A field holds words, or an object that holds them as its message. -/
inductive Tells (fields : Fields) (name words : String) : Prop
  | bare (h : Holds fields name words)
  | nested {inner : Fields} (hinner : fields.get? name = some (.object inner))
      (h : Holds inner "message" words)

/-- Something counts as given in a field. -/
def Given (fields : Fields) (name : String) : Prop :=
  ((fields.get? name).getD .null).isTruthy = true

/-- An error body has words. -/
inductive Worded (fields : Fields) (words : String) : Prop
  | error (h : Tells fields "error" words)
  | message (herror : ¬ Given fields "error") (h : Tells fields "message" words)

/-- The words of a value by itself. -/
def text? : Value → Option String
  | .str s => if s = "" then none else some s
  | .torn points => some (textOfPoints points)
  | _ => none

/-- The words of what is given as an error or as a message. -/
def spoken? : Value → Option String
  | .object inner => text? ((Fields.get? inner "message").getD .null)
  | v => text? v

theorem words?_object (fields : Fields) :
    words? (.object fields) = spoken? (firstTruthy fields "error" "message") := by
  unfold words? spoken?
  dsimp only
  cases firstTruthy fields "error" "message" <;> rfl

theorem text?_eq_some (hv : v.Proper) : text? v = some words ↔ HasText v words ∧ words ≠ "" := by
  constructor
  · intro h
    unfold text? at h
    split at h
    · split at h
      · cases h
      · rename_i hs
        cases h
        exact ⟨.whole _, hs⟩
    · rename_i points
      cases h
      refine ⟨.torn points, textOfPoints_ne_empty ?_⟩
      cases hv with
      | torn hpoints =>
        rintro rfl
        cases hpoints
    · cases h
  · rintro ⟨htext, hwords⟩
    cases htext with
    | whole => exact if_neg hwords
    | torn => rfl

theorem text?_field (h : (Value.object fields).Proper) (name : String) :
    text? ((fields.get? name).getD .null) = some words ↔ Holds fields name words := by
  rw [text?_eq_some (h.get name)]
  unfold Holds
  cases fields.get? name with
  | none =>
    constructor
    · rintro ⟨htext, -⟩
      cases htext
    · rintro ⟨v, hv, -⟩
      cases hv
  | some v => simp

theorem spoken?_field (h : (Value.object fields).Proper) (name : String) :
    spoken? ((fields.get? name).getD .null) = some words ↔ Tells fields name words := by
  have hbare (hobject : ∀ inner, fields.get? name ≠ some (.object inner)) :
      Tells fields name words ↔ Holds fields name words := by
    constructor
    · intro htells
      cases htells with
      | bare h => exact h
      | nested hinner => exact absurd hinner (hobject _)
    · exact .bare
  have hvalue := h.get name
  rw [← text?_field h name] at hbare
  cases hget : fields.get? name with
  | none =>
    rw [hget] at hbare
    exact (hbare nofun).symm
  | some v =>
    rw [hget] at hbare hvalue
    cases v with
    | object inner =>
      show text? ((Fields.get? inner "message").getD .null) = some words ↔ _
      rw [text?_field hvalue]
      constructor
      · exact .nested hget
      · intro htells
        cases htells with
        | bare h =>
          obtain ⟨v, hv, htext, -⟩ := h
          cases hget.symm.trans hv
          cases htext
        | nested hinner h =>
          cases hget.symm.trans hinner
          exact h
    | _ => exact (hbare nofun).symm

theorem isTruthy_of_text (h : HasText v words) (hwords : words ≠ "") : v.isTruthy = true := by
  cases h with
  | whole => simp [Value.isTruthy, hwords]
  | torn points =>
    have hpoints : points ≠ [] := by
      rintro rfl
      exact hwords rfl
    simp [Value.isTruthy, hpoints]

/-- What has words counts as given. -/
theorem given_of_tells {name : String} (h : Tells fields name words) : Given fields name := by
  unfold Given
  cases h with
  | bare h =>
    obtain ⟨v, hv, htext, hwords⟩ := h
    rw [hv]
    exact isTruthy_of_text htext hwords
  | @nested inner hinner h =>
    obtain ⟨v, hv, -, -⟩ := h
    rw [hinner]
    cases inner with
    | nil => cases hv
    | cons => rfl

theorem Tells.words_ne_empty {name : String} (h : Tells fields name words) : words ≠ "" := by
  cases h with
  | bare h | nested _ h =>
    obtain ⟨_, _, _, hwords⟩ := h
    exact hwords

theorem Worded.ne_empty (h : Worded fields words) : words ≠ "" := by
  cases h with
  | error htells | message _ htells => exact htells.words_ne_empty

theorem words?_eq_some_iff (h : (Value.object fields).Proper) :
    words? (.object fields) = some words ↔ Worded fields words := by
  rw [words?_object]
  unfold firstTruthy
  dsimp only
  by_cases hgiven : Given fields "error"
  · have herror : ((fields.get? "error").getD .null).isTruthy = true := hgiven
    rw [if_pos herror, spoken?_field h]
    constructor
    · exact .error
    · intro hworded
      cases hworded with
      | error htells => exact htells
      | message hnot => exact absurd hgiven hnot
  · have herror : ¬ ((fields.get? "error").getD .null).isTruthy = true := hgiven
    rw [if_neg herror, spoken?_field h]
    constructor
    · exact .message hgiven
    · intro hworded
      cases hworded with
      | error htells => exact absurd (given_of_tells htells) hgiven
      | message _ htells => exact htells

/-! ## Words are shorter than the body -/

theorem length_textOfPoints (points : List Nat) : (textOfPoints points).length = points.length := by
  simp [textOfPoints]

theorem Holds.length_lt {name : String} {n : Nat} (h : Holds fields name words)
    (hbelow : (Value.object fields).Below n) : words.length < n := by
  obtain ⟨v, hv, htext, -⟩ := h
  have hvalue := hbelow.get hv
  cases htext with
  | whole =>
    cases hvalue with
    | str hlength =>
      rw [length_textOfPoints]
      exact hlength
  | torn points =>
    cases hvalue with
    | torn hlength =>
      rw [length_textOfPoints]
      exact hlength

theorem Tells.length_lt {name : String} {n : Nat} (h : Tells fields name words)
    (hbelow : (Value.object fields).Below n) : words.length < n := by
  cases h with
  | bare h => exact h.length_lt hbelow
  | nested hinner h => exact h.length_lt (hbelow.get hinner)

/-- Words that a text holds are not the text. -/
theorem Worded.ne_body (h : Worded fields words)
    (hparse : parseText .lenient body.toList = .ok (.object fields)) : words ≠ body := by
  have hbelow := parseText_below hparse
  have hlength : words.length < body.toList.length := by
    cases h with
    | error htells => exact htells.length_lt hbelow
    | message _ htells => exact htells.length_lt hbelow
  rintro rfl
  rw [String.length_toList] at hlength
  exact Nat.lt_irrefl _ hlength

/-! ## What is told -/

theorem message_of_worded (hparse : parseText .lenient body.toList = .ok (.object fields))
    (h : Worded fields words) : message body = words := by
  unfold message
  rw [hparse]
  dsimp only
  rw [(words?_eq_some_iff (parseText_proper hparse)).2 h]
  rfl

theorem message_of_wordless
    (h : ∀ fields words, parseText .lenient body.toList = .ok (.object fields) →
      ¬ Worded fields words) : message body = body := by
  unfold message
  split
  · rename_i v hparse
    cases hwords : words? v with
    | none => rfl
    | some words =>
      obtain ⟨fields, rfl⟩ : ∃ fields : Fields, v = .object fields := by
        cases v with
        | object fields => exact ⟨fields, rfl⟩
        | _ => cases hwords
      exact absurd ((words?_eq_some_iff (parseText_proper hparse)).1 hwords) (h fields words hparse)
  · rfl

/-- What is told of a refusal is not empty unless its body is. -/
theorem message_ne_empty (h : body ≠ "") : message body ≠ "" := by
  by_cases hworded : ∃ fields words,
      parseText .lenient body.toList = .ok (.object fields) ∧ Worded fields words
  · obtain ⟨fields, words, hparse, hwords⟩ := hworded
    rw [message_of_worded hparse hwords]
    exact hwords.ne_empty
  · rw [message_of_wordless fun fields words hparse hwords =>
      hworded ⟨fields, words, hparse, hwords⟩]
    exact h

/-- What is told of an error body. -/
structure Told (body : String) : Prop where
  /-- Words that are found are told, whatever else the body holds, and they are not the body. -/
  worded : ∀ (fields : Fields) (words : String),
    parseText .lenient body.toList = .ok (.object fields) → Worded fields words →
      message body = words ∧ words ≠ "" ∧ words ≠ body
  /-- A body is told as it stands exactly if it has no words. -/
  whole : message body = body ↔ ∀ (fields : Fields) (words : String),
    parseText .lenient body.toList = .ok (.object fields) → ¬ Worded fields words
  /-- It is told so if it holds no words anywhere, and no object for a message. -/
  wordless : (∀ fields : Fields, parseText .lenient body.toList = .ok (.object fields) →
    (∀ words, ¬ Tells fields "error" words ∧ ¬ Holds fields "message" words) ∧
      ∀ inner : Fields, fields.get? "message" ≠ some (.object inner)) → message body = body
  /-- What is given as an error without words keeps those of the message from being told. -/
  overlooked : ∀ fields : Fields, parseText .lenient body.toList = .ok (.object fields) →
    Given fields "error" → (∀ words, ¬ Tells fields "error" words) → message body = body

/-- An error body is told by its own words, except where what it gives as an error has none. -/
theorem message_told (body : String) : Told body := by
  have hworded (fields : Fields) (words : String)
      (hparse : parseText .lenient body.toList = .ok (.object fields)) (h : Worded fields words) :
      message body = words ∧ words ≠ "" ∧ words ≠ body :=
    ⟨message_of_worded hparse h, h.ne_empty, h.ne_body hparse⟩
  refine ⟨hworded, ⟨?_, message_of_wordless⟩, ?_, ?_⟩
  · intro hwhole fields words hparse h
    obtain ⟨hmessage, -, hne⟩ := hworded fields words hparse h
    exact hne (hmessage.symm.trans hwhole)
  · intro hnone
    refine message_of_wordless fun fields words hparse h => ?_
    obtain ⟨hwords, hobject⟩ := hnone fields hparse
    cases h with
    | error htells => exact (hwords words).1 htells
    | message _ htells =>
      cases htells with
      | bare hholds => exact (hwords words).2 hholds
      | nested hinner => exact hobject _ hinner
  · intro fields hparse hgiven hnone
    refine message_of_wordless fun fields' words hparse' h => ?_
    obtain rfl : fields = fields' := by
      cases hparse.symm.trans hparse'
      rfl
    cases h with
    | error htells => exact hnone words htells
    | message hnot => exact hnot hgiven

/-- An error that is only flagged keeps the words beside it from being told. -/
theorem message_overlooks_words :
    let fields : Fields := [("error", .bool true), ("message", .str "Bad password")]
    let body := String.ofList (Value.object fields).write
    parseText .lenient body.toList = .ok (.object fields) ∧
      Holds fields "message" "Bad password" ∧ message body = body := by
  intro fields body
  exact ⟨by cbv, ⟨_, rfl, .whole _, by decide⟩, by decide +kernel⟩

end Rejection
end PokerClient
