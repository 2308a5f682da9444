import PokerClient.Decoding
import PokerClient.Proofs.FieldChecks

/-!
# What an envelope says

An envelope grants its data or refuses them, with a reason in words or without one. What
a value says as an envelope is told here field by field, without regard to the checks
that find it out, and the checks are shown to find out just that. A response is looked at
in order: its status, its syntax, its shape, and what it says.
-/

namespace PokerClient

open Http Json Numeric Text Validation

namespace Numeric.Binary64

variable {x y : Binary64} {u n : Int}

theorem sameValue_iff : x.sameValue y = true ↔ ∃ a, x.position = some a ∧ y.position = some a := by
  unfold sameValue
  cases x.position <;> cases y.position <;> simp [eq_comm]

theorem position_one : (ofNat 1).position = some (unitsPerOne : Int) := by decide +kernel

theorem position_of_units? (h : x.units? = some u) : x.position = some u := by
  cases x with
  | nan | infinite => cases h
  | finite => exact h

/-- Short of infinity the place of a number is its count of units. -/
theorem units?_of_position (h : x.position = some u) (hfinite : u.natAbs < twoTo 2098) :
    x.units? = some u := by
  cases x with
  | nan => cases h
  | finite => exact h
  | infinite negative =>
    cases negative with
    | false =>
      have hu : (twoTo 2098 : Int) = u := Option.some.inj h
      omega
    | true =>
      have hu : -(twoTo 2098 : Int) = u := Option.some.inj h
      omega

theorem integral_iff : x.truncate? = some n ∧ x.isIntegral = true ↔
    x.units? = some (n * unitsPerOne) := by
  have hpos : (unitsPerOne : Int) ≠ 0 := by decide +kernel
  unfold truncate? isIntegral
  cases hu : x.units? with
  | none => exact ⟨fun h => (nomatch h.1), nofun⟩
  | some u =>
    simp only [Option.map_some, Option.some.injEq, beq_iff_eq]
    constructor
    · rintro ⟨rfl, hmod⟩
      exact (Int.tdiv_mul_cancel (Int.dvd_of_emod_eq_zero hmod)).symm
    · rintro rfl
      exact ⟨Int.mul_tdiv_cancel n hpos, Int.mul_emod_left n _⟩

end Numeric.Binary64

namespace Validation

open Binary64

/-- A string has a text, in which what is no character is replaced. -/
inductive HasText : Value → String → Prop
  | whole (s : String) : HasText (.str s) s
  | torn (points : List Nat) : HasText (.torn points) (textOfPoints points)

theorem text_eq_valid {v : Value} {s : String} : text v = .valid s ↔ HasText v s := by
  constructor
  · intro h
    cases v with
    | str t =>
      cases h
      exact .whole s
    | torn points =>
      cases h
      exact .torn points
    | _ => cases h
  · intro h
    cases h <;> rfl

/-- A value is a string, or it is null and has no text. -/
inductive HasTextOrNull : Value → Option String → Prop
  | null : HasTextOrNull .null none
  | string {v : Value} {s : String} (h : HasText v s) : HasTextOrNull v (some s)

theorem nullable_text_eq_valid {v : Value} {s : Option String} :
    nullable text v = .valid s ↔ HasTextOrNull v s := by
  unfold nullable
  constructor
  · intro h
    split at h
    · cases h
      exact .null
    · obtain ⟨t, ht, rfl⟩ := Checked.map_eq_valid.1 h
      exact .string (text_eq_valid.1 ht)
  · intro h
    cases h with
    | null => rfl
    | string h => cases h <;> rfl

/-- A value stands for a truth value: as such, as the number zero or one, or as one of a
few words in any case of letters. -/
inductive Affirms : Value → Bool → Prop
  | bool (b : Bool) : Affirms (.bool b) b
  | zero : Affirms (.int 0) false
  | one : Affirms (.int 1) true
  | floatZero {x : Binary64} (h : x.sameValue .zero = true) : Affirms (.float x) false
  | floatOne {x : Binary64} (h : x.sameValue (.ofNat 1) = true) : Affirms (.float x) true
  | word {s w : String} {b : Bool} (hword : (w, b) ∈ truthWords)
      (hcase : String.ofList (lower s.toList) = w) : Affirms (.str s) b

theorem truthOfInteger_eq_valid {n : Int} {b : Bool} :
    truthOfInteger n = .valid b ↔ n = if b then 1 else 0 := by
  unfold truthOfInteger
  constructor
  · intro h
    split at h
    · cases h
      assumption
    · split at h
      · cases h
        assumption
      · cases h
  · rintro rfl
    cases b <;> rfl

theorem lookup_truthWords {w : String} {b : Bool} :
    truthWords.lookup w = some b ↔ (w, b) ∈ truthWords := by
  constructor
  · intro h
    obtain ⟨before, after, hwords, -⟩ := List.lookup_eq_some_iff.1 h
    rw [hwords]
    exact List.mem_append_right _ List.mem_cons_self
  · intro h
    have hall : ∀ entry ∈ truthWords, truthWords.lookup entry.1 = some entry.2 := by decide
    exact hall (w, b) h

theorem truth_float {x : Binary64} {b : Bool} : truth (.float x) = .valid b ↔
    x.units? = some (if b then (unitsPerOne : Int) else 0) := by
  have hsmall : (if b then 1 else 0 : Int).natAbs < twoTo 63 := by cases b <;> decide
  have hunits :
      (if b then 1 else 0 : Int) * unitsPerOne = if b then (unitsPerOne : Int) else 0 := by
    cases b with
    | false => exact Int.zero_mul _
    | true => exact Int.one_mul _
  rw [← hunits]
  constructor
  · intro h
    simp only [truth] at h
    split at h
    · cases h
    · rename_i n hn
      split at h
      · rename_i hcond
        rw [truthOfInteger_eq_valid] at h
        rw [Bool.and_eq_true] at hcond
        rw [← h]
        exact integral_iff.1 ⟨hn, hcond.1⟩
      · cases h
  · intro h
    obtain ⟨hn, hintegral⟩ := integral_iff.2 h
    simp only [truth, hn, hintegral, Bool.true_and, decide_eq_true hsmall, if_true]
    exact truthOfInteger_eq_valid.2 rfl

theorem truth_eq_valid {v : Value} {b : Bool} : truth v = .valid b ↔ Affirms v b := by
  constructor
  · intro h
    cases v with
    | bool c =>
      cases h
      exact .bool b
    | int n =>
      have hn : n = if b then 1 else 0 := by
        simp only [truth] at h
        split at h
        · exact truthOfInteger_eq_valid.1 h
        · cases h
      cases b with
      | false =>
        subst hn
        exact .zero
      | true =>
        subst hn
        exact .one
    | float x =>
      have hplace := position_of_units? (truth_float.1 h)
      cases b with
      | false => exact .floatZero (sameValue_iff.2 ⟨0, hplace, rfl⟩)
      | true => exact .floatOne (sameValue_iff.2 ⟨_, hplace, position_one⟩)
    | str s =>
      simp only [truth] at h
      split at h
      · rename_i c hc
        cases h
        exact .word (lookup_truthWords.1 hc) rfl
      · cases h
    | _ => cases h
  · intro h
    cases h with
    | bool => rfl
    | zero => rfl
    | one => rfl
    | floatZero hx =>
      obtain ⟨a, ha, hzero⟩ := sameValue_iff.1 hx
      cases hzero
      rw [truth_float, if_neg Bool.false_ne_true]
      exact units?_of_position ha (by decide +kernel)
    | floatOne hx =>
      obtain ⟨a, ha, hone⟩ := sameValue_iff.1 hx
      rw [← Option.some.inj (position_one.symm.trans hone)] at ha
      rw [truth_float, if_pos rfl]
      exact units?_of_position ha (by decide +kernel)
    | word hword hcase =>
      simp only [truth, hcase, lookup_truthWords.2 hword]

end Validation

namespace Envelope

/-- A field gives a reason: in words, in the words of an object, or none at all. -/
inductive Gives : Option Value → Option String → Prop
  | absent : Gives none none
  | null : Gives (some .null) none
  | text {v : Value} {s : String} (h : HasText v s) : Gives (some v) (some s)
  | untold {fields : Fields}
      (h : fields.get? "message" = none ∨ fields.get? "message" = some .null) :
      Gives (some (.object fields)) none
  | told {fields : Fields} {v : Value} {s : String} (hmessage : fields.get? "message" = some v)
      (h : HasText v s) : Gives (some (.object fields)) (some s)

/-- A value grants data, or refuses them with a reason that is not empty or with none. -/
inductive Says : Value → Except (Option String) Value → Prop
  | granted {fields : Fields} {v : Value} {reason : Option String}
      (hsuccess : fields.get? "success" = some v) (hv : Affirms v true)
      (herror : Gives (fields.get? "error") reason) :
      Says (.object fields) (.ok ((fields.get? "data").getD .null))
  | refused {fields : Fields} {v : Value} {reason : Option String}
      (hsuccess : fields.get? "success" = some v) (hv : Affirms v false)
      (herror : Gives (fields.get? "error") reason) :
      Says (.object fields) (.error (reason.filter (· != "")))

theorem ofFields_error {fields : Fields} {message : Option String} :
    EnvelopeError.ofFields fields = .valid { message } ↔ Gives (some (.object fields)) message := by
  have hmk : EnvelopeError.ofFields fields = .valid { message } ↔
      optional fields ["message"] none (nullable text) = .valid message := by
    unfold EnvelopeError.ofFields
    rw [Checked.map_eq_valid]
    constructor
    · rintro ⟨given, hgiven, heq⟩
      cases heq
      exact hgiven
    · intro h
      exact ⟨message, h, rfl⟩
  rw [hmk, optional_single]
  constructor
  · rintro (⟨habsent, rfl⟩ | ⟨v, hv, hread⟩)
    · exact .untold (Or.inl habsent)
    · cases nullable_text_eq_valid.1 hread with
      | null => exact .untold (Or.inr hv)
      | string hs => exact .told hv hs
  · intro h
    cases h with
    | text h => cases h
    | untold h =>
      rcases h with habsent | hnull
      · exact Or.inl ⟨habsent, rfl⟩
      · exact Or.inr ⟨.null, hnull, rfl⟩
    | told hmessage h => exact Or.inr ⟨_, hmessage, nullable_text_eq_valid.2 (.string h)⟩

theorem checkReason_valid {v : Value} {reason : Option String} :
    (∃ e, checkReason v = .valid e ∧ e.bind EnvelopeError.message = reason) ↔
      Gives (some v) reason := by
  constructor
  · rintro ⟨e, he, rfl⟩
    cases v with
    | null =>
      cases he
      exact .null
    | str s =>
      cases he
      exact .text (.whole s)
    | torn points =>
      cases he
      exact .text (.torn points)
    | object fields =>
      obtain ⟨given, hgiven, rfl⟩ := Checked.map_eq_valid.1 he
      exact ofFields_error.1 hgiven
    | _ => cases he
  · intro h
    cases v with
    | null =>
      cases h with
      | null => exact ⟨none, rfl, rfl⟩
      | text h => cases h
    | str s =>
      cases h with
      | text h =>
        cases h
        exact ⟨some { message := some s }, rfl, rfl⟩
    | torn points =>
      cases h with
      | text h =>
        cases h
        exact ⟨some { message := some (textOfPoints points) }, rfl, rfl⟩
    | object fields =>
      exact ⟨some { message := reason }, Checked.map_eq_valid.2 ⟨_, ofFields_error.2 h, rfl⟩, rfl⟩
    | _ =>
      cases h with
      | text h => cases h

theorem error_valid {fields : Fields} {reason : Option String} :
    (∃ e, optional fields ["error"] none checkReason = .valid e ∧
      e.bind EnvelopeError.message = reason) ↔ Gives (fields.get? "error") reason := by
  simp only [optional_single]
  cases fields.get? "error" with
  | none =>
    constructor
    · rintro ⟨e, ⟨-, rfl⟩ | ⟨v, hv, -⟩, rfl⟩
      · exact .absent
      · cases hv
    · intro h
      cases h
      exact ⟨none, Or.inl ⟨rfl, rfl⟩, rfl⟩
  | some v =>
    rw [← checkReason_valid]
    simp

theorem data_valid {fields : Fields} {data : Value} :
    optional fields ["data"] .null anything = .valid data ↔
      data = (fields.get? "data").getD .null := by
  rw [optional_single]
  cases fields.get? "data" <;> simp [anything, eq_comm]

theorem check_eq_valid {v : Value} {e : Envelope} : check v = .valid e ↔
    ∃ fields s, v = .object fields ∧ Fields.get? fields "success" = some s ∧ Affirms s e.success ∧
      e.data = (Fields.get? fields "data").getD .null ∧
      optional fields ["error"] none checkReason = .valid e.error := by
  cases v with
  | object fields =>
    show ofFields fields = .valid e ↔ _
    unfold ofFields
    simp only [Checked.seq_eq_valid, Checked.map_eq_valid, required_single, data_valid,
      truth_eq_valid]
    constructor
    · rintro ⟨_, error, ⟨_, data, ⟨success, ⟨s, hs, hsuccess⟩, rfl⟩, hdata, rfl⟩, herror, rfl⟩
      exact ⟨fields, s, rfl, hs, hsuccess, hdata, herror⟩
    · rintro ⟨_, s, heq, hs, hsuccess, hdata, herror⟩
      cases heq
      exact ⟨_, _, ⟨_, _, ⟨_, ⟨s, hs, hsuccess⟩, rfl⟩, hdata, rfl⟩, herror, rfl⟩
  | _ => exact ⟨nofun, by rintro ⟨_, _, ⟨⟩, _⟩⟩

theorem reason?_eq (e : Envelope) :
    e.reason? = (e.error.bind EnvelopeError.message).filter (· != "") := by
  unfold reason?
  cases e.error <;> rfl

/-- What is found out of an envelope is what it says. -/
theorem exists_check_iff {v : Value} {said : Except (Option String) Value} :
    (∃ e, check v = .valid e ∧ (if e.success then .ok e.data else .error e.reason?) = said) ↔
      Says v said := by
  constructor
  · rintro ⟨e, he, rfl⟩
    obtain ⟨fields, s, rfl, hs, hsuccess, hdata, herror⟩ := check_eq_valid.1 he
    have hgives := error_valid.1 ⟨e.error, herror, rfl⟩
    cases hb : e.success with
    | true =>
      rw [hb] at hsuccess
      rw [if_pos rfl, hdata]
      exact .granted hs hsuccess hgives
    | false =>
      rw [hb] at hsuccess
      rw [if_neg Bool.false_ne_true, reason?_eq]
      exact .refused hs hsuccess hgives
  · intro h
    cases h with
    | granted hs hsuccess hgives =>
      obtain ⟨error, herror, rfl⟩ := error_valid.2 hgives
      exact ⟨⟨true, _, error⟩, check_eq_valid.2 ⟨_, _, rfl, hs, hsuccess, rfl, herror⟩, rfl⟩
    | refused hs hsuccess hgives =>
      obtain ⟨error, herror, rfl⟩ := error_valid.2 hgives
      exact ⟨⟨false, _, error⟩, check_eq_valid.2 ⟨_, _, rfl, hs, hsuccess, rfl, herror⟩,
        congrArg Except.error (reason?_eq _)⟩

theorem unwrap_of_says {v : Value} {said : Except (Option String) Value} (h : Says v said) :
    unwrap v = said.mapError .rejected := by
  obtain ⟨e, he, rfl⟩ := exists_check_iff.2 h
  unfold unwrap
  rw [he]
  dsimp only
  split <;> rfl

theorem unwrap_of_misshapen {v : Value} (h : ¬ ∃ said, Says v said) :
    ∃ issues, unwrap v = .error (.notEnvelope issues) := by
  unfold unwrap
  cases he : check v with
  | valid e => exact absurd ⟨_, exists_check_iff.1 ⟨e, he, rfl⟩⟩ h
  | invalid issues => exact ⟨issues.length, rfl⟩

end Envelope

namespace Http

end Http

namespace Decoding

variable {codecs : Charset.Codecs} {r : Response} {octets : List Octet}

theorem isSuccess_iff : r.isSuccess = true ↔ 200 ≤ r.status ∧ r.status ≤ 299 := by
  simp [Response.isSuccess]

theorem envelope_of_refused (h : ¬ (200 ≤ r.status ∧ r.status ≤ 299)) :
    envelope codecs r = (match errorBody codecs r with
      | .ok body => .error (.failure (.status r.status body))
      | .error e => .error (.escape e)) := by
  have hsuccess : ¬ r.isSuccess = true := fun hs => h (isSuccess_iff.1 hs)
  unfold envelope checkStatus
  rw [if_neg hsuccess]
  cases errorBody codecs r <;> rfl

theorem envelope_of_success (h : 200 ≤ r.status ∧ r.status ≤ 299) :
    envelope codecs r = r.json.bind fun v => (Envelope.unwrap v).mapError .failure := by
  unfold envelope checkStatus
  rw [if_pos (isSuccess_iff.2 h)]
  rfl

theorem errorBody_of_text {body : String} (h : r.text codecs = .ok body) :
    errorBody codecs r = .ok (if body = "" then unknownError else body) := by
  unfold errorBody
  rw [h]
  by_cases hempty : body = ""
  · subst hempty
    rfl
  · rw [if_neg hempty]
    split <;> simp_all

end Decoding
end PokerClient
