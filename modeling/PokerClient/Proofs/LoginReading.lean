import Mathlib
import PokerClient.Proofs.EnvelopeReading

/-!
# What login answers are read as

A login comes bare or in an envelope, and it is taken for an envelope only if it names no
user. So an envelope that grants a login is read as the login in it, and one that refuses
is told as a refusal; but a refusal that names a user is read as a bare login, and logs
that user in if it has tokens as well.
-/

namespace PokerClient

open Http Json Text Validation

namespace Decoding

variable {codecs : Charset.Codecs} {r : Response} {v data : Value} {fields : Fields}
  {reason : Option String}

/-- A value says how a request went, and does not say who logged in. -/
def Wraps (v : Value) : Prop :=
  ∃ fields, v = .object fields ∧ Fields.get? fields "success" ≠ none ∧
    Fields.get? fields "user" = none

theorem isEnvelope_iff : isEnvelope v = true ↔ Wraps v := by
  cases v with
  | object fields =>
    simp [isEnvelope, Wraps, Fields.has, Option.isSome_iff_ne_none, Option.isNone_iff_eq_none]
  | _ => exact ⟨nofun, by rintro ⟨_, ⟨⟩, _⟩⟩

/-- What says how a request went is told apart by whether it names a user. -/
theorem wraps_iff {said : Except (Option String) Value}
    (h : Envelope.Says (.object fields) said) :
    Wraps (.object fields) ↔ fields.get? "user" = none := by
  have hsuccess : fields.get? "success" ≠ none := by
    cases h with
    | granted hsuccess | refused hsuccess => simp [hsuccess]
  constructor
  · rintro ⟨_, heq, -, huser⟩
    cases heq
    exact huser
  · exact fun huser => ⟨fields, rfl, hsuccess, huser⟩

/-- What a value comes to that is read as a login. -/
inductive ReadAs (v : Value) : Except Stop Login → Prop
  | login {l : Login} (h : Login.check v = .valid l) : ReadAs v (.ok l)
  | malformed {issues : List Issue} (h : Login.check v = .invalid issues) :
      ReadAs v (.error (.failure (.notLogin issues.length)))

theorem bareLogin_readAs (v : Value) : ReadAs v ((bareLogin v).mapError .failure) := by
  unfold bareLogin
  cases h : Login.check v with
  | valid l => exact .login h
  | invalid issues => exact .malformed h

theorem ReadAs.not_rejected {x : Except Stop Login} {f : Failure} (h : ReadAs v x)
    (hf : f.kind = .rejected) : x ≠ .error (.failure f) := by
  rintro rfl
  cases h
  cases hf

theorem loginOf_of_bare (h : ¬ Wraps v) : loginOf v = bareLogin v := by
  rw [loginOf_eq, if_neg (mt isEnvelope_iff.1 h)]
  rfl

theorem loginOf_of_wraps (h : Wraps v) : loginOf v = Envelope.unwrap v >>= bareLogin := by
  rw [loginOf_eq, if_pos (isEnvelope_iff.2 h)]

theorem loginOf_of_granted (h : Wraps v) (hsaid : Envelope.Says v (.ok data)) :
    loginOf v = bareLogin data := by
  rw [loginOf_of_wraps h, Envelope.unwrap_of_says hsaid]
  rfl

theorem loginOf_of_refused (h : Wraps v) (hsaid : Envelope.Says v (.error reason)) :
    loginOf v = .error (.rejected reason) := by
  rw [loginOf_of_wraps h, Envelope.unwrap_of_says hsaid]
  rfl

theorem login_of_success (hstatus : 200 ≤ r.status ∧ r.status ≤ 299) (hbody : r.json = .ok v) :
    login codecs r = (loginOf v).mapError .failure := by
  unfold login checkStatus
  rw [if_pos (isSuccess_iff.2 hstatus), hbody]
  rfl

theorem login_of_bare (hstatus : 200 ≤ r.status ∧ r.status ≤ 299) (hbody : r.json = .ok v)
    (h : ¬ Wraps v) : ReadAs v (login codecs r) := by
  rw [login_of_success hstatus hbody, loginOf_of_bare h]
  exact bareLogin_readAs v

theorem login_of_status {body : String} (hstatus : ¬ (200 ≤ r.status ∧ r.status ≤ 299))
    (htext : r.text codecs = .ok body) (hbody : body ≠ "") :
    login codecs r = .error (.failure (.status r.status body)) := by
  have hsuccess : ¬ r.isSuccess = true := fun h => hstatus (isSuccess_iff.1 h)
  unfold login checkStatus
  rw [if_neg hsuccess, errorBody_of_text htext, if_neg hbody]
  rfl

/-! ## Refusals -/

theorem envelope_of_value (hstatus : 200 ≤ r.status ∧ r.status ≤ 299) (hbody : r.json = .ok v) :
    envelope codecs r = (Envelope.unwrap v).mapError .failure := by
  rw [envelope_of_success hstatus, hbody]
  rfl

theorem json_not_rejected {f : Failure} (hf : f.kind = .rejected) :
    r.json ≠ .error (.failure f) := by
  intro h
  unfold Response.json at h
  split at h
  · cases h
  · split at h
    · cases h
    · cases h
      cases hf

/-- Only an envelope that refuses is rejected, and in its own words. -/
theorem unwrap_rejected {f : Failure} (h : Envelope.unwrap v = .error f)
    (hf : f.kind = .rejected) :
    ∃ reason, Envelope.Says v (.error reason) ∧ f = .rejected reason := by
  by_cases hsaid : ∃ said, Envelope.Says v said
  · obtain ⟨said, hsaid⟩ := hsaid
    rw [Envelope.unwrap_of_says hsaid] at h
    cases said with
    | ok data => cases h
    | error reason =>
      cases h
      exact ⟨reason, hsaid, rfl⟩
  · obtain ⟨issues, hissues⟩ := Envelope.unwrap_of_misshapen hsaid
    cases hissues.symm.trans h
    cases hf

theorem envelope_rejected {f : Failure} (h : envelope codecs r = .error (.failure f))
    (hf : f.kind = .rejected) :
    (200 ≤ r.status ∧ r.status ≤ 299) ∧ ∃ v reason, r.json = .ok v ∧
      Envelope.Says v (.error reason) ∧ f = .rejected reason := by
  by_cases hstatus : 200 ≤ r.status ∧ r.status ≤ 299
  · refine ⟨hstatus, ?_⟩
    cases hjson : r.json with
    | error stop =>
      rw [envelope_of_success hstatus, hjson] at h
      cases h
      exact absurd hjson (json_not_rejected hf)
    | ok v =>
      rw [envelope_of_value hstatus hjson] at h
      cases hunwrap : Envelope.unwrap v with
      | ok data =>
        rw [hunwrap] at h
        cases h
      | error e =>
        rw [hunwrap] at h
        cases h
        obtain ⟨reason, hsaid, hreason⟩ := unwrap_rejected hunwrap hf
        exact ⟨v, reason, rfl, hsaid, hreason⟩
  · rw [envelope_of_refused hstatus] at h
    split at h
    · cases h
      cases hf
    · cases h

/-- How a refusal in an envelope is read as the answer to a login. -/
structure RefusalRead (codecs : Charset.Codecs) (r : Response) (fields : Fields) (f : Failure) :
    Prop where
  status : 200 ≤ r.status ∧ r.status ≤ 299
  body : r.json = .ok (.object fields)
  reason : ∃ reason, f = .rejected reason ∧ Envelope.Says (.object fields) (.error reason)
  /-- The refusal is told in the same words exactly if it names no user. -/
  told : login codecs r = .error (.failure f) ↔ fields.get? "user" = none
  /-- One that names a user is read as if it were no refusal. -/
  overlooked : fields.get? "user" ≠ none → ReadAs (.object fields) (login codecs r)

/-- What is rejected as an envelope is rejected as the answer to a login, unless it names a
user. -/
theorem login_of_rejected {f : Failure} (h : envelope codecs r = .error (.failure f))
    (hf : f.kind = .rejected) : ∃ fields, RefusalRead codecs r fields f := by
  obtain ⟨hstatus, v, reason, hbody, hsaid, hreason⟩ := envelope_rejected h hf
  obtain ⟨fields, rfl⟩ : ∃ fields : Fields, v = .object fields := by
    cases hsaid with
    | refused => exact ⟨_, rfl⟩
  have hwraps := wraps_iff hsaid
  have hread (huser : fields.get? "user" ≠ none) : ReadAs (.object fields) (login codecs r) :=
    login_of_bare hstatus hbody (mt hwraps.1 huser)
  refine ⟨fields, hstatus, hbody, ⟨reason, hreason, hsaid⟩, ⟨?_, ?_⟩, hread⟩
  · intro hlogin
    exact Classical.byContradiction fun huser => (hread huser).not_rejected hf hlogin
  · intro huser
    rw [login_of_success hstatus hbody, loginOf_of_refused (hwraps.2 huser) hsaid, hreason]
    rfl

/-- An account that is locked, in an answer that names no user but has tokens. -/
theorem login_of_rejected_of_locked :
    let codecs := Charset.Codecs.ascii
    let refusal : Fields :=
      [("success", .str "Off"), ("error", .object [("message", .str "locked")]),
        ("tokens", .object [("accessToken", .str "a"), ("refreshToken", .str "b")])]
    let r : Response :=
      { status := 200, headers := [], body := some (Utf8.encode (Value.object refusal).write) }
    let f : Failure := .rejected (some "locked")
    envelope codecs r = .error (.failure f) ∧ f.kind = .rejected ∧
      ∃ fields, RefusalRead codecs r fields f := by
  intro codecs refusal r f
  have hbody : r.json = .ok (.object refusal) := by cbv
  have hword : Affirms (.str "Off") false := .word (w := "off") (by decide) (by decide)
  have herror : Envelope.Gives (refusal.get? "error") (some "locked") := .told rfl (.whole "locked")
  have hsaid : Envelope.Says (.object refusal) (.error (some "locked")) := .refused rfl hword herror
  have hrejected : envelope codecs r = .error (.failure f) := by
    rw [envelope_of_value ⟨by decide, by decide⟩ hbody, Envelope.unwrap_of_says hsaid]
    rfl
  exact ⟨hrejected, rfl, login_of_rejected hrejected rfl⟩

/-- A refusal that names a user and has tokens logs that user in. -/
theorem login_overlooks_refusal :
    let codecs := Charset.Codecs.ascii
    let user : User :=
      { id := "u", username := "n", email := "", displayName := none, playerId := none
        roles := [] }
    let tokens : Tokens := { accessToken := "a", refreshToken := "b", expiresAt := none }
    let refusal : Fields :=
      [("success", .bool false), ("error", .str "locked"),
        ("user", .object [("id", .str "u"), ("username", .str "n")]),
        ("tokens", .object [("accessToken", .str "a"), ("refreshToken", .str "b")])]
    let r : Response :=
      { status := 200, headers := [], body := some (Utf8.encode (Value.object refusal).write) }
    envelope codecs r = .error (.failure (.rejected (some "locked"))) ∧
      login codecs r = .ok { user, tokens, message := "" } := by
  intro codecs user tokens refusal r
  have hbody : r.json = .ok (.object refusal) := by cbv
  have herror : Envelope.Gives (refusal.get? "error") (some "locked") := .text (.whole "locked")
  have hsaid : Envelope.Says (.object refusal) (.error (some "locked")) :=
    .refused rfl (.bool false) herror
  constructor
  · rw [envelope_of_value ⟨by decide, by decide⟩ hbody, Envelope.unwrap_of_says hsaid]
    rfl
  · rw [login_of_success ⟨by decide, by decide⟩ hbody]
    rfl

/-! ## Grants -/

/-- A login is read the same be it bare or in an envelope. -/
theorem login_of_enveloped {r r' : Response} {payload success : Value} {fields : Fields}
    (hstatus : 200 ≤ r.status ∧ r.status ≤ 299) (hstatus' : 200 ≤ r'.status ∧ r'.status ≤ 299)
    (hbody : r.json = .ok payload) (hbody' : r'.json = .ok (.object fields))
    (hpayload : ¬ Wraps payload) (huser : fields.get? "user" = none)
    (hsuccess : fields.get? "success" = some success) (haffirms : Affirms success true)
    (herror : fields.get? "error" = none ∨ fields.get? "error" = some .null)
    (hdata : fields.get? "data" = some payload) :
    login codecs r' = login codecs r ∧ ReadAs payload (login codecs r) := by
  have hgives : Envelope.Gives (fields.get? "error") none := by
    rcases herror with habsent | hnull
    · rw [habsent]
      exact .absent
    · rw [hnull]
      exact .null
  have hsaid : Envelope.Says (.object fields) (.ok payload) := by
    have hgranted := Envelope.Says.granted hsuccess haffirms hgives
    rw [hdata] at hgranted
    exact hgranted
  have hwraps : Wraps (.object fields) := (wraps_iff hsaid).2 huser
  refine ⟨?_, login_of_bare hstatus hbody hpayload⟩
  rw [login_of_success hstatus' hbody', loginOf_of_granted hwraps hsaid,
    login_of_success hstatus hbody, loginOf_of_bare hpayload]

/-- A login that is granted in an envelope, with a word for its success and no error. -/
theorem login_of_enveloped_of_granted :
    let codecs := Charset.Codecs.ascii
    let payload : Fields :=
      [("user", .object [("id", .str "u"), ("username", .str "n")]),
        ("tokens", .object [("accessToken", .str "a"), ("refreshToken", .str "b")])]
    let fields : Fields := [("data", .object payload), ("success", .str "Yes")]
    let r (v : Value) : Response :=
      { status := 200, headers := [], body := some (Utf8.encode v.write) }
    (r (.object payload)).json = .ok (.object payload) ∧
      (r (.object fields)).json = .ok (.object fields) ∧ ¬ Wraps (.object payload) ∧
      fields.get? "user" = none ∧ fields.get? "success" = some (.str "Yes") ∧
      Affirms (.str "Yes") true ∧ fields.get? "error" = none ∧
      fields.get? "data" = some (.object payload) ∧
      login codecs (r (.object fields)) = login codecs (r (.object payload)) ∧
      ReadAs (.object payload) (login codecs (r (.object payload))) := by
  intro codecs payload fields r
  have hbody : (r (.object payload)).json = .ok (.object payload) := by cbv
  have hbody' : (r (.object fields)).json = .ok (.object fields) := by cbv
  have hpayload : ¬ Wraps (.object payload) := mt isEnvelope_iff.2 (by decide)
  have haffirms : Affirms (.str "Yes") true := .word (w := "yes") (by decide) (by decide)
  exact ⟨hbody, hbody', hpayload, rfl, rfl, haffirms, rfl, rfl,
    login_of_enveloped ⟨by decide, by decide⟩ ⟨by decide, by decide⟩ hbody hbody' hpayload rfl rfl
      haffirms (Or.inl rfl) rfl⟩

end Decoding
end PokerClient
