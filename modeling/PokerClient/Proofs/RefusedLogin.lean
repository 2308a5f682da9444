import Mathlib
import PokerClient.Proofs.Creating
import PokerClient.Proofs.LoginReading
import PokerClient.Proofs.StoredLogin
import PokerClient.Proofs.Wording

/-!
# Logins that are refused

The backend refuses a login by the status of its answer or in an envelope. Its words are
found in the body by one reader in the first case and by another in the second, and both
find the same. So they are shown whichever way the login was refused, but for an envelope
that names a user, which is not taken for a refusal.
-/

namespace PokerClient

open Http Json Validation

/-- Words are a reason that an envelope gives. -/
theorem Rejection.Tells.gives {fields : Fields} {words : String}
    (h : Tells fields "error" words) : Envelope.Gives (fields.get? "error") (some words) := by
  cases h with
  | bare h =>
    obtain ⟨v, hv, htext, -⟩ := h
    rw [hv]
    exact .text htext
  | nested hinner h =>
    obtain ⟨v, hv, htext, -⟩ := h
    rw [hinner]
    exact .told hv htext

/-- A refusal with words is one for the reason of just these words. -/
theorem Rejection.Tells.refuses {fields : Fields} {v : Value} {words : String}
    (h : Tells fields "error" words) (hsuccess : fields.get? "success" = some v)
    (hv : Affirms v false) : Envelope.Says (.object fields) (.error (some words)) := by
  have hsaid := Envelope.Says.refused hsuccess hv h.gives
  have hreason : (some words).filter (· != "") = some words := by
    simp [h.words_ne_empty]
  rw [hreason] at hsaid
  exact hsaid

namespace Account

variable {c : Client} {k : Conditions} {url identifier password : String} {w : World}
  {r : Response} {fields : Fields} {body words : String}

theorem signIn_result (h : Answers c url identifier password w r) :
    (signIn c url identifier password w).result = Decoding.login c.codecs r := by
  obtain ⟨connection, hconnection, hresponse⟩ := h
  have hconnected : (Action.ofFailure (Connection.build c.settings none url) w).result =
      .ok connection := by
    rw [hconnection]
    rfl
  unfold signIn
  rw [Action.bind_result, hconnected]
  show ((Http.send connection "POST" Endpoint.login (some (loginBody identifier password)) >>=
    fun response => Action.ofStop (Decoding.login c.codecs response)) _).result = _
  rw [Action.bind_result, Action.ofFailure_world, hresponse]
  exact Action.ofStop_result _ _

/-- What an answer fails of as a login is what is reported of the login. -/
theorem login_of_failure {f : Failure} {o : LoginOutcome}
    (hanswers : Answers c url identifier password w r)
    (h : Decoding.login c.codecs r = .error (.failure f)) (ho : ∀ w, (refused f w).result = .ok o) :
    (Account.login c k url identifier password w).result = .ok o := by
  have hsign := (signIn_result hanswers).trans h
  have hestablish : (establish c k url identifier password w).result = .error (.failure f) := by
    unfold establish obtain
    rw [Action.bind_of_error _ (by rw [Action.bind_of_error _ hsign])]
  exact (Action.attempted_of_failure (f := reportLogin) hestablish).trans (ho _)

/-- How the words of a refusal are shown. -/
structure WordsShown (body : String) (fields : Fields) (words : String) : Prop where
  unwrapped : Envelope.unwrap (.object fields) = .error (.rejected (some words))
  told : Rejection.message body = words
  /-- A login refused by the status shows the words that the text of the answer tells. -/
  refused : ∀ {c : Client} {k : Conditions} {url identifier password : String} {w : World}
    {r : Response}, Answers c url identifier password w r →
      ¬ (200 ≤ r.status ∧ r.status ≤ 299) → r.text c.codecs = .ok body →
        (Account.login c k url identifier password w).result =
          .ok { success := false, message := words, failure := some "http_status" }
  /-- A login refused in an envelope shows the same words. -/
  rejected : ∀ {c : Client} {k : Conditions} {url identifier password : String} {w : World}
    {r : Response}, Answers c url identifier password w r →
      (200 ≤ r.status ∧ r.status ≤ 299) → r.json = .ok (.object fields) →
        fields.get? "user" = none →
          (Account.login c k url identifier password w).result =
            .ok { success := false, message := words, failure := some "backend_rejected" }
  /-- An envelope that names a user is read as a login itself, and its words are not shown. -/
  overlooked : ∀ {c : Client} {url identifier password : String} {w : World} {r : Response},
    Answers c url identifier password w r → (200 ≤ r.status ∧ r.status ≤ 299) →
      r.json = .ok (.object fields) → fields.get? "user" ≠ none →
        Decoding.ReadAs (.object fields) (signIn c url identifier password w).result

/-- The words of a refusal are the same whichever way they are looked for. -/
theorem words_shown {v : Value} (hparse : parseText .lenient body.toList = .ok (.object fields))
    (hsuccess : fields.get? "success" = some v) (hv : Affirms v false)
    (hwords : Rejection.Tells fields "error" words) : WordsShown body fields words := by
  have hsaid := hwords.refuses hsuccess hv
  have hwraps := Decoding.wraps_iff hsaid
  have htold : Rejection.message body = words := Rejection.message_of_worded hparse (.error hwords)
  refine ⟨Envelope.unwrap_of_says hsaid, htold, ?_, ?_, ?_⟩
  · intro c k url identifier password w r hanswers hstatus htext
    have hbody : body ≠ "" := by
      rintro rfl
      cases hparse
    refine login_of_failure hanswers (Decoding.login_of_status hstatus htext hbody) fun w => ?_
    rw [← htold]
    rfl
  · intro c k url identifier password w r hanswers hstatus hjson huser
    refine login_of_failure hanswers (f := .rejected (some words)) ?_ fun w => rfl
    rw [Decoding.login_of_success hstatus hjson,
      Decoding.loginOf_of_refused (hwraps.2 huser) hsaid]
    rfl
  · intro c url identifier password w r hanswers hstatus hjson huser
    rw [signIn_result hanswers]
    exact Decoding.login_of_bare hstatus hjson (mt hwraps.1 huser)

/-- An account that is locked, with words beside those of the error. -/
theorem words_shown_of_locked :
    let fields : Fields :=
      [("error", .object [("message", .str "locked")]), ("message", .str "no"),
        ("success", .str "Off")]
    let body := String.ofList (Value.object fields).write
    parseText .lenient body.toList = .ok (.object fields) ∧
      fields.get? "success" = some (.str "Off") ∧ Affirms (.str "Off") false ∧
      Rejection.Tells fields "error" "locked" ∧ WordsShown body fields "locked" := by
  intro fields body
  have hparse : parseText .lenient body.toList = .ok (.object fields) := by cbv
  have hword : Affirms (.str "Off") false := .word (w := "off") (by decide) (by decide)
  have hwords : Rejection.Tells fields "error" "locked" :=
    .nested rfl ⟨_, rfl, .whole _, by decide⟩
  exact ⟨hparse, rfl, hword, hwords, words_shown hparse rfl hword hwords⟩

/-- The words of a refusal that names nobody as its user are shown under one status and not
under another. -/
theorem login_hides_words :
    let refusal : Fields := [("success", .bool false), ("error", .str "no"), ("user", .null)]
    let text := (Value.object refusal).write
    let c : Client := { store := {}, settings := .standard }
    let k : Conditions := { now := { wall := ⟨4, by decide⟩, offset := some 0 } }
    let w (status : Int) : World :=
      { slot := none
        answers := [.reply { status, headers := [], octets := Text.Utf8.encode text }]
        otherwise := .gaveUp "" "" }
    let ran (status : Int) := Account.login c k "https://poker.test" "p" "q" (w status)
    Envelope.unwrap (.object refusal) = .error (.rejected (some "no")) ∧
      Rejection.message (String.ofList text) = "no" ∧
      (ran 403).result = .ok { success := false, message := "no", failure := some "http_status" } ∧
      (ran 200).result =
        .ok { success := false, message := "Login response is missing user or tokens: 2 errors"
              failure := some "malformed_response" } := by
  intro refusal text c k w ran
  have hwords : Rejection.Tells refusal "error" "no" := .bare ⟨_, rfl, .whole _, by decide⟩
  exact ⟨Envelope.unwrap_of_says (hwords.refuses rfl (.bool false)), by decide +kernel,
    eq_ok_of_toOption (by decide +kernel), eq_ok_of_toOption (by decide +kernel)⟩

end Account
end PokerClient
