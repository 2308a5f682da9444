import Mathlib
import PokerClient.Proofs.RefusedLogin

/-!
# Expiry hints

The backend may send an expiry in the block of tokens of a login. A text is kept for display,
and null is as good as nothing: the login, its credential and the slot are what they are
without the hint. A hint of any other kind has the login rejected altogether.
-/

namespace PokerClient

open Http Json Validation

/-- A hint that is not shown is no text. -/
theorem nullable_text_of_hidden {h : Value} (hhidden : ∀ hint, ¬ HasTextOrNull h hint) :
    nullable text h = .fail .notText := by
  cases h with
  | null => exact absurd .null (hhidden none)
  | str s => exact absurd (.string (.whole s)) (hhidden _)
  | torn points => exact absurd (.string (.torn points)) (hhidden _)
  | _ => rfl

/-! ## Answers that differ in the hint -/

/-- Two values that are the same but for the expiry in their blocks of tokens, where the second
one has a given hint. The first one may have another hint or none. -/
inductive HintedTokens (h : Value) : Value → Value → Prop
  | block {fields fields' tokens tokens' : Fields} (hfields : AgreeOff "tokens" fields fields')
      (htokens : fields.get? "tokens" = some (.object tokens))
      (htokens' : fields'.get? "tokens" = some (.object tokens'))
      (hblock : AgreeOff "expiresAt" tokens tokens') (hhint : tokens'.get? "expiresAt" = some h) :
      HintedTokens h (.object fields) (.object fields')

/-- The same of answers to a login, which may come in an envelope. -/
inductive Hinted (h : Value) : Value → Value → Prop
  | bare {v v' : Value} (hbare : ¬ Decoding.Wraps v) (hinted : HintedTokens h v v') :
      Hinted h v v'
  | enveloped {fields fields' : Fields} {data data' : Value}
      (hwraps : Decoding.Wraps (.object fields)) (hfields : AgreeOff "data" fields fields')
      (hdata : fields.get? "data" = some data) (hdata' : fields'.get? "data" = some data')
      (hinted : HintedTokens h data data') : Hinted h (.object fields) (.object fields')

/-- A login with an expiry hint to display. -/
def Login.withHint (login : Login) (hint : Option String) : Login :=
  { login with tokens := { login.tokens with expiresAt := hint } }

/-- The outcome of a login with an expiry hint to display. -/
def LoginOutcome.withHint (o : LoginOutcome) (hint : Option String) : LoginOutcome :=
  { o with tokens := o.tokens.map fun tokens => { tokens with expiresAt := hint } }

theorem Tokens.check_hinted {h : Value} {tokens tokens' : Fields} {t : Tokens}
    (hblock : AgreeOff "expiresAt" tokens tokens') (hhint : tokens'.get? "expiresAt" = some h)
    (hread : Tokens.check (.object tokens) = .valid t) :
    Tokens.check (.object tokens') =
      ((nullable text h).inside (.field "expiresAt")).map
        fun hint => { t with expiresAt := hint } := by
  have haccess := required_congr (hblock.on accessTokenName.accepted (by decide)) givenText
  have hrefresh := required_congr (hblock.on refreshTokenName.accepted (by decide)) givenText
  have hexpires : Validation.optional tokens' expiresAtName.accepted none (nullable text) =
      (nullable text h).inside (.field "expiresAt") := optional_of_get hhint
  obtain ⟨f, expires, hpair, -, rfl⟩ := Checked.seq_eq_valid.1 hread
  obtain ⟨g, refresh, hfirst, hr, rfl⟩ := Checked.seq_eq_valid.1 hpair
  obtain ⟨access, ha, rfl⟩ := Checked.map_eq_valid.1 hfirst
  show Tokens.mk <$> _ <*> _ <*> _ = _
  rw [← haccess, ← hrefresh, ha, hr, hexpires]
  cases (nullable text h).inside (.field "expiresAt") <;> rfl

/-- A login with a hint in its tokens is the login without, or is rejected for the hint. -/
theorem Login.check_hinted {h v v' : Value} {login : Login} (hinted : HintedTokens h v v')
    (hread : Login.check v = .valid login) :
    Login.check v' =
      (((nullable text h).inside (.field "expiresAt")).inside (.field "tokens")).map
        login.withHint := by
  cases hinted with
  | @block fields fields' tokens tokens' hfields htokens htokens' hblock hhint =>
    have huser := required_congr (hfields.on userName.accepted (by decide)) User.check
    have hmessage := optional_congr (hfields.on messageName.accepted (by decide)) "" text
    obtain ⟨f, message, hpair, hm, rfl⟩ := Checked.seq_eq_valid.1 hread
    obtain ⟨g, t, hfirst, ht, rfl⟩ := Checked.seq_eq_valid.1 hpair
    obtain ⟨user, hu, rfl⟩ := Checked.map_eq_valid.1 hfirst
    have hread : Tokens.check (.object tokens) = .valid t := by
      have hblock : required fields tokensName.accepted Tokens.check =
          (Tokens.check (.object tokens)).inside (.field "tokens") := required_of_get htokens
      rw [hblock] at ht
      exact Checked.inside_eq_valid.1 ht
    have hchecked : required fields' tokensName.accepted Tokens.check =
        (Tokens.check (.object tokens')).inside (.field "tokens") := required_of_get htokens'
    show Login.mk <$> _ <*> _ <*> _ = _
    rw [← huser, ← hmessage, hu, hm, hchecked, Tokens.check_hinted hblock hhint hread]
    cases (nullable text h).inside (.field "expiresAt") <;> rfl

namespace Decoding

variable {h v v' : Value} {login : Login} {fields fields' : Fields} {name : String}

/-- Whether a value is an envelope hangs on two of its fields. -/
theorem Wraps.of_agree (hfields : AgreeOff name fields fields') (hsuccess : name ≠ "success")
    (huser : name ≠ "user") (hwraps : Wraps (.object fields)) : Wraps (.object fields') := by
  obtain ⟨_, heq, hgiven, hnobody⟩ := hwraps
  cases heq
  refine ⟨fields', rfl, ?_, ?_⟩
  · rw [← hfields "success" hsuccess.symm]
    exact hgiven
  · rw [← hfields "user" huser.symm]
    exact hnobody

theorem unwrap_eq_ok {data : Value} (hread : Envelope.unwrap v = .ok data) :
    Envelope.Says v (.ok data) := by
  by_cases hsaid : ∃ said, Envelope.Says v said
  · obtain ⟨said, hsaid⟩ := hsaid
    rw [Envelope.unwrap_of_says hsaid] at hread
    cases said with
    | error reason => cases hread
    | ok data' =>
      cases hread
      exact hsaid
  · obtain ⟨issues, hissues⟩ := Envelope.unwrap_of_misshapen hsaid
    cases hissues.symm.trans hread

theorem says_of_agree {data data' : Value} (hfields : AgreeOff "data" fields fields')
    (hdata' : fields'.get? "data" = some data')
    (hsaid : Envelope.Says (.object fields) (.ok data)) :
    Envelope.Says (.object fields') (.ok data') := by
  cases hsaid with
  | granted hsuccess hv herror =>
    rw [hfields "success" (by decide)] at hsuccess
    rw [hfields "error" (by decide)] at herror
    have hgranted := Envelope.Says.granted hsuccess hv herror
    rw [hdata'] at hgranted
    exact hgranted

/-- Answers that differ in the hint are read as logins that do. -/
theorem loginOf_hinted (hinted : Hinted h v v') (hread : loginOf v = .ok login) :
    ∃ payload payload', HintedTokens h payload payload' ∧ bareLogin payload = .ok login ∧
      loginOf v' = bareLogin payload' := by
  cases hinted with
  | bare hbare hinted =>
    have hbare' : ¬ Wraps v' := by
      cases hinted with
      | block hfields => exact mt (Wraps.of_agree hfields.symm (by decide) (by decide)) hbare
    rw [loginOf_of_bare hbare] at hread
    exact ⟨v, v', hinted, hread, loginOf_of_bare hbare'⟩
  | @enveloped fields fields' data data' hwraps hfields hdata hdata' hinted =>
    rw [loginOf_of_wraps hwraps] at hread
    cases hunwrap : Envelope.unwrap (.object fields) with
    | error f =>
      rw [hunwrap] at hread
      cases hread
    | ok data₀ =>
      have hsaid := unwrap_eq_ok hunwrap
      have hsame : data₀ = data := by
        cases hsaid with
        | granted => rw [hdata]; rfl
      rw [hunwrap, hsame] at hread
      rw [hsame] at hsaid
      have hwraps' : Wraps (.object fields') := hwraps.of_agree hfields (by decide) (by decide)
      exact ⟨data, data', hinted, hread,
        loginOf_of_granted hwraps' (says_of_agree hfields hdata' hsaid)⟩

theorem bareLogin_eq_ok : bareLogin v = .ok login ↔ Login.check v = .valid login := by
  unfold bareLogin
  cases Login.check v <;> simp

/-- Two successful answers to a login that differ in the hint. -/
structure HintAdded (h : Value) (r r' : Response) : Prop where
  status : 200 ≤ r.status ∧ r.status ≤ 299
  status' : 200 ≤ r'.status ∧ r'.status ≤ 299
  bodies : ∃ v v', r.json = .ok v ∧ r'.json = .ok v' ∧ Hinted h v v'

variable {codecs : Text.Charset.Codecs} {r r' : Response}

/-- The codecs have no say in the reading of a success. -/
theorem login_congr (hstatus : 200 ≤ r.status ∧ r.status ≤ 299)
    (codecs codecs' : Text.Charset.Codecs) :
    Decoding.login codecs r = Decoding.login codecs' r := by
  unfold login checkStatus
  rw [if_pos (isSuccess_iff.2 hstatus), if_pos (isSuccess_iff.2 hstatus)]

theorem login_hinted (hadded : HintAdded h r r') (hread : Decoding.login codecs r = .ok login) :
    ∃ payload, Decoding.login codecs r' = (bareLogin payload).mapError .failure ∧
      Login.check payload =
        (((nullable text h).inside (.field "expiresAt")).inside (.field "tokens")).map
          login.withHint := by
  obtain ⟨v, v', hbody, hbody', hinted⟩ := hadded.bodies
  have hread : loginOf v = .ok login := by
    rw [login_of_success hadded.status hbody] at hread
    cases hlogin : loginOf v with
    | error f =>
      rw [hlogin] at hread
      cases hread
    | ok l =>
      rw [hlogin] at hread
      cases hread
      rfl
  obtain ⟨payload, payload', htokens, hbare, hread'⟩ := loginOf_hinted hinted hread
  refine ⟨payload', ?_, Login.check_hinted htokens (bareLogin_eq_ok.1 hbare)⟩
  rw [login_of_success hadded.status' hbody', hread']

/-- A hint that is shown changes nothing else of a login. -/
theorem login_of_shown {hint : Option String} (hadded : HintAdded h r r')
    (hread : Decoding.login codecs r = .ok login) (hshown : HasTextOrNull h hint) :
    Decoding.login codecs r' = .ok (login.withHint hint) := by
  obtain ⟨payload, hlogin, hcheck⟩ := login_hinted hadded hread
  rw [nullable_text_eq_valid.2 hshown] at hcheck
  rw [hlogin, bareLogin_eq_ok.2 hcheck]
  rfl

/-- A hint that is not shown is one issue with the login. -/
theorem login_of_hidden (hadded : HintAdded h r r') (hread : Decoding.login codecs r = .ok login)
    (hhidden : ∀ hint, ¬ HasTextOrNull h hint) :
    Decoding.login codecs r' = .error (.failure (.notLogin 1)) := by
  obtain ⟨payload, hlogin, hcheck⟩ := login_hinted hadded hread
  rw [nullable_text_of_hidden hhidden] at hcheck
  rw [hlogin]
  unfold bareLogin
  rw [hcheck]
  rfl

end Decoding

/-! ## Logins that differ in the hint -/

namespace Store

/-- Whether a write succeeds, and what it leaves in the slot, does not hang on the network. -/
theorem write_of_slot (s : Store) (faults : Faults) (blob : String) {w w' : World}
    (hslot : w.slot = w'.slot) : (s.write faults blob w).result = (s.write faults blob w').result ∧
      (s.write faults blob w).world.slot = (s.write faults blob w').world.slot := by
  unfold write
  cases s.kind with
  | memory => exact ⟨rfl, rfl⟩
  | keyring =>
    cases faults.write with
    | none => exact ⟨rfl, rfl⟩
    | some fault => exact ⟨rfl, hslot⟩

theorem set_of_slot (s : Store) (k : Conditions) (c : Credential GivenText) {w w' : World}
    (hslot : w.slot = w'.slot) : (s.set k c w).result = (s.set k c w').result ∧
      (s.set k c w).world.slot = (s.set k c w').world.slot := by
  cases hc : c.writable with
  | error e =>
    rw [set_of_unwritable hc]
    exact ⟨rfl, hslot⟩
  | ok written =>
    rw [set_of_writable hc]
    exact s.write_of_slot k.faults written.blob hslot

end Store

namespace Account

variable {c : Client} {k : Conditions} {url identifier password : String} {w w' : World}
  {r : Response} {login : Login}

/-- What follows once the backend has granted a login. -/
def welcome (c : Client) (k : Conditions) (login : Login) : Action LoginOutcome := do
  let stored := do
    let credential ← Action.ofEscape
      (c.store.policy.issue k.now login.tokens.accessToken login.tokens.refreshToken)
    keep c k (login, credential)
  reportLogin (← stored.attempt)

theorem login_eq (c : Client) (k : Conditions) (url identifier password : String) :
    Account.login c k url identifier password =
      (signIn c url identifier password).attempt >>= fun granted =>
        match granted with
        | .error f => refused f
        | .ok login => welcome c k login := by
  unfold Account.login establish obtain
  rw [bind_assoc, Action.attempt_bind, bind_assoc]
  congr 1
  funext granted
  cases granted with
  | error f => exact pure_bind _ _
  | ok login =>
    unfold welcome
    simp only [bind_assoc, pure_bind, Action.ofFailure]
    rfl

/-- A login that is granted goes on with the slot that it found. -/
theorem login_of_granted (hanswers : Answers c url identifier password w r)
    (hread : Decoding.login c.codecs r = .ok login) : ∃ v : World, v.slot = w.slot ∧
      (Account.login c k url identifier password w).result = (welcome c k login v).result ∧
      (Account.login c k url identifier password w).world = (welcome c k login v).world := by
  have hsign := (signIn_result hanswers).trans hread
  have hattempt : ((signIn c url identifier password).attempt w).result = .ok (.ok login) := by
    rw [Action.attempt_eq, hsign]
    rfl
  refine ⟨(signIn c url identifier password w).world,
    (signIn_slotless c url identifier password).keepsSlot w, ?_⟩
  rw [login_eq, Action.bind_eq_after _ hattempt, Action.attempt_eq]
  exact ⟨rfl, rfl⟩

/-- The credential of a granted login is stored, and what comes of that is reported. -/
theorem welcome_of_issue {credential : Credential GivenText} (login : Login) (v : World)
    (hissue : c.store.policy.issue k.now login.tokens.accessToken login.tokens.refreshToken =
      .ok credential) :
    (welcome c k login v).result =
        (Action.caught ((c.store.set k credential v).result.map
          fun _ => (login, credential))).bind (fun stored => (reportLogin stored v).result) ∧
      (welcome c k login v).world.slot = (c.store.set k credential v).world.slot := by
  have hkeep : keep c k (login, credential) =
      (fun _ => (login, credential)) <$> c.store.set k credential :=
    (map_eq_pure_bind _ _).symm
  have hwelcome : welcome c k login =
      ((fun _ => (login, credential)) <$> c.store.set k credential).attempt >>=
        reportLogin := by
    unfold welcome
    rw [hissue, ← hkeep]
    rfl
  rw [hwelcome]
  constructor
  · rw [Action.bind_result, Action.attempt_eq, Action.map_eq]
    exact congrArg _ (funext fun stored => (reportLogin_quiet stored).result _ _)
  · rw [Law.slot_bind fun stored _ => Law.of_quiet (reportLogin_quiet stored), Action.attempt_eq,
      Action.map_eq]

/-- A credential whose expiry is out of range is not written. -/
theorem welcome_of_unissued {e : Escape} (login : Login) (v : World)
    (hissue : c.store.policy.issue k.now login.tokens.accessToken login.tokens.refreshToken =
      .error e) :
    (welcome c k login v).result = .error (.escape e) ∧
      (welcome c k login v).world.slot = v.slot := by
  unfold welcome
  rw [hissue]
  exact ⟨rfl, rfl⟩

/-- A hint that is shown is all that tells two granted logins apart. -/
theorem welcome_withHint (hint : Option String) {v v' : World} (hslot : v.slot = v'.slot) :
    (welcome c k (login.withHint hint) v').result =
        (welcome c k login v).result.map (fun o => o.withHint hint) ∧
      (welcome c k (login.withHint hint) v').world.slot = (welcome c k login v).world.slot := by
  cases hissue : c.store.policy.issue k.now login.tokens.accessToken login.tokens.refreshToken with
  | error e =>
    obtain ⟨hresult, hworld⟩ := welcome_of_unissued login v hissue
    obtain ⟨hresult', hworld'⟩ := welcome_of_unissued (login.withHint hint) v' hissue
    rw [hresult, hresult', hworld, hworld']
    exact ⟨rfl, hslot.symm⟩
  | ok credential =>
    obtain ⟨hresult, hworld⟩ := welcome_of_issue login v hissue
    obtain ⟨hresult', hworld'⟩ := welcome_of_issue (login.withHint hint) v' hissue
    obtain ⟨hwrite, hwritten⟩ := c.store.set_of_slot k credential hslot
    rw [hworld', hworld, hresult', hresult, hwrite, hwritten]
    refine ⟨?_, rfl⟩
    rcases (c.store.set k credential v').result with (f | e) | stored
    · cases f <;> rfl
    · rfl
    · rfl

/-- What becomes of a login to whose answer an expiry hint is added. -/
structure HintTaken (h : Value) (r r' : Response) : Prop where
  /-- A hint that is shown changes what is shown of the tokens, and neither anything else of
  the outcome nor what is stored. -/
  shown : ∀ hint, HasTextOrNull h hint → ∀ c k url identifier password w w',
    Answers c url identifier password w r → Answers c url identifier password w' r' →
      w.slot = w'.slot →
        (Account.login c k url identifier password w').result =
            (Account.login c k url identifier password w).result.map (fun o => o.withHint hint) ∧
          (Account.login c k url identifier password w').world.slot =
            (Account.login c k url identifier password w).world.slot
  /-- Any other hint has the login rejected, and nothing is stored. -/
  rejected : (∀ hint, ¬ HasTextOrNull h hint) → ∀ c k url identifier password w',
    Answers c url identifier password w' r' →
      (Account.login c k url identifier password w').result = .ok {
          success := false
          message := "Login response is missing user or tokens: 1 errors"
          failure := some "malformed_response" } ∧
        (Account.login c k url identifier password w').world.slot = w'.slot

/-- An expiry hint that is a text or null does not affect a login, and any other one rules
it out. -/
theorem hint_taken (h : Value) (r r' : Response) (codecs : Text.Charset.Codecs) (login : Login)
    (hadded : Decoding.HintAdded h r r') (hread : Decoding.login codecs r = .ok login) :
    HintTaken h r r' where
  shown := by
    intro hint hshown c k url identifier password w w' hanswers hanswers' hslot
    rw [Decoding.login_congr hadded.status codecs c.codecs] at hread
    have hread' := Decoding.login_of_shown hadded hread hshown
    obtain ⟨v, hv, hresult, hworld⟩ := login_of_granted (k := k) hanswers hread
    obtain ⟨v', hv', hresult', hworld'⟩ := login_of_granted (k := k) hanswers' hread'
    have hsame : v.slot = v'.slot := hv.trans (hslot.trans hv'.symm)
    rw [hresult, hresult', hworld, hworld']
    exact welcome_withHint hint hsame
  rejected := by
    intro hhidden c k url identifier password w' hanswers'
    rw [Decoding.login_congr hadded.status codecs c.codecs] at hread
    have hread' := Decoding.login_of_hidden hadded hread hhidden
    have hresult := login_of_failure (k := k) hanswers' hread' fun w => rfl
    refine ⟨hresult, ?_⟩
    rcases login_cases c k url identifier password w' with
      ⟨l, credential, -, hstored, -⟩ | ⟨hkept, -⟩
    · cases hresult.symm.trans hstored
    · exact hkept

/-- A hint in words, which says nothing of a time. -/
theorem hint_taken_of_text :
    let codecs := Text.Charset.Codecs.ascii
    let tokens : Fields := [("accessToken", .str "a"), ("refreshToken", .str "b")]
    let body (hint : Fields) : Fields :=
      [("user", .object [("id", .str "u"), ("username", .str "n")]),
        ("tokens", .object (tokens ++ hint))]
    let r (hint : Fields) : Response :=
      { status := 200, headers := []
        body := some (Text.Utf8.encode (Value.object (body hint)).write) }
    let hint : Fields := [("expiresAt", .str "soon")]
    let user : User :=
      { id := "u", username := "n", email := "", displayName := none, playerId := none
        roles := [] }
    let login : Login :=
      { user, tokens := { accessToken := "a", refreshToken := "b", expiresAt := none }
        message := "" }
    Decoding.HintAdded (.str "soon") (r []) (r hint) ∧ Decoding.login codecs (r []) = .ok login ∧
      HasTextOrNull (.str "soon") (some "soon") ∧ HintTaken (.str "soon") (r []) (r hint) := by
  intro codecs tokens body r hint user login
  have hbody : (r []).json = .ok (.object (body [])) := by cbv
  have hbody' : (r hint).json = .ok (.object (body hint)) := by cbv
  have hbare : ¬ Decoding.Wraps (.object (body [])) :=
    mt Decoding.isEnvelope_iff.2 (by decide)
  have hinted : HintedTokens (.str "soon") (.object (body [])) (.object (body hint)) :=
    .block (.of_put (body []) "tokens" (.object (tokens ++ hint))) rfl rfl
      (.of_put tokens "expiresAt" (.str "soon")) rfl
  have hadded : Decoding.HintAdded (.str "soon") (r []) (r hint) :=
    ⟨⟨by decide, by decide⟩, ⟨by decide, by decide⟩, _, _, hbody, hbody', .bare hbare hinted⟩
  have hread : Decoding.login codecs (r []) = .ok login := by
    rw [Decoding.login_of_success ⟨by decide, by decide⟩ hbody]
    rfl
  exact ⟨hadded, hread, .string (.whole _), hint_taken _ _ _ codecs login hadded hread⟩

/-- A hint in seconds has a login rejected that is granted without it. -/
theorem hint_rules_out_login :
    let tokens : Fields := [("accessToken", .str "a"), ("refreshToken", .str "b")]
    let answer (hint : Fields) : Reply :=
      { status := 200, headers := []
        octets := Text.Utf8.encode (Value.object [
          ("user", .object [("id", .str "u"), ("username", .str "n")]),
          ("tokens", .object (tokens ++ hint))]).write }
    let c : Client := { store := {}, settings := .standard }
    let k : Conditions := { now := { wall := ⟨4, by decide⟩, offset := some 0 } }
    let ran (hint : Fields) := Account.login c k "https://poker.test" "p" "q"
      { slot := none, answers := [.reply (answer hint)], otherwise := .gaveUp "" "" }
    (ran []).result.map LoginOutcome.toOutcome =
        .ok { success := true, message := "Login successful" } ∧
      (ran []).world.slot.isSome = true ∧
      (ran [("expiresAt", .int 1767225600)]).result =
        .ok { success := false, message := "Login response is missing user or tokens: 1 errors"
              failure := some "malformed_response" } ∧
      (ran [("expiresAt", .int 1767225600)]).world.slot = none := by
  intro tokens answer c k ran
  exact ⟨eq_ok_of_toOption (by decide +kernel), by decide +kernel,
    eq_ok_of_toOption (by decide +kernel), by decide +kernel⟩

end Account
end PokerClient
