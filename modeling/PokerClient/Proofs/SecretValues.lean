import PokerClient.Lobby
import PokerClient.Proofs.FieldChecks
import PokerClient.Proofs.Likeness

/-!
# Values that differ in secrets

The answers to a login are read side by side that differ in the tokens they grant.
Reading an answer looks at the names of fields and at the kinds of values, and takes a
token as it is, so the readings differ in the tokens as well, and in nothing else.
-/

namespace PokerClient

open Http Json Validation

/-! ## Tokens -/

/-- Two access tokens of which each can stand in for the other: either both can be shown
in a header, or they are the same. -/
def Interchangeable (a b : String) : Prop :=
  a = b ∨ Credentials.isHeaderValue a ∧ Credentials.isHeaderValue b

theorem Interchangeable.refl (a : String) : Interchangeable a a := Or.inl rfl

/-- Two fields that are the same, or both a text. -/
inductive TextsAlike (R : String → String → Prop) : Option Value → Option Value → Prop
  | same (v : Option Value) : TextsAlike R v v
  | texts {a b : String} (h : R a b) : TextsAlike R (some (.str a)) (some (.str b))

/-- The first field that is there is the same, or a text under the same name. -/
theorem TextsAlike.firstOf {R : String → String → Prop} {f f' : Fields} {names : List String}
    (h : ∀ name ∈ names, TextsAlike R (f.get? name) (f'.get? name)) :
    firstOf f names = firstOf f' names ∨ ∃ name a b, R a b ∧
      firstOf f names = some (name, .str a) ∧ firstOf f' names = some (name, .str b) := by
  induction names with
  | nil => exact Or.inl rfl
  | cons name rest ih =>
    have hname := h name List.mem_cons_self
    have hrest := ih fun n hn => h n (List.mem_cons_of_mem _ hn)
    unfold Validation.firstOf
    generalize f.get? name = v at hname
    generalize f'.get? name = v' at hname
    cases hname with
    | @texts a b hab => exact Or.inr ⟨name, a, b, hab, rfl, rfl⟩
    | same =>
      cases v with
      | some v => exact Or.inl rfl
      | none => exact hrest

/-- Two given strings that are the same, or both a text. -/
inductive GivenAlike (R : String → String → Prop) : GivenText → GivenText → Prop
  | same (t : GivenText) : GivenAlike R t t
  | texts {a b : String} (h : R a b) : GivenAlike R a b

/-- A string that has to be given is read alike from fields that are alike. -/
theorem TextsAlike.required {R : String → String → Prop} {f f' : Fields} {names : List String}
    (h : ∀ name ∈ names, TextsAlike R (f.get? name) (f'.get? name)) :
    ChecksAlike (GivenAlike R) (required f names givenText) (required f' names givenText) := by
  unfold Validation.required
  rcases TextsAlike.firstOf h with hsame | ⟨name, a, b, hab, ha, hb⟩
  · rw [hsame]
    exact (ChecksAlike.of_eq rfl).mono fun a b hab => hab ▸ .same a
  · rw [ha, hb]
    exact .valid (.texts hab)

/-- Two token blocks that differ in their tokens alone. -/
structure TokenBlocksAlike (f f' : Fields) : Prop where
  access : ∀ name ∈ Tokens.accessTokenName.accepted,
    TextsAlike Interchangeable (f.get? name) (f'.get? name)
  refresh : ∀ name ∈ Tokens.refreshTokenName.accepted,
    TextsAlike (fun _ _ => True) (f.get? name) (f'.get? name)
  others : ∀ name, name ∉ Tokens.accessTokenName.accepted →
    name ∉ Tokens.refreshTokenName.accepted → f.get? name = f'.get? name

/-- What is read of token blocks that are alike. -/
structure TokensAlike (t t' : Tokens) : Prop where
  access : GivenAlike Interchangeable t.accessToken t'.accessToken
  refresh : GivenAlike (fun _ _ => True) t.refreshToken t'.refreshToken
  expiresAt : t.expiresAt = t'.expiresAt

theorem TokenBlocksAlike.tokens {f f' : Fields} (h : TokenBlocksAlike f f') :
    ChecksAlike TokensAlike (Tokens.ofFields f) (Tokens.ofFields f') := by
  have haccess := TextsAlike.required h.access
  have hrefresh := TextsAlike.required h.refresh
  have hexpiry : ∀ name ∈ Tokens.expiresAtName.accepted, f.get? name = f'.get? name := by
    intro name hname
    have haway : ∀ n ∈ Tokens.expiresAtName.accepted,
        n ∉ Tokens.accessTokenName.accepted ∧ n ∉ Tokens.refreshTokenName.accepted := by decide
    exact h.others name (haway name hname).1 (haway name hname).2
  have hoptional := ChecksAlike.of_eq (optional_congr hexpiry none (nullable text))
  unfold Tokens.ofFields
  refine ((haccess.map ?_).seq hrefresh).seq hoptional
  rintro access access' haccess refresh refresh' hrefresh expiry - rfl
  exact ⟨haccess, hrefresh, rfl⟩

/-! ## Logins -/

/-- Two login payloads that differ in the tokens of their token blocks alone. -/
inductive PayloadsAlike : Value → Value → Prop
  | mk {f f' t t' : Fields} (hf : AgreeOff "tokens" f f')
      (ht : f.get? "tokens" = some (.object t)) (ht' : f'.get? "tokens" = some (.object t'))
      (h : TokenBlocksAlike t t') : PayloadsAlike (.object f) (.object f')

/-- What may be taken out of an envelope: payloads that differ in their tokens alone, or
the very same data. -/
def DataAlike (v v' : Value) : Prop := v = v' ∨ PayloadsAlike v v'

/-- Two answers that differ in the tokens of the login they hold, be it bare or in an
envelope. -/
inductive GrantsAlike : Value → Value → Prop
  | bare {v v' : Value} (h : PayloadsAlike v v') : GrantsAlike v v'
  | enveloped {f f' : Fields} {d d' : Value} (hf : AgreeOff "data" f f')
      (hd : f.get? "data" = some d) (hd' : f'.get? "data" = some d') (h : PayloadsAlike d d') :
      GrantsAlike (.object f) (.object f')

/-- What is read of login payloads that are alike. -/
structure LoginsAlike (l l' : Login) : Prop where
  user : l.user = l'.user
  tokens : TokensAlike l.tokens l'.tokens
  message : l.message = l'.message

theorem LoginsAlike.refl (l : Login) : LoginsAlike l l :=
  ⟨rfl, ⟨.same _, .same _, rfl⟩, rfl⟩

theorem PayloadsAlike.login {v v' : Value} (h : PayloadsAlike v v') :
    ChecksAlike LoginsAlike (Login.check v) (Login.check v') := by
  obtain ⟨hf, ht, ht', htokens⟩ := h
  rename_i f f' t t'
  have huser := ChecksAlike.of_eq
    (required_congr (hf.on Login.userName.accepted (by decide)) User.check)
  have hmessage := ChecksAlike.of_eq
    (optional_congr (hf.on Login.messageName.accepted (by decide)) "" text)
  have hblock : ChecksAlike TokensAlike
      (required f Login.tokensName.accepted Tokens.check)
      (required f' Login.tokensName.accepted Tokens.check) := by
    have hfirst : firstOf f Login.tokensName.accepted = some ("tokens", .object t) := by
      simp [Login.tokensName, FieldName.accepted, firstOf, ht]
    have hfirst' : firstOf f' Login.tokensName.accepted = some ("tokens", .object t') := by
      simp [Login.tokensName, FieldName.accepted, firstOf, ht']
    unfold required
    rw [hfirst, hfirst']
    exact htokens.tokens.inside _
  refine ((huser.map ?_).seq hblock).seq hmessage
  rintro user - rfl tokens tokens' htokens message - rfl
  exact ⟨rfl, htokens, rfl⟩

theorem DataAlike.login {v v' : Value} (h : DataAlike v v') :
    ChecksAlike LoginsAlike (Login.check v) (Login.check v') := by
  rcases h with rfl | hpayload
  · exact (ChecksAlike.of_eq rfl).mono fun l l' hl => hl ▸ LoginsAlike.refl l
  · exact hpayload.login

/-! ## Answers -/

/-- What is read of envelopes that hold related data. -/
structure EnvelopesAlike (e e' : Envelope) : Prop where
  success : e.success = e'.success
  data : DataAlike e.data e'.data
  error : e.error = e'.error

theorem GrantsAlike.envelope {v v' : Value} (h : GrantsAlike v v') :
    ChecksAlike EnvelopesAlike (Envelope.check v) (Envelope.check v') := by
  cases h with
  | bare h =>
    obtain ⟨hf, -, -, -⟩ := h
    rename_i f f' t t'
    have heq : Envelope.ofFields f = Envelope.ofFields f' := by
      unfold Envelope.ofFields
      rw [required_congr (hf.on ["success"] (by decide)),
        optional_congr (hf.on ["data"] (by decide)), optional_congr (hf.on ["error"] (by decide))]
    exact (ChecksAlike.of_eq heq).mono fun e e' he => he ▸ ⟨rfl, Or.inl rfl, rfl⟩
  | @enveloped f f' d d' hf hd hd' h =>
    have hsuccess := ChecksAlike.of_eq
      (required_congr (hf.on ["success"] (by decide)) truth)
    have herror := ChecksAlike.of_eq
      (optional_congr (hf.on ["error"] (by decide)) none Envelope.checkReason)
    have hdata : ChecksAlike DataAlike (Validation.optional f ["data"] .null anything)
        (Validation.optional f' ["data"] .null anything) := by
      have hfirst : firstOf f ["data"] = some ("data", d) := by simp [firstOf, hd]
      have hfirst' : firstOf f' ["data"] = some ("data", d') := by simp [firstOf, hd']
      unfold Validation.optional
      rw [hfirst, hfirst']
      exact .valid (Or.inr h)
    show ChecksAlike EnvelopesAlike (Envelope.ofFields f) (Envelope.ofFields f')
    unfold Envelope.ofFields
    refine ((hsuccess.map ?_).seq hdata).seq herror
    rintro success - rfl data data' hdata error - rfl
    exact ⟨rfl, hdata, rfl⟩

/-- What is taken out of an envelope differs in tokens at most. -/
theorem GrantsAlike.unwrap {v v' : Value} (h : GrantsAlike v v') :
    EndsAlike DataAlike (Envelope.unwrap v) (Envelope.unwrap v') := by
  have hcheck := h.envelope
  unfold Envelope.unwrap
  generalize Envelope.check v = c at hcheck
  generalize Envelope.check v' = c' at hcheck
  cases hcheck with
  | invalid issues => exact .error _
  | @valid e e' he =>
    have hreason : e.reason? = e'.reason? := by
      unfold Envelope.reason?
      rw [he.error]
    dsimp only
    rw [he.success, hreason]
    cases e'.success with
    | true => exact .ok he.data
    | false => exact .error _

theorem AgreeOff.isEnvelope {name : String} {f f' : Fields} (h : AgreeOff name f f')
    (hsuccess : "success" ≠ name) (huser : "user" ≠ name) :
    Decoding.isEnvelope (.object f) = Decoding.isEnvelope (.object f') := by
  unfold Decoding.isEnvelope
  dsimp only
  rw [h.has hsuccess, h.has huser]

theorem GrantsAlike.isEnvelope {v v' : Value} (h : GrantsAlike v v') :
    Decoding.isEnvelope v = Decoding.isEnvelope v' := by
  cases h with
  | bare h =>
    obtain ⟨hf, -, -, -⟩ := h
    exact hf.isEnvelope (by decide) (by decide)
  | enveloped hf hd hd' h => exact hf.isEnvelope (by decide) (by decide)

theorem GrantsAlike.login {v v' : Value} (h : GrantsAlike v v') :
    ChecksAlike LoginsAlike (Login.check v) (Login.check v') := by
  cases h with
  | bare h => exact h.login
  | @enveloped f f' d d' hf hd hd' h =>
    -- A login that stands beside the data of an envelope is the same in both.
    have heq : Login.ofFields f = Login.ofFields f' := by
      unfold Login.ofFields
      rw [required_congr (hf.on Login.userName.accepted (by decide)),
        required_congr (hf.on Login.tokensName.accepted (by decide)),
        optional_congr (hf.on Login.messageName.accepted (by decide))]
    exact (ChecksAlike.of_eq heq).mono fun l l' hl => hl ▸ LoginsAlike.refl l

theorem ChecksAlike.bareLogin {v v' : Value}
    (h : ChecksAlike LoginsAlike (Login.check v) (Login.check v')) :
    EndsAlike LoginsAlike (Decoding.bareLogin v) (Decoding.bareLogin v') := by
  unfold Decoding.bareLogin
  generalize Login.check v = c at h
  generalize Login.check v' = c' at h
  cases h with
  | valid hl => exact .ok hl
  | invalid issues => exact .error _

theorem GrantsAlike.loginOf {v v' : Value} (h : GrantsAlike v v') :
    EndsAlike LoginsAlike (Decoding.loginOf v) (Decoding.loginOf v') := by
  rw [Decoding.loginOf_eq, Decoding.loginOf_eq, h.isEnvelope]
  cases Decoding.isEnvelope v' with
  | false => exact h.login.bareLogin
  | true => exact h.unwrap.bind fun d d' hdata => hdata.login.bareLogin

/-! ## Tables -/

theorem DataAlike.tables {v v' : Value} (h : DataAlike v v') :
    TableList.ofData v = TableList.ofData v' := by
  rcases h with rfl | hpayload
  · rfl
  · obtain ⟨hf, -, -, -⟩ := hpayload
    rename_i f f' t t'
    have hentries : TableList.entries (.object f) = TableList.entries (.object f') := by
      unfold TableList.entries
      dsimp only
      rw [hf "tables" (by decide)]
    unfold TableList.ofData
    rw [hentries]

theorem DataAlike.createdTable {v v' : Value} (h : DataAlike v v') :
    Lobby.createdTable v = Lobby.createdTable v' := by
  rcases h with rfl | hpayload
  · rfl
  · obtain ⟨hf, -, -, -⟩ := hpayload
    rename_i f f' t t'
    have hcheck : Table.check (.object f) = Table.check (.object f') := by
      show Table.ofFields f = Table.ofFields f'
      unfold Table.ofFields
      rw [required_congr (hf.on Table.Names.id.accepted (by decide)),
        optional_congr (hf.on Table.Names.name.accepted (by decide)),
        optional_congr (hf.on Table.Names.playerCount.accepted (by decide)),
        optional_congr (hf.on Table.Names.maxPlayers.accepted (by decide)),
        optional_congr (hf.on Table.Names.gamePhase.accepted (by decide)),
        hf.amount (by decide), optional_congr (hf.on Table.Names.blinds.accepted (by decide)),
        optional_congr (hf.on Table.Names.config.accepted (by decide))]
    unfold Lobby.createdTable
    dsimp only
    rw [hcheck]

end PokerClient
