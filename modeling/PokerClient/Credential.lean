import PokerClient.Failure
import PokerClient.Json.Printer
import PokerClient.Validation.FieldName

/-!
# Credentials

A pair of tokens with the time until which they are taken to be good. The
written form of a credential is the only thing that a client keeps, and there is
one only if the tokens are texts. The time is always one of universal time.
-/

namespace PokerClient

open Json Numeric Time Validation

structure Credential (Token : Type := String) where
  accessToken : Token
  refreshToken : Token
  expiresAt : Timestamp
  deriving DecidableEq

namespace Credential

def accessTokenName : FieldName := { plain := "access_token" }
def refreshTokenName : FieldName := { plain := "refresh_token" }
def expiresAtName : FieldName := { plain := "expires_at" }

/-- A credential with its time turned into universal time, which the calendar
may not reach. The other fields have no say in that. -/
def ofFields {Token : Type} (token : Reading Token) (wide : Bool) (fields : Fields) :
    Except Escape (Checked (Credential Token)) :=
  let build (expiry : Checked Timestamp) : Checked (Credential Token) :=
    Credential.mk
      <$> required fields accessTokenName.accepted token
      <*> required fields refreshTokenName.accepted token
      <*> expiry
  match required fields expiresAtName.accepted (moment wide) with
  | .valid m =>
    match m.toUtc? with
    | some t => .ok (build (.valid t))
    | none => .error .dateOutOfRange
  | .invalid issues => .ok (build (.invalid issues))

/-- A credential as a value. -/
def check {Token : Type} (token : Reading Token) (wide : Bool) :
    Value → Except Escape (Checked (Credential Token))
  | .object fields => ofFields token wide fields
  | _ => .ok (.fail .notRecord)

/-- A credential with its tokens as they are given. -/
def given (c : Credential) : Credential GivenText :=
  { accessToken := c.accessToken, refreshToken := c.refreshToken, expiresAt := c.expiresAt }

instance : Coe Credential (Credential GivenText) := ⟨given⟩

theorem given_injective {c c' : Credential} (h : c.given = c'.given) : c = c' := by
  obtain ⟨access, refresh, expiresAt⟩ := c
  obtain ⟨access', refresh', expiresAt'⟩ := c'
  cases h
  rfl

/-- A token that is a text. -/
def tokenText : GivenText → Except Escape String
  | .whole s => .ok s
  | .torn points => .error (.unwritable (.ofPoints points))

/-- A credential that can be written. -/
def writable (c : Credential GivenText) : Except Escape Credential := do
  let accessToken ← tokenText c.accessToken
  let refreshToken ← tokenText c.refreshToken
  return { accessToken, refreshToken, expiresAt := c.expiresAt }

@[simp] theorem writable_given (c : Credential) : c.given.writable = .ok c := rfl

theorem writable_eq_ok_iff {c : Credential GivenText} {c' : Credential} :
    c.writable = .ok c' ↔ c = c'.given := by
  constructor
  · obtain ⟨access, refresh, expiresAt⟩ := c
    intro h
    cases access with
    | torn points => cases h
    | whole access =>
      cases refresh with
      | torn points => cases h
      | whole refresh =>
        cases h
        rfl
  · rintro rfl
    rfl

/-- The written form of a credential. -/
def blob (c : Credential) : String :=
  String.ofList (Value.write (.object [(accessTokenName.plain, .str c.accessToken),
    (refreshTokenName.plain, .str c.refreshToken),
    (expiresAtName.plain, .str c.expiresAt.utcText)]))

/-- Reads a written form. Its syntax is held to more strictly than that of an
answer from the network. -/
def ofBlob (blob : String) : Except Escape (Checked Credential) :=
  match parse .strict blob.toList with
  | .ok v => check text false v
  | .error _ => .ok (.fail .notJson)

variable {Token : Type}

/-- A credential is usable before its time and no longer. -/
def isUsable (c : Credential Token) (now : Moment) : Except Escape Bool :=
  match now.instant? with
  | some n => .ok (n < c.expiresAt.micros)
  | none => .error .unplacedClock

theorem isUsable_eq_ok_iff {c : Credential Token} {now : Moment} {b : Bool} :
    c.isUsable now = .ok b ↔
      ∃ n, now.instant? = some n ∧ b = decide (n < (c.expiresAt.micros : Int)) := by
  unfold isUsable
  cases now.instant? with
  | none => simp
  | some n => simp [eq_comm]

/-- The whole seconds for which a credential stays usable. -/
def expiresIn (c : Credential Token) (now : Moment) : Except Escape Int :=
  match now.instant? with
  | some n => .ok (max 0 (Span.seconds ⟨c.expiresAt.micros - n⟩))
  | none => .error .unplacedDifference

def dump (c : Credential) : Value :=
  .object [(accessTokenName.plain, .str c.accessToken),
    (refreshTokenName.plain, .str c.refreshToken),
    (expiresAtName.plain, .str (Moment.ofUtc c.expiresAt).text)]

end Credential
end PokerClient
