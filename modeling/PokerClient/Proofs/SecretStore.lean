import Mathlib.Data.List.Forall2
import PokerClient.Proofs.CredentialText
import PokerClient.Proofs.SecretValues
import PokerClient.Proofs.StoreAccess

/-!
# The store and secrets

Two worlds count as alike that differ in secrets: in the tokens of the credential in
the slot, and in those that the network grants. Trails count as alike that show the
same to whoever reads the log or looks at where requests go. The store goes on alike in
worlds that are alike.
-/

namespace PokerClient

open Http Json Time Validation

/-! ## What counts as alike -/

/-- Two credentials that differ in their tokens alone. -/
structure CredentialsAlike (c c' : Credential) : Prop where
  access : Interchangeable c.accessToken c'.accessToken
  expiresAt : c.expiresAt = c'.expiresAt

theorem CredentialsAlike.refl (c : Credential) : CredentialsAlike c c :=
  ⟨Interchangeable.refl _, rfl⟩

/-- Two credentials as they are given that differ in their tokens alone. -/
structure GivenCredentialsAlike (c c' : Credential GivenText) : Prop where
  access : GivenAlike Interchangeable c.accessToken c'.accessToken
  refresh : GivenAlike (fun _ _ => True) c.refreshToken c'.refreshToken
  expiresAt : c.expiresAt = c'.expiresAt

theorem GivenCredentialsAlike.refl (c : Credential GivenText) : GivenCredentialsAlike c c :=
  ⟨.same _, .same _, rfl⟩

theorem CredentialsAlike.given {c c' : Credential} (h : CredentialsAlike c c') :
    GivenCredentialsAlike c c' := ⟨.texts h.access, .texts trivial, h.expiresAt⟩

theorem GivenAlike.tokenText {R : String → String → Prop} (hR : ∀ a, R a a) {t t' : GivenText}
    (h : GivenAlike R t t') :
    EndsAlike R (Credential.tokenText t) (Credential.tokenText t') := by
  cases h with
  | same => exact (EndsAlike.refl _).mono fun a b hab => hab ▸ hR a
  | texts h => exact .ok h

/-- A token that keeps one credential from being written is in both. -/
theorem GivenCredentialsAlike.writable {c c' : Credential GivenText}
    (h : GivenCredentialsAlike c c') : EndsAlike CredentialsAlike c.writable c'.writable :=
  (h.access.tokenText Interchangeable.refl).bind fun _ _ haccess =>
    (h.refresh.tokenText fun _ => trivial).bind fun _ _ _ => .ok ⟨haccess, h.expiresAt⟩

/-- Two contents of the slot that are the same, or differ in the tokens of a credential
alone. -/
inductive SlotsAlike : Option String → Option String → Prop
  | same (slot : Option String) : SlotsAlike slot slot
  | credentials {blob blob' : String} {c c' : Credential}
      (h : Credential.ofBlob blob = .ok (.valid c)) (h' : Credential.ofBlob blob' = .ok (.valid c'))
      (hc : CredentialsAlike c c') : SlotsAlike (some blob) (some blob')

theorem SlotsAlike.written {c c' : Credential} (h : CredentialsAlike c c') :
    SlotsAlike (some c.blob) (some c'.blob) := .credentials c.ofBlob_blob c'.ofBlob_blob h

/-- A reply reports success and has a JSON value for a body. -/
structure Http.Reply.Carries (r : Reply) (v : Value) : Prop where
  success : 200 ≤ r.status ∧ r.status ≤ 299
  body : ∃ octets, r.decoded = .ok octets ∧ ofOctets octets = .ok v

/-- Two replies that are the same, or grant a login and differ in its tokens alone. -/
inductive RepliesAlike : Reply → Reply → Prop
  | same (r : Reply) : RepliesAlike r r
  | grants {r r' : Reply} {v v' : Value} (hstatus : r.status = r'.status) (hv : r.Carries v)
      (hv' : r'.Carries v') (h : GrantsAlike v v') : RepliesAlike r r'

inductive AnswersAlike : Answer → Answer → Prop
  | reply {r r' : Reply} (h : RepliesAlike r r') : AnswersAlike (.reply r) (.reply r')
  | gaveUp (name message : String) : AnswersAlike (.gaveUp name message) (.gaveUp name message)

structure WorldsAlike (w w' : World) : Prop where
  slot : SlotsAlike w.slot w'.slot
  answers : List.Forall₂ AnswersAlike w.answers w'.answers
  otherwise : AnswersAlike w.otherwise w'.otherwise

/-- What a request shows of itself wherever it goes. -/
structure Http.Exposed where
  method : String
  url : Url
  userAgent : String
  deriving DecidableEq

def Http.Request.exposed (r : Request) : Exposed :=
  { method := r.method, url := r.url, userAgent := r.userAgent }

structure TrailsAlike (t t' : Trail) : Prop where
  requests : t.requests.map Request.exposed = t'.requests.map Request.exposed
  entries : t.entries = t'.entries
  calls : t.calls = t'.calls

/-- Runs are alike that differ in secrets alone. -/
def Likeness.secret : Likeness where
  worlds := WorldsAlike
  trails := TrailsAlike
  refl _ := ⟨rfl, rfl, rfl⟩
  append := by
    intro s s' t t' hs ht
    refine ⟨?_, ?_, ?_⟩
    · rw [Trail.requests_append, Trail.requests_append, List.map_append, List.map_append,
        hs.requests, ht.requests]
    · rw [Trail.entries_append, Trail.entries_append, hs.entries, ht.entries]
    · rw [Trail.calls_append, Trail.calls_append, hs.calls, ht.calls]

/-! ## Accesses -/

namespace Store

variable (s : Store) (faults : Faults) (k : Conditions)

theorem look_alike : Alike .secret SlotsAlike Action.look Action.look :=
  fun _ _ hw => ⟨.ok hw.slot, hw, Likeness.secret.refl _⟩

theorem store_alike {slot slot' : Option String} (h : SlotsAlike slot slot') :
    Alike .secret Eq (Action.store slot) (Action.store slot') :=
  fun _ _ hw => ⟨.ok rfl, ⟨h, hw.answers, hw.otherwise⟩, Likeness.secret.refl _⟩

theorem noteCall_alike (call : StoreRequest) :
    Alike .secret Eq (Action.noteCall call) (Action.noteCall call) :=
  fun _ _ hw => ⟨.ok rfl, hw, Likeness.secret.refl _⟩

theorem read_alike : Alike .secret SlotsAlike (s.read faults) (s.read faults) := by
  unfold read
  cases s.kind with
  | memory => exact look_alike
  | keyring =>
    refine Alike.bind (noteCall_alike _) fun _ _ _ => ?_
    cases faults.read with
    | some fault => exact Alike.fail _
    | none => exact look_alike

theorem write_alike {c c' : Credential} (h : CredentialsAlike c c') :
    Alike .secret Eq (s.write faults c.blob) (s.write faults c'.blob) := by
  have hstore := store_alike (SlotsAlike.written h)
  unfold write
  cases s.kind with
  | memory => exact hstore
  | keyring =>
    refine Alike.bind (noteCall_alike _) fun _ _ _ => ?_
    cases faults.write with
    | some fault => exact Alike.fail _
    | none => exact hstore

theorem set_alike {c c' : Credential GivenText} (h : GivenCredentialsAlike c c') :
    Alike .secret Eq (s.set k c) (s.set k c') :=
  Alike.bind (Alike.ofEscape h.writable) fun _ _ hc => write_alike s k.faults hc

theorem confirmErased_alike (reason : String) :
    Alike .secret Eq (s.confirmErased faults reason) (s.confirmErased faults reason) := by
  refine Alike.bind (read_alike s faults.afterErase) fun found found' hfound => ?_
  cases hfound with
  | same =>
    cases found with
    | none => exact Alike.pure rfl
    | some blob => exact Alike.fail _
  | credentials h h' hc => exact Alike.fail _

theorem erase_alike : Alike .secret Eq (s.erase faults) (s.erase faults) := by
  have hstore := store_alike (SlotsAlike.same none)
  unfold erase
  cases s.kind with
  | memory => exact hstore
  | keyring =>
    refine Alike.bind (noteCall_alike _) fun _ _ _ => ?_
    cases faults.erase with
    | some fault =>
      dsimp only
      split
      · exact confirmErased_alike s faults _
      · exact Alike.fail _
    | none =>
      refine Alike.bind look_alike fun found found' hfound => ?_
      cases hfound with
      | same =>
        cases found with
        | none => exact confirmErased_alike s faults _
        | some blob => exact hstore
      | credentials h h' hc => exact hstore

/-! ## Readings -/

/-- Two verdicts on credentials that differ in their tokens alone. -/
inductive VerdictsAlike : Verdict → Verdict → Prop
  | usable {c c' : Credential} (h : CredentialsAlike c c') :
      VerdictsAlike (.usable c) (.usable c')
  | expired {c c' : Credential} (h : CredentialsAlike c c') :
      VerdictsAlike (.expired c) (.expired c')
  | unreadable (issues : Nat) : VerdictsAlike (.unreadable issues) (.unreadable issues)

theorem VerdictsAlike.refl (v : Verdict) : VerdictsAlike v v := by
  cases v with
  | usable c => exact .usable (CredentialsAlike.refl c)
  | expired c => exact .expired (CredentialsAlike.refl c)
  | unreadable issues => exact .unreadable issues

/-- What a text is worth does not hang on the tokens in it. -/
theorem judge_alike (now : Moment) {blob blob' : String}
    (h : SlotsAlike (some blob) (some blob')) :
    EndsAlike VerdictsAlike (judge now blob) (judge now blob') := by
  cases h with
  | same => exact (EndsAlike.refl _).mono fun v v' hv => hv ▸ VerdictsAlike.refl v
  | @credentials _ _ c c' h h' hc =>
    have husable : c.isUsable now = c'.isUsable now := by
      unfold Credential.isUsable
      rw [hc.expiresAt]
    rw [judge_eq, judge_eq, h, h']
    dsimp only
    rw [husable]
    cases c'.isUsable now with
    | error e => exact .error e
    | ok usable =>
      cases usable with
      | true => exact .ok (.usable hc)
      | false => exact .ok (.expired hc)

theorem settle_alike {blob blob' : String} (h : SlotsAlike (some blob) (some blob')) :
    Alike .secret (Option.Rel CredentialsAlike) (s.settle k blob) (s.settle k blob') := by
  have hevict : Alike .secret (Option.Rel CredentialsAlike)
      (do s.erase k.faults; return none : Action (Option Credential))
      (do s.erase k.faults; return none : Action (Option Credential)) :=
    Alike.bind (erase_alike s k.faults) fun _ _ _ => Alike.pure .none
  refine Alike.bind (Alike.ofEscape (judge_alike k.now h)) fun v v' hv => ?_
  cases hv with
  | usable hc => exact Alike.pure (.some hc)
  | unreadable issues =>
    exact Alike.bind (Alike.of_quiet (Quiet.log _ _ _)) fun _ _ _ => hevict
  | expired hc =>
    dsimp only
    rw [hc.expiresAt]
    exact Alike.bind (Alike.of_quiet (Quiet.log _ _ _)) fun _ _ _ => hevict

theorem get_alike : Alike .secret (Option.Rel CredentialsAlike) (s.get k) (s.get k) := by
  refine Alike.bind (read_alike s k.faults) fun found found' hfound => ?_
  cases hfound with
  | same =>
    cases found with
    | none => exact Alike.pure .none
    | some blob => exact settle_alike s k (.same (some blob))
  | credentials h h' hc => exact settle_alike s k (.credentials h h' hc)

end Store
end PokerClient
