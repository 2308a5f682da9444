import PokerClient.Proofs.WillingStore
import PokerClient.Proofs.SlotFrame

/-!
# Logins that are stored

A login that reports success is the login of an answer of the backend, and the
credential made of it is in the slot. It is read back from there until the clock shows
that its validity is over, and from then on there is none. That is too early or too late
if the clock is put forward or back in the meantime.
-/

namespace PokerClient

open Http Time

/-- The instant at which a clock shows that a span is over which begins now. -/
structure Time.Moment.RunsOut (m : Moment) (s : Span) (now expiry : Int) : Prop where
  shown : ∃ sum, m.add? s = some sum ∧ sum.instant? = some expiry
  /-- The span is cut short by as much as the clock is put forward. -/
  shifted : ∃ before after, m.offset = some before ∧
    (∀ sum, m.add? s = some sum → sum.offset = some after) ∧
      expiry = now + s.micros - (after.micros - before.micros)
  /-- On a clock whose offset stays the span is kept to. -/
  fixed : m.clock = .fixed → expiry = now + s.micros

theorem Time.Moment.exists_runsOut {m sum : Moment} {s : Span} {now : Int}
    (hadd : m.add? s = some sum) (hnow : m.instant? = some now) :
    ∃ expiry, sum.instant? = some expiry ∧ m.RunsOut s now expiry := by
  obtain ⟨before, after, hbefore, hafter, hexpiry⟩ := instant?_add? hadd hnow
  refine ⟨_, hexpiry, ⟨sum, hadd, hexpiry⟩, ⟨before, after, hbefore, ?_, rfl⟩, fun hfixed => ?_⟩
  · intro sum' hadd'
    cases hadd.symm.trans hadd'
    exact hafter
  · exact Option.some.inj (hexpiry.symm.trans (instant?_add?_fixed hfixed hadd hnow))

/-- What follows from a login of the backend that was stored: what is reported, what is
in the slot, and what a read of the credential finds before and after it expires. -/
structure StoredLogin (c : Client) (deadline : Int) (login : Login) (o : LoginOutcome)
    (slot : Option String) (credential : Credential) : Prop where
  user : o.user = some login.user
  tokens : o.tokens = some login.tokens
  access : login.tokens.accessToken = credential.accessToken
  refresh : login.tokens.refreshToken = credential.refreshToken
  expiry : (credential.expiresAt.micros : Int) = deadline
  reported : o.expiresAt = some (Moment.ofUtc credential.expiresAt)
  stored : slot = some credential.blob
  usable : ∀ (later : Conditions) (n : Int) (w : World), later.faults = {} →
    later.now.instant? = some n → w.slot = slot → n < deadline →
      (c.store.get later w).result = .ok (some credential) ∧
        (c.store.get later w).world.slot = slot
  expired : ∀ (later : Conditions) (n : Int) (w : World), later.faults = {} →
    later.now.instant? = some n → w.slot = slot → deadline ≤ n →
      (c.store.get later w).result = .ok none ∧ (c.store.get later w).world.slot = none

namespace Account

variable {c : Client} {k : Conditions} {url identifier password : String} {w : World}

/-- The backend answers with a response to somebody who signs in. -/
def Answers (c : Client) (url identifier password : String) (w : World) (response : Response) :
    Prop :=
  ∃ connection, Connection.build c.settings none url = .ok connection ∧
    (Http.send connection "POST" Endpoint.login (some (loginBody identifier password)) false
      w).result = .ok response

theorem signIn_eq_ok {login : Login}
    (h : (signIn c url identifier password w).result = .ok login) :
    ∃ response, Answers c url identifier password w response ∧
      Decoding.login c.codecs response = .ok login := by
  obtain ⟨connection, hconnection, h⟩ := Action.bind_eq_ok h
  rw [Action.ofFailure_world] at h
  obtain ⟨response, hresponse, h⟩ := Action.bind_eq_ok h
  have hanswers : Answers c url identifier password w response :=
    ⟨connection, Action.ofFailure_eq_ok hconnection, hresponse⟩
  exact ⟨response, hanswers, Action.ofStop_eq_ok h⟩

theorem storedLogin_of_issue {expiry : Int} {login : Login} {credential : Credential}
    {slot : Option String} (haccess : login.tokens.accessToken = credential.accessToken)
    (hrefresh : login.tokens.refreshToken = credential.refreshToken)
    (hexpiry : (credential.expiresAt.micros : Int) = expiry)
    (hslot : slot = some credential.blob) :
    StoredLogin c expiry login (loginOutcome login credential.given) slot credential := by
  refine ⟨rfl, rfl, haccess, hrefresh, hexpiry, rfl, hslot, ?_, ?_⟩
  · intro later n w hfaults hn hw hlt
    have hcell : w.slot = (some credential).map Credential.blob := hw.trans hslot
    have hget := c.store.get_willing hfaults hn hcell
    rw [held_some hn (by omega)] at hget
    exact ⟨hget.result, (congrArg World.slot hget.world).trans hslot.symm⟩
  · intro later n w hfaults hn hw hle
    have hcell : w.slot = (some credential).map Credential.blob := hw.trans hslot
    have hget := c.store.get_willing hfaults hn hcell
    rw [held_expired hn (by omega)] at hget
    exact ⟨hget.result, congrArg World.slot hget.world⟩

/-- A login that reports success is stored, until the clock shows that its validity is
over. -/
theorem login_stored {now : Int} {o : LoginOutcome} (hnow : k.now.instant? = some now)
    (hran : (Account.login c k url identifier password w).result = .ok o)
    (hsuccess : o.success = true) :
    ∃ response login credential expiry, Answers c url identifier password w response ∧
      Decoding.login c.codecs response = .ok login ∧
      k.now.RunsOut c.store.policy.validity now expiry ∧
      StoredLogin c expiry login o (Account.login c k url identifier password w).world.slot
        credential := by
  rcases login_cases c k url identifier password w with
    ⟨login, credential, hobtain, hresult, hslot⟩ | ⟨-, hfailed⟩
  · obtain ⟨hsign, hissue⟩ := obtain_eq_ok hobtain
    obtain ⟨response, hanswers, hlogin⟩ := signIn_eq_ok hsign
    obtain ⟨haccess, hrefresh, sum, hadd, hshown⟩ := Policy.issue_eq_ok hissue
    obtain ⟨expiry, hexpiry, hruns⟩ := Moment.exists_runsOut hadd hnow
    cases hresult.symm.trans hran
    exact ⟨response, login, credential, expiry, hanswers, hlogin, hruns,
      storedLogin_of_issue haccess.symm hrefresh.symm (hshown expiry hexpiry) hslot⟩
  · have hfalse := hfailed o hran
    rw [hsuccess] at hfalse
    cases hfalse

/-- A login at two hours ahead of universal time, over a text that is no credential and
with a keyring that lets nothing be deleted. -/
theorem login_stored_of_offset :
    let login : Login :=
      { user :=
          { id := "u", username := "n", email := "", displayName := none, playerId := none
            roles := [] }
        tokens := { accessToken := "a\n\"", refreshToken := "é", expiresAt := none }
        message := "" }
    let credential : Credential :=
      { accessToken := "a\n\"", refreshToken := "é", expiresAt := ⟨14, by decide⟩ }
    let c : Client :=
      { store := { kind := .keyring, policy := { validity := ⟨10⟩ } }, settings := .standard }
    let k : Conditions :=
      { now := { wall := ⟨7200000004, by decide⟩, offset := some 7200 }
        faults := { erase := some { nothingToDelete := false, message := "locked" } } }
    let granted : Reply :=
      { status := 200, headers := [], octets := Text.Utf8.encode (login.dump .camel).write }
    let w : World := { slot := some "?", answers := [.reply granted], otherwise := .gaveUp "" "" }
    let ran := Account.login c k "https://poker.test" "p" "q" w
    k.now.instant? = some 4 ∧ ran.result = .ok (loginOutcome login credential) ∧
      (loginOutcome login credential).success = true ∧
      ∃ response login' credential' expiry, Answers c "https://poker.test" "p" "q" w response ∧
        Decoding.login c.codecs response = .ok login' ∧ k.now.RunsOut ⟨10⟩ 4 expiry ∧
        StoredLogin c expiry login' (loginOutcome login credential) ran.world.slot
          credential' := by
  intro login credential c k granted w ran
  have hnow : k.now.instant? = some 4 := by decide +kernel
  have hran : ran.result = .ok (loginOutcome login credential) :=
    eq_ok_of_toOption (by decide +kernel)
  exact ⟨hnow, hran, rfl, login_stored hnow hran rfl⟩

/-- A clock at noon, an hour ahead of universal time, that is put forward by another hour
in the night. A credential for a day is gone before the day has passed. -/
theorem login_expires_early :
    let day : Span := .hours 24
    let summerTime : Clock := .changing 3600 [(⟨63910350000000000, by decide⟩, 7200)]
    let login : Login :=
      { user :=
          { id := "u", username := "n", email := "", displayName := none, playerId := none
            roles := [] }
        tokens := { accessToken := "a", refreshToken := "b", expiresAt := none }
        message := "" }
    let credential : Credential :=
      { accessToken := "a", refreshToken := "b", expiresAt := ⟨63910375200000000, by decide⟩ }
    let c : Client := { store := { policy := { validity := day } }, settings := .standard }
    let k : Conditions :=
      { now :=
          { wall := ⟨63910296000000000, by decide⟩, offset := some 3600, clock := summerTime } }
    let granted : Reply :=
      { status := 200, headers := [], octets := Text.Utf8.encode (login.dump .camel).write }
    let w : World := { slot := none, answers := [.reply granted], otherwise := .gaveUp "" "" }
    let ran := Account.login c k "https://poker.test" "p" "q" w
    let later : Conditions := { now := .ofUtc ⟨63910377000000000, by decide⟩ }
    k.now.instant? = some 63910292400000000 ∧
      ran.result = .ok (loginOutcome login credential) ∧ ran.world.slot = some credential.blob ∧
      (credential.expiresAt.micros : Int) < 63910292400000000 + day.micros ∧
      later.now.instant? = some 63910377000000000 ∧
      (63910377000000000 : Int) < 63910292400000000 + day.micros ∧
      (c.store.get later ran.world).result = .ok none ∧
      (c.store.get later ran.world).world.slot = none := by
  intro day summerTime login credential c k granted w ran later
  have hran : ran.result = .ok (loginOutcome login credential) :=
    eq_ok_of_toOption (by decide +kernel)
  have hslot : ran.world.slot = some credential.blob := by decide +kernel
  have hlater : later.now.instant? = some 63910377000000000 := by decide +kernel
  have hcell : ran.world.slot = (some credential).map Credential.blob := hslot
  have hget := c.store.get_willing (k := later) rfl hlater hcell
  rw [held_expired hlater (by decide)] at hget
  exact ⟨by decide +kernel, hran, hslot, by decide, hlater, by decide, hget.result,
    congrArg World.slot hget.world⟩

end Account
end PokerClient
