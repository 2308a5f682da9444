import PokerClient.Proofs.PathPrefix
import PokerClient.Proofs.Utf8Text
import PokerClient.Proofs.WrittenText

/-!
# What a login says

The body of a login is an object of two strings. It is read back from its text and from its
octets whatever the player types, so that no character of an identifier or a password can
change the other, and logins that differ have bodies that differ.
-/

namespace PokerClient

open Http Json Text

namespace Json

/-! ## JSON in UTF-8 -/

/-- Octets that start with ASCII and have no zero at the front are read as UTF-8. -/
theorem decodeOctets_ascii {a b : Octet} (hascii : a.toNat < 0x80) (ha : a ≠ 0) (hb : b ≠ 0)
    (rest : List Octet) : decodeOctets (a :: b :: rest) = Utf8.decodeLoose (a :: b :: rest) := by
  have hmark {m : Octet} (hm : 0x80 ≤ m.toNat) : a ≠ m := by
    rintro rfl
    omega
  have hFF : a ≠ 0xFF := hmark (by decide)
  have hFE : a ≠ 0xFE := hmark (by decide)
  have hEF : a ≠ 0xEF := hmark (by decide)
  have horder32 : Wide.order32? (a :: b :: rest) = none := by
    unfold Wide.order32?
    split
    · cases ‹_›
      exact absurd rfl hFF
    · cases ‹_›
      exact absurd rfl ha
    · rfl
  have horder16 : Wide.order16? (a :: b :: rest) = none := by
    unfold Wide.order16?
    split
    · cases ‹_›
      exact absurd rfl hFF
    · cases ‹_›
      exact absurd rfl hFE
    · rfl
  have hprefix : Utf8.mark.isPrefixOf (a :: b :: rest) = false := by
    have hhead : ((0xEF : Octet) == a) = false := beq_eq_false_iff_ne.2 hEF.symm
    unfold Utf8.mark
    rw [List.isPrefixOf_cons_cons, hhead, Bool.false_and]
  have hzeros : Encoding.ofZeros (a :: b :: rest) = .utf8 := by
    unfold Encoding.ofZeros
    split
    · cases ‹_›
      rw [if_neg ha, if_neg hb]
    · cases ‹_›
      rw [if_neg ha, if_neg hb]
    · rfl
  unfold decodeOctets
  rw [horder32, horder16, hprefix, hzeros]
  rfl

/-- A text that starts with two ASCII characters, none of them zero, is read back. -/
theorem decodeOctets_encode {c d : Char} (hc : 0 < c.toNat ∧ c.toNat < 0x80)
    (hd : 0 < d.toNat ∧ d.toNat < 0x80) (cs : List Char) :
    decodeOctets (Utf8.encode (c :: d :: cs)) = .ok (c :: d :: cs) := by
  have hone {e : Char} (he : e.toNat < 0x80) : Utf8.encodeChar e = [octet e.toNat] := if_pos he
  have hne {e : Char} (he : 0 < e.toNat ∧ e.toNat < 0x80) : octet e.toNat ≠ 0 := by
    intro h
    have hvalue := Utf8.toNat_octet (n := e.toNat) (by omega)
    rw [h] at hvalue
    exact Nat.ne_of_lt he.1 hvalue
  have hfront : (octet c.toNat).toNat < 0x80 := by
    rw [Utf8.toNat_octet (by omega)]
    exact hc.2
  rw [← Utf8.decodeLoose_encode (c :: d :: cs), Utf8.encode_cons, Utf8.encode_cons, hone hc.2,
    hone hd.2]
  exact decodeOctets_ascii hfront (hne hc) (hne hd) _

theorem ofOctets_encode {cs : List Char} {v : Value}
    (hdecode : decodeOctets (Utf8.encode cs) = .ok cs) (hparse : parse .lenient cs = .ok v) :
    ofOctets (Utf8.encode cs) = .ok v := by
  unfold ofOctets
  rw [hdecode]
  dsimp only
  rw [hparse]

end Json

namespace Http.Request

/-- The body of a request is an object that names a player and a password, and nothing else,
and its length is announced in octets. -/
structure CarriesLogin (r : Request) (identifier password : String) : Prop where
  text : parseText .lenient r.body =
    .ok (.object [("email", .str identifier), ("password", .str password)])
  octets : ofOctets (Utf8.encode r.body) =
    .ok (.object [("email", .str identifier), ("password", .str password)])
  length : r.contentLength = some (String.ofList r.body).utf8ByteSize

end Http.Request

namespace Account

theorem parse_loginBody (identifier password : String) :
    parse .lenient (loginBody identifier password).write = .ok (loginBody identifier password) :=
  parse_written (d := .lenient) nofun ("email", identifier) [("password", password)]

theorem loginBody_front (identifier password : String) :
    ∃ cs, (loginBody identifier password).write = '\x7b' :: '"' :: cs := ⟨_, rfl⟩

theorem loginBody_injective {identifier password identifier' password' : String}
    (h : loginBody identifier password = loginBody identifier' password') :
    identifier = identifier' ∧ password = password' := by
  cases h
  exact ⟨rfl, rfl⟩

/-- A login, as a player asks for it in some state of a client and of the world. -/
structure LoginAttempt where
  client : Client
  conditions : Conditions
  world : World
  url : String
  identifier : String
  password : String

namespace LoginAttempt

variable {a b : LoginAttempt} {r q : Request}

def requests (a : LoginAttempt) : List Request :=
  (login a.client a.conditions a.url a.identifier a.password a.world).trail.requests

theorem body_of_mem (hr : r ∈ a.requests) :
    r.body = (loginBody a.identifier a.password).write ∧
      r.contentLength = some (Utf8.encode r.body).length := by
  unfold requests at hr
  rw [login_requests, Option.mem_toList] at hr
  obtain ⟨c, -, hbuild⟩ := prepared?_eq_some.1 hr
  obtain ⟨hsent, hlength⟩ := (Request.made hbuild).body _ rfl
  have hwritten : Except.ok (loginBody a.identifier a.password).write = Except.ok r.body := hsent
  exact ⟨(Except.ok.inj hwritten).symm, hlength⟩

theorem carriesLogin (hr : r ∈ a.requests) : r.CarriesLogin a.identifier a.password := by
  obtain ⟨hbody, hlength⟩ := body_of_mem hr
  obtain ⟨cs, hfront⟩ := loginBody_front a.identifier a.password
  have hparse : parse .lenient r.body = .ok (loginBody a.identifier a.password) := by
    rw [hbody, parse_loginBody]
  rw [hfront] at hbody
  refine ⟨?_, ?_, ?_⟩
  · have hmark : r.body.head? ≠ some '\ufeff' := by
      rw [hbody, List.head?_cons]
      decide
    rw [parseText, if_neg hmark]
    exact hparse
  · refine ofOctets_encode ?_ hparse
    rw [hbody]
    exact decodeOctets_encode (by decide) (by decide) cs
  · rw [hlength, Utf8.length_encode]

end LoginAttempt

/-- Whatever a player types is what a login says, octet for octet, and logins have the same
body only if the same was typed. -/
theorem login_says_typed (a b : LoginAttempt) (r q : Request) (hr : r ∈ a.requests)
    (hq : q ∈ b.requests) :
    r.CarriesLogin a.identifier a.password ∧
      (Utf8.encode r.body = Utf8.encode q.body ↔
        a.identifier = b.identifier ∧ a.password = b.password) := by
  have hleft := LoginAttempt.carriesLogin hr
  have hright := LoginAttempt.carriesLogin hq
  refine ⟨hleft, fun hsame => ?_, ?_⟩
  · have hvalues := hleft.octets
    rw [hsame, hright.octets] at hvalues
    exact (loginBody_injective (Except.ok.inj hvalues)).imp Eq.symm Eq.symm
  · rintro ⟨hidentifier, hpassword⟩
    rw [(LoginAttempt.body_of_mem hr).1, (LoginAttempt.body_of_mem hq).1, hidentifier, hpassword]

/-- Quotes, a backslash, a control character and a character outside the basic plane -/
theorem login_says_typed_of_marks :
    let c : Client := { store := {}, settings := .standard }
    let k : Conditions := { now := .ofUtc default }
    let w : World := { slot := none, answers := [], otherwise := .gaveUp "ConnectError" "" }
    let a : LoginAttempt := ⟨c, k, w, "https://poker.test", "a\",\"password\":\"", "\\\x01😀"⟩
    let b : LoginAttempt := ⟨c, k, w, "http://other.test/v1/", "a", "\",\"password\":\"\\\x01😀"⟩
    ∃ r ∈ a.requests, ∃ q ∈ b.requests, r.CarriesLogin a.identifier a.password ∧
      Utf8.encode r.body ≠ Utf8.encode q.body := by
  intro c k w a b
  have ha : 0 < a.requests.length := by decide +kernel
  have hb : 0 < b.requests.length := by decide +kernel
  obtain ⟨r, hr⟩ := List.length_pos_iff_exists_mem.1 ha
  obtain ⟨q, hq⟩ := List.length_pos_iff_exists_mem.1 hb
  obtain ⟨hcarries, hsame⟩ := login_says_typed a b r q hr hq
  have hdiffer : a.identifier ≠ b.identifier := by decide
  exact ⟨r, hr, q, hq, hcarries, fun h => hdiffer (hsame.1 h).1⟩

end Account
end PokerClient
