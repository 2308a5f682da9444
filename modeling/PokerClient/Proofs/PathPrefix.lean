import PokerClient.Proofs.Addressing
import PokerClient.Proofs.Asking

/-!
# Backends below a path

A backend may live below a path of its host. Each operation sends one request at most, and
it goes to the endpoint of the operation behind the whole URL of the backend, whatever the
depth of the path and however many slashes the URL ends in. It is sent exactly if all that
it shows can stand in its headers and its body.
-/

namespace PokerClient

open Http Json Text

namespace Http

/-- A path of segments that stand for themselves, the first of which is not empty. -/
def IsPlainPath (path : String) : Prop :=
  ∃ d part more, path.toList = rooted ((d :: part) :: more) ∧
    ∀ p ∈ (d :: part) :: more, IsSegment p ∧ Url.IsOrdinary p

theorem isPlainPath_of_unreserved {path : String} (d : Char) (part : List Char)
    (more : List (List Char)) (hpath : path.toList = rooted ((d :: part) :: more))
    (h : ∀ p ∈ (d :: part) :: more, p.all Percent.isUnreserved = true ∧ Url.IsOrdinary p) :
    IsPlainPath path :=
  ⟨d, part, more, hpath, fun p hp =>
    ⟨isSegment_of_unreserved fun c hc => List.all_eq_true.1 (h p hp).1 c hc, (h p hp).2⟩⟩

/-- A call can be made of a backend. -/
structure Call.FitsBelow (call : Call) (b : Backend) : Prop where
  plain : IsPlainPath call.path
  host : b.HostReadable
  length : b.text.length + call.path.length ≤ Url.lengthLimit
  method : call.method.toList.map Char.toUpper = call.method.toList

/-- All that a call shows can stand in a request. -/
structure Showable (settings : Settings) (token : Option String) (call : Call) : Prop where
  userAgent : Credentials.isHeaderValue settings.userAgent = true
  token : token.all Credentials.isHeaderValue = true
  body : ∀ v ∈ call.body, ∃ text, v.sent = .ok text

/-- Where a request can be made at all, what it shows decides whether it is made. -/
theorem prepared?_isSome {settings : Settings} {token : Option String} {url : String}
    {base target : Url} {call : Call} (h : Reaches url call.path base target) :
    (prepared? settings token url call).isSome = true ↔ Showable settings token call := by
  rw [Option.isSome_iff_exists]
  constructor
  · rintro ⟨r, hr⟩
    obtain ⟨c, hc, hbuild⟩ := prepared?_eq_some.1 hr
    obtain ⟨hagent, htoken⟩ := Credentials.exists_build.1 ⟨_, (Connection.build_eq_ok hc).1⟩
    exact ⟨hagent, htoken, Request.build_body hbuild⟩
  · rintro ⟨hagent, htoken, hbody⟩
    obtain ⟨credentials, hcredentials⟩ := Credentials.exists_build.2 ⟨hagent, htoken⟩
    obtain ⟨c, hc, rfl⟩ := Connection.build_of_credentials h hcredentials
    obtain ⟨r, hr, -⟩ := Request.exists_build h hbody
    exact ⟨r, prepared?_eq_some.2 ⟨c, hc, hr⟩⟩

end Http

/-! ## Where the requests of an operation go -/

/-- What an operation sends to a backend. -/
structure SendsBelow (b : Backend) (method path : String) (Valid : Prop)
    (requests : List Request) : Prop where
  placed : ∀ r ∈ requests, r.method = method ∧ r.url.text = String.ofList b.text ++ path
  atMostOne : requests.length ≤ 1
  sent : (∃ r, requests = [r]) ↔ Valid

namespace SendsBelow

variable {b : Backend} {slashes : Nat} {settings : Settings} {call : Call}
  {method path : String} {Valid Valid' : Prop} {requests : List Request}

theorem congr (h : SendsBelow b method path Valid requests) (hvalid : Valid ↔ Valid') :
    SendsBelow b method path Valid' requests :=
  ⟨h.placed, h.atMostOne, h.sent.trans hvalid⟩

theorem of_prepared (h : call.FitsBelow b) (token : Option String) :
    SendsBelow b call.method call.path (Showable settings token call)
      (prepared? settings token (b.url slashes) call).toList := by
  obtain ⟨d, part, more, hpath, hparts⟩ := h.plain
  have hsegments : ∀ p ∈ (d :: part) :: more, IsSegment p := fun p hp => (hparts p hp).1
  have hordinary : ∀ p ∈ (d :: part) :: more, Url.IsOrdinary p := fun p hp => (hparts p hp).2
  obtain ⟨base, hreaches⟩ := Backend.reaches slashes hpath rfl hsegments h.host h.length
  refine ⟨?_, ?_, ?_⟩
  · intro r hr
    rw [Option.mem_toList] at hr
    obtain ⟨c, -, hbuild⟩ := prepared?_eq_some.1 hr
    constructor
    · rw [Request.build_method hbuild, h.method, String.ofList_toList]
    · rw [Url.text, Backend.prepared?_url hr hpath rfl hsegments,
        b.write_endpoint hsegments hordinary, ← hpath, String.ofList_append,
        String.ofList_toList]
  · cases prepared? settings token (b.url slashes) call <;> simp
  · rw [← prepared?_isSome hreaches]
    cases prepared? settings token (b.url slashes) call <;> simp

/-- A request that waits for a token to be found. -/
theorem of_token (h : call.FitsBelow b) (found : Except Stop (Option String)) :
    SendsBelow b call.method call.path
      (∃ token, found = .ok token ∧ Showable settings token call)
      (found.toOption.bind fun token => prepared? settings token (b.url slashes) call).toList := by
  cases found with
  | error stop => exact ⟨nofun, Nat.zero_le _, nofun, nofun⟩
  | ok token =>
    refine (of_prepared h token).congr ⟨fun hshown => ⟨token, rfl, hshown⟩, ?_⟩
    rintro ⟨token', heq, hshown⟩
    cases heq
    exact hshown

end SendsBelow

/-! ## What the operations send -/

theorem Probe.check_requests (settings : Settings) (watch : Probe.Stopwatch) (url : String)
    (w : World) : (Probe.check settings watch url w).trail.requests =
      (prepared? settings none url ⟨"GET", Endpoint.health, none⟩).toList := by
  unfold Probe.check
  rw [Action.requests_bind_left, Action.requests_attempt, ask_eq_asking, asking_requests]
  rintro (f | response) v
  · rfl
  · rfl

theorem Account.login_requests (c : Client) (k : Conditions) (url identifier password : String)
    (w : World) : (Account.login c k url identifier password w).trail.requests =
      (prepared? c.settings none url
        ⟨"POST", Endpoint.login, some (loginBody identifier password)⟩).toList := by
  have hkeep (granted : Login × Credential Validation.GivenText) (v : World) :
      (Account.keep c k granted v).trail.requests = [] := by
    unfold Account.keep
    rw [Action.requests_bind_left fun _ _ => rfl]
    exact (Store.set_offline c.store k granted.2 v).1
  have hsign : signIn c url identifier password =
      asking c.settings none url ⟨"POST", Endpoint.login, some (loginBody identifier password)⟩
        (Decoding.login c.codecs) := rfl
  unfold Account.login
  rw [Action.requests_bind_left, Action.requests_attempt]
  · unfold establish obtain
    rw [Action.requests_bind_left hkeep, Action.requests_bind_left, hsign, asking_requests]
    intro login v
    rw [Action.requests_bind_left fun _ _ => rfl]
    exact (Quiet.ofEscape _).requests v
  · exact fun granted v => (reportLogin_quiet granted).requests v

namespace Lobby

variable (c : Client) (k : Conditions) (w : World)

theorem optionalToken_requests : (optionalToken c k w).trail.requests = [] := by
  unfold optionalToken
  rw [Action.requests_bind_left fun found v => (tokenIfAny_quiet found).requests v,
    Action.requests_attempt]
  exact (Store.get_offline c.store k w).1

theorem list_requests_of_token (url : String) : (list c k url w).trail.requests =
    ((optionalToken c k w).result.toOption.bind fun token =>
      prepared? c.settings token url ⟨"GET", Endpoint.tables, none⟩).toList := by
  have hread := optionalToken_requests c k w
  unfold list
  cases htoken : (optionalToken c k w).result with
  | error stop => rw [Action.bind_of_error _ htoken, hread]; rfl
  | ok token =>
    rw [Action.requests_bind_right hread htoken]
    exact listWith_requests token url _

theorem create_requests_of_token (url : String) (config : TableConfig) :
    (create c k url config w).trail.requests =
      (((requiredToken c k w).result.map some).toOption.bind fun token =>
        prepared? c.settings token url
          ⟨"POST", Endpoint.tables, some (config.dump .camel)⟩).toList := by
  have hread := requiredToken_requests c k w
  unfold create createWith
  rw [Action.requests_bind_left fun created v => (reportCreation_quiet _ created).requests v,
    Action.requests_attempt]
  cases htoken : (requiredToken c k w).result with
  | error stop => rw [Action.bind_of_error _ htoken, hread]; rfl
  | ok token =>
    rw [Action.requests_bind_right hread htoken,
      Action.requests_bind_left fun data v => (Quiet.ofFailure _).requests v]
    exact request_requests c _ url ⟨"POST", Endpoint.tables, some (config.dump .camel)⟩ _

/-- A table can be created exactly if a credential is at hand that can be shown, and the
configuration can be written. -/
theorem showable_iff_bearing {url : String} (config : TableConfig) :
    (∃ token, (requiredToken c k w).result.map some = .ok token ∧
        Showable c.settings token ⟨"POST", url, some (config.dump .camel)⟩) ↔
      (∃ credential, Bearing c k w credential) ∧ ∃ text, (config.dump .camel).sent = .ok text := by
  constructor
  · rintro ⟨token, htoken, hshown⟩
    cases haccess : (requiredToken c k w).result with
    | error stop =>
      rw [haccess] at htoken
      cases htoken
    | ok access =>
      rw [haccess] at htoken
      cases htoken
      obtain ⟨credential, hget, rfl⟩ := requiredToken_eq_ok haccess
      exact ⟨⟨credential, hshown.userAgent, hshown.token, hget⟩, hshown.body _ rfl⟩
  · rintro ⟨⟨credential, h⟩, hbody⟩
    refine ⟨some credential.accessToken, ?_, h.userAgent, h.token, ?_⟩
    · rw [requiredToken_of_found h.got]
      rfl
    · rintro v hv
      cases hv
      exact hbody

end Lobby

namespace Endpoint

theorem health_isPlain : IsPlainPath health :=
  isPlainPath_of_unreserved 'a' ['p', 'i'] ["health".toList] (by decide) (by decide)

theorem login_isPlain : IsPlainPath login :=
  isPlainPath_of_unreserved 'a' ['p', 'i'] ["auth".toList, "login".toList] (by decide) (by decide)

theorem tables_isPlain : IsPlainPath tables :=
  isPlainPath_of_unreserved 'a' ['p', 'i'] ["tables".toList] (by decide) (by decide)

end Endpoint

/-- What the operations send to a backend, which may live below a path of its host. -/
structure KeepsPath (b : Backend) (slashes : Nat) (c : Client) (k : Conditions) (w : World) :
    Prop where
  health : ∀ watch, SendsBelow b "GET" "/api/health"
    (Credentials.isHeaderValue c.settings.userAgent = true)
    (Probe.check c.settings watch (b.url slashes) w).trail.requests
  login : ∀ identifier password, SendsBelow b "POST" "/api/auth/login"
    (Credentials.isHeaderValue c.settings.userAgent = true)
    (Account.login c k (b.url slashes) identifier password w).trail.requests
  /-- The tables are listed with the token that is found, if one is found. -/
  listing : SendsBelow b "GET" "/api/tables"
    (Credentials.isHeaderValue c.settings.userAgent = true ∧
      ∃ token, (Lobby.optionalToken c k w).result = .ok token ∧
        token.all Credentials.isHeaderValue = true)
    (Lobby.list c k (b.url slashes) w).trail.requests
  creation : ∀ config, SendsBelow b "POST" "/api/tables"
    ((∃ credential, Lobby.Bearing c k w credential) ∧
      ∃ text, (config.dump .camel).sent = .ok text)
    (Lobby.create c k (b.url slashes) config w).trail.requests

theorem Http.Backend.hostReadable_of_unmarked {b : Backend} (h : ¬ "xn--".toList <+: b.host) :
    b.HostReadable :=
  fun hencoded => absurd (List.isPrefixOf_iff_prefix.1 hencoded) h

theorem Http.Backend.url_length (b : Backend) (slashes : Nat) :
    (b.url slashes).length = b.text.length + slashes := by
  rw [url, ← String.length_toList, String.toList_ofList, List.length_append,
    List.length_replicate]

/-- Requests go to the endpoints below the URL of the backend without the slashes at its end,
and there is one whenever what it shows can be sent. -/
theorem requests_keep_path (b : Backend) (slashes : Nat) (c : Client) (k : Conditions) (w : World)
    (hhost : ¬ "xn--".toList <+: b.host) (hlength : (b.url slashes).length ≤ 60000) :
    KeepsPath b slashes c k w := by
  have hfits (method path : String) (body : Option Value) (hplain : IsPlainPath path)
      (hpath : path.length ≤ 15) (hmethod : method.toList.map Char.toUpper = method.toList) :
      Call.FitsBelow ⟨method, path, body⟩ b := by
    have hlimit : Url.lengthLimit = 65536 := rfl
    rw [b.url_length] at hlength
    exact ⟨hplain, Backend.hostReadable_of_unmarked hhost, by dsimp only; omega, hmethod⟩
  refine ⟨fun watch => ?_, fun identifier password => ?_, ?_, fun config => ?_⟩
  · have h := hfits "GET" Endpoint.health none Endpoint.health_isPlain (by decide) (by decide)
    rw [Probe.check_requests]
    exact (SendsBelow.of_prepared h none).congr
      ⟨fun hshown => hshown.userAgent, fun hagent => ⟨hagent, rfl, nofun⟩⟩
  · have h := hfits "POST" Endpoint.login (some (Account.loginBody identifier password))
      Endpoint.login_isPlain (by decide) (by decide)
    rw [Account.login_requests]
    refine (SendsBelow.of_prepared h none).congr
      ⟨fun hshown => hshown.userAgent, fun hagent => ⟨hagent, rfl, ?_⟩⟩
    -- What a player types can always be sent.
    rintro v hv
    cases hv
    exact ⟨_, rfl⟩
  · have h := hfits "GET" Endpoint.tables none Endpoint.tables_isPlain (by decide) (by decide)
    rw [Lobby.list_requests_of_token]
    refine (SendsBelow.of_token h _).congr ⟨?_, ?_⟩
    · rintro ⟨token, htoken, hshown⟩
      exact ⟨hshown.userAgent, token, htoken, hshown.token⟩
    · rintro ⟨hagent, token, htoken, hshown⟩
      exact ⟨token, htoken, hagent, hshown, nofun⟩
  · have h := hfits "POST" Endpoint.tables (some (config.dump .camel)) Endpoint.tables_isPlain
      (by decide) (by decide)
    rw [Lobby.create_requests_of_token]
    exact (SendsBelow.of_token h _).congr (Lobby.showable_iff_bearing c k w config)

/-- A backend two segments below its host, with slashes behind its URL. -/
theorem requests_keep_path_of_segments :
    let b : Backend :=
      { secure := true, host := "poker.test".toList, segments := ["v1".toList, "lobby".toList]
        host_letter := ⟨'p', "oker.test".toList, by decide, by decide, by decide⟩
        host_plain := List.all_eq_true.1 (by decide)
        segments_filled := by decide
        segments_plain := by
          -- A statement about all characters is not decided by trying every one of them.
          simp only [List.forall_mem_cons, ← List.all_eq_true]
          decide
        segments_ordinary := by decide }
    let c : Client := { store := {}, settings := .standard }
    let k : Conditions := { now := .ofUtc default }
    let w : World := { slot := none, answers := [], otherwise := .gaveUp "ConnectError" "" }
    b.url 2 = "https://poker.test/v1/lobby//" ∧ ¬ "xn--".toList <+: b.host ∧
      (b.url 2).length ≤ 60000 ∧ KeepsPath b 2 c k w := by
  intro b c k w
  have hhost : ¬ "xn--".toList <+: b.host := by decide
  have hlength : (b.url 2).length ≤ 60000 := by decide
  exact ⟨by decide, hhost, hlength, requests_keep_path b 2 c k w hhost hlength⟩

end PokerClient
