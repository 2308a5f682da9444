import PokerClient.Proofs.Network

/-!
# What comes of an answer

A request that is sent takes the next answer of the network. The answer comes to a
response, to a failure of the network, or to an escape. The last happens where the
transport gives up for a reason of its own, where the URL of the request has no scheme,
and where a redirect names a place that cannot be worked out.
-/

namespace PokerClient

open Http Json

/-- What the network answers next. -/
def World.nextAnswer (w : World) : Answer := w.answers.headD w.otherwise

/-- An answer that is a reply or tells that the network failed. -/
def Http.Answer.OfNetwork : Answer → Prop
  | .reply _ => True
  | .gaveUp name _ => name ∈ networkErrors

/-- An escape that tells of a URL which cannot be worked with. -/
def Escape.OfUrl : Escape → Prop
  | .invalidUrl _ | .badHost _ | .unknownUrlType _ => True
  | _ => False

theorem Action.send_result (r : Request) (w : World) :
    (Action.send r w).result = .ok w.nextAnswer := by
  unfold Action.send World.nextAnswer
  cases w.answers <;> rfl

namespace Http

/-- The reply to a request, if it can be looked at. -/
def replied (r : Request) (a : Answer) : Except Interruption Reply :=
  (replyOf a).bind fun reply =>
    if hasScheme r.url then .ok reply
    else .error (.escape (.unknownUrlType (shownUrl r.url)))

/-- What comes of the answer to a request, if no redirect is followed. -/
def answered (r : Request) (a : Answer) : Except Interruption Response :=
  (replied r a).bind fun reply => (fetched r reply).map Prod.fst

theorem exchangeOnce_result (r : Request) (w : World) :
    (exchangeOnce r w).result = .ok (replied r w.nextAnswer) := by
  unfold exchangeOnce replied
  rw [Action.bind_of_ok _ (Action.send_result r w)]
  cases replyOf w.nextAnswer with
  | error stop => rfl
  | ok reply =>
    dsimp only
    cases hasScheme r.url <;> rfl

theorem exchange_result (left : Nat) (r : Request) (w : World) :
    (exchange false left r w).result = .ok (answered r w.nextAnswer) := by
  rw [exchange_unfollowed, Action.bind_result, exchangeOnce_result]
  rfl

/-- What an interruption of an exchange ends an operation with. -/
def Interruption.stop (method path : String) : Interruption → Stop
  | .network reason => .failure (.unreached method path reason)
  | .escape e => .escape e

section Send

variable {c : Connection} {method path : String} {body : Option Value}

theorem send_unmade {e : Escape} (hr : Request.build c method path body = .error e) (w : World) :
    (Http.send c method path body false w).result = .error (.escape e) := by
  unfold Http.send
  rw [hr]
  rfl

theorem send_result {r : Request} (hr : Request.build c method path body = .ok r) (w : World) :
    (Http.send c method path body false w).result =
      (answered r w.nextAnswer).mapError (Interruption.stop method path) := by
  have hmade : (Action.ofEscape (Except.ok r) w).result = .ok r := rfl
  unfold Http.send
  rw [hr, Action.bind_result, hmade, Action.ofEscape_world]
  show ((exchange false Redirect.limit r >>= _) w).result = _
  rw [Action.bind_result, exchange_result]
  rcases answered r w.nextAnswer with (reason | e) | response <;> rfl

end Send

theorem Request.checkHost_escape {u : Url} {e : Escape} (h : Request.checkHost u = .error e) :
    e.OfUrl := by
  unfold Request.checkHost at h
  split at h
  · cases h
  · cases h
    trivial

theorem Request.build_escape {c : Connection} {method path : String} {e : Escape}
    (h : Request.build c method path none = .error e) : e.OfUrl := by
  unfold Request.build at h
  dsimp only at h
  split at h
  · cases h
    trivial
  · rename_i url hurl
    cases hhost : Request.checkHost url with
    | error e' =>
      simp only [hhost, bind, Except.bind, pure, Except.pure] at h
      cases h
      exact Request.checkHost_escape hhost
    | ok u =>
      simp only [hhost, bind, Except.bind, pure, Except.pure] at h
      cases h

/-- Whatever escapes tells of a URL. -/
def Interruption.OfUrl {α : Type} (x : Except Interruption α) : Prop :=
  ∀ e, x = .error (.escape e) → e.OfUrl

namespace Interruption.OfUrl

variable {α β : Type}

theorem ok (a : α) : OfUrl (.ok a) := nofun

theorem network {ε : Type} (x : Except ε α) (describe : ε → String) :
    OfUrl (x.mapError fun f => .network (describe f)) := by
  intro e h
  cases x <;> cases h

theorem invalid (x : Except UrlFault α) :
    OfUrl (x.mapError fun f => .escape (.invalidUrl f.describe)) := by
  intro e h
  cases x <;> cases h
  trivial

theorem host (u : Url) : OfUrl (Redirect.checkHost u) := by
  intro e h
  unfold Redirect.checkHost at h
  cases hhost : Request.checkHost u with
  | error e' =>
    rw [hhost] at h
    cases h
    exact Request.checkHost_escape hhost
  | ok u =>
    rw [hhost] at h
    cases h

theorem bind {x : Except Interruption α} {f : α → Except Interruption β} (hx : OfUrl x)
    (hf : ∀ a, OfUrl (f a)) : OfUrl (x >>= f) := by
  intro e h
  cases x with
  | error stop =>
    cases h
    exact hx e rfl
  | ok a => exact hf a e h

theorem ite {c : Prop} [Decidable c] {x y : Except Interruption α} (hx : OfUrl x) (hy : OfUrl y) :
    OfUrl (if c then x else y) := by
  split
  · exact hx
  · exact hy

end Interruption.OfUrl

theorem Redirect.url_ofUrl (u : Url) (location : String) :
    Interruption.OfUrl (Redirect.url u location) := by
  unfold Redirect.url
  refine .bind (.network _ _) fun next => ?_
  dsimp only
  refine .ite (.bind (.ok _) ?placed)
    (.bind (.host _) fun _ => .ite (.bind (.invalid _) ?placed) (.bind (.ok _) ?placed))
  intro next
  refine .ite (.bind (.ok _) ?absolute) (.bind (.invalid _) ?absolute)
  intro next
  refine .ite (.bind (.invalid _) ?whole) (.bind (.ok _) ?whole)
  intro next
  exact .bind (.host _) fun _ => .ok _

/-- A reply to a request is let through as a response. -/
structure LetThrough (r : Request) (reply : Reply) (response : Response) : Prop where
  scheme : hasScheme r.url = true
  redirect : ∀ location, Redirect.location? reply = some location →
    ∃ next, Redirect.url r.url location = .ok next
  body : Response.ofReply reply = .ok response

/-- An answer to a request gives rise to an escape. -/
inductive Escapes (r : Request) : Answer → Escape → Prop
  | transport {name message : String} (h : name ∉ networkErrors) :
      Escapes r (.gaveUp name message) (.transport name message)
  | scheme {reply : Reply} (h : hasScheme r.url = false) :
      Escapes r (.reply reply) (.unknownUrlType (shownUrl r.url))
  | redirect {reply : Reply} {location : String} {e : Escape} (h : hasScheme r.url = true)
      (hlocation : Redirect.location? reply = some location)
      (hurl : Redirect.url r.url location = .error (.escape e)) : Escapes r (.reply reply) e

variable {r : Request} {a : Answer} {reply : Reply} {response : Response} {e : Escape}

theorem answered_network {name message : String} (h : name ∈ networkErrors) :
    answered r (.gaveUp name message) =
      .error (.network (if message = "" then name else message)) := by
  have hreply : replyOf (.gaveUp name message) =
      .error (.network (if message = "" then name else message)) :=
    if_pos (List.contains_iff_mem.2 h)
  unfold answered replied
  rw [hreply]
  rfl

theorem answered_transport {name message : String} (h : name ∉ networkErrors) :
    answered r (.gaveUp name message) = .error (.escape (.transport name message)) := by
  have hreply : replyOf (.gaveUp name message) = .error (.escape (.transport name message)) :=
    if_neg fun hname => h (List.contains_iff_mem.1 hname)
  unfold answered replied
  rw [hreply]
  rfl

theorem answered_schemeless (h : hasScheme r.url = false) :
    answered r (.reply reply) = .error (.escape (.unknownUrlType (shownUrl r.url))) := by
  simp [answered, replied, replyOf, Except.bind, h]

/-- What follows a reply is worked out before its body is decoded. -/
theorem answered_reply (h : hasScheme r.url = true) :
    answered r (.reply reply) = (next? r reply).bind fun _ =>
      (Response.ofReply reply).mapError fun f => .network f.describe := by
  unfold answered replied fetched
  simp only [replyOf, Except.bind, h, if_true]
  cases next? r reply with
  | error stop => rfl
  | ok next => cases Response.ofReply reply <;> rfl

theorem next?_eq_ok : (∃ next, next? r reply = .ok next) ↔
    ∀ location, Redirect.location? reply = some location →
      ∃ next, Redirect.url r.url location = .ok next := by
  unfold next?
  cases Redirect.location? reply with
  | none => simp
  | some location =>
    dsimp only
    cases hurl : Redirect.url r.url location <;> simp [Except.map, hurl]

theorem next?_escape : next? r reply = .error (.escape e) ↔
    ∃ location, Redirect.location? reply = some location ∧
      Redirect.url r.url location = .error (.escape e) := by
  unfold next?
  cases Redirect.location? reply with
  | none => simp
  | some location =>
    dsimp only
    cases hurl : Redirect.url r.url location <;> simp [Except.map, hurl]

/-- What an answer can come to. -/
theorem answered_cases (r : Request) (a : Answer) :
    (∃ reason, answered r a = .error (.network reason)) ∨
      (∃ e, Escapes r a e ∧ answered r a = .error (.escape e)) ∨
      ∃ reply response, a = .reply reply ∧ LetThrough r reply response ∧
        answered r a = .ok response := by
  cases a with
  | gaveUp name message =>
    by_cases hname : name ∈ networkErrors
    · exact Or.inl ⟨_, answered_network hname⟩
    · exact Or.inr (Or.inl ⟨_, .transport hname, answered_transport hname⟩)
  | reply reply =>
    cases hscheme : hasScheme r.url with
    | false => exact Or.inr (Or.inl ⟨_, .scheme hscheme, answered_schemeless hscheme⟩)
    | true =>
      rw [answered_reply hscheme]
      cases hnext : next? r reply with
      | error stop =>
        cases stop with
        | network reason => exact Or.inl ⟨reason, rfl⟩
        | escape e =>
          obtain ⟨location, hlocation, hurl⟩ := next?_escape.1 hnext
          exact Or.inr (Or.inl ⟨e, .redirect hscheme hlocation hurl, rfl⟩)
      | ok next =>
        cases hbody : Response.ofReply reply with
        | error fault => exact Or.inl ⟨fault.describe, rfl⟩
        | ok response =>
          have hthrough : LetThrough r reply response :=
            ⟨hscheme, next?_eq_ok.1 ⟨next, hnext⟩, hbody⟩
          exact Or.inr (Or.inr ⟨reply, response, rfl, hthrough, rfl⟩)

/-- An answer comes to a response exactly if it is a reply that is let through. -/
theorem answered_eq_ok : answered r a = .ok response ↔
    ∃ reply, a = .reply reply ∧ LetThrough r reply response := by
  constructor
  · intro h
    rcases answered_cases r a with ⟨_, h'⟩ | ⟨_, -, h'⟩ | ⟨reply, got, hreply, hthrough, h'⟩
    · cases h'.symm.trans h
    · cases h'.symm.trans h
    · cases h'.symm.trans h
      exact ⟨reply, hreply, hthrough⟩
  · rintro ⟨reply, rfl, hscheme, hredirect, hbody⟩
    obtain ⟨next, hnext⟩ := next?_eq_ok.2 hredirect
    rw [answered_reply hscheme, hnext, hbody]
    rfl

theorem answered_escape : answered r a = .error (.escape e) ↔ Escapes r a e := by
  constructor
  · intro h
    rcases answered_cases r a with ⟨_, h'⟩ | ⟨e', he, h'⟩ | ⟨_, _, -, -, h'⟩
    · cases h'.symm.trans h
    · cases h'.symm.trans h
      exact he
    · cases h'.symm.trans h
  · intro h
    cases h with
    | transport hname => exact answered_transport hname
    | scheme hscheme => exact answered_schemeless hscheme
    | redirect hscheme hlocation hurl =>
      rw [answered_reply hscheme, next?_escape.2 ⟨_, hlocation, hurl⟩]
      rfl

/-- If the network answers at all, nothing escapes but what tells of a URL. -/
theorem Escapes.ofUrl (h : Escapes r a e) (ha : a.OfNetwork) : e.OfUrl := by
  cases h with
  | transport hname => exact absurd ha hname
  | scheme => trivial
  | redirect hscheme hlocation hurl => exact Redirect.url_ofUrl _ _ e hurl

end Http
end PokerClient
