import PokerClient.Proofs.Network
import PokerClient.Proofs.SecretStore

/-!
# Requests and secrets

A token that can be shown in a header and a password that is a text do not decide
whether a request can be made, and what else it shows does not hang on them. The
network answers alike, and the answers are read alike.
-/

namespace PokerClient

open Http Json

namespace Http

/-! ## Making requests -/

/-- Two connections that differ in their authorization at most. -/
structure ConnectionsAlike (c c' : Connection) : Prop where
  base : c.base = c'.base
  userAgent : c.credentials.userAgent = c'.credentials.userAgent

/-- Whether a token can be shown is the same for interchangeable ones. -/
theorem Credentials.isHeaderValue_congr {a b : String} (h : Interchangeable a b) :
    Credentials.isHeaderValue (Credentials.bearer a) =
      Credentials.isHeaderValue (Credentials.bearer b) := by
  rcases h with rfl | ⟨ha, hb⟩
  · rfl
  · rw [isHeaderValue_bearer, isHeaderValue_bearer, ha, hb]

theorem Credentials.build_alike (settings : Settings) {token token' : Option String}
    (h : Option.Rel Interchangeable token token') :
    EndsAlike (fun c c' => c.userAgent = c'.userAgent) (Credentials.build settings token)
      (Credentials.build settings token') := by
  have hall : (token.map bearer).all isHeaderValue = (token'.map bearer).all isHeaderValue := by
    cases h with
    | none => rfl
    | some hab => exact isHeaderValue_congr hab
  unfold Credentials.build
  split
  · exact .error _
  · dsimp only
    rw [hall]
    split
    · exact .error _
    · exact .ok rfl

theorem Connection.build_alike (settings : Settings) (url : String) {token token' : Option String}
    (h : Option.Rel Interchangeable token token') :
    EndsAlike ConnectionsAlike (Connection.build settings token url)
      (Connection.build settings token' url) := by
  have hcredentials := Credentials.build_alike settings h
  unfold Connection.build
  generalize Credentials.build settings token = c at hcredentials
  generalize Credentials.build settings token' = c' at hcredentials
  cases hcredentials with
  | error f => exact .error f
  | ok huser =>
    simp only [bind, Except.bind, pure, Except.pure]
    split
    · exact .error _
    · split
      · exact .ok ⟨rfl, huser⟩
      · exact .error _

/-- Two bodies that are the same, or can both be sent. -/
inductive BodiesAlike : Option Value → Option Value → Prop
  | same (body : Option Value) : BodiesAlike body body
  | sent {v v' : Value} {text text' : List Char} (h : v.sent = .ok text)
      (h' : v'.sent = .ok text') : BodiesAlike (some v) (some v')

theorem Request.build_alike {c c' : Connection} (hc : ConnectionsAlike c c')
    (method path : String) {body body' : Option Value} (hbody : BodiesAlike body body') :
    EndsAlike (fun r r' => r.exposed = r'.exposed) (Request.build c method path body)
      (Request.build c' method path body') := by
  unfold Request.build
  rw [hc.base]
  cases Url.parse path.toList >>= fun u => u.under c'.base with
  | error f => exact .error _
  | ok url =>
    dsimp only
    simp only [bind, Except.bind, pure, Except.pure]
    cases hbody with
    | same =>
      cases body with
      | none =>
        dsimp only
        cases checkHost url with
        | error e => exact .error e
        | ok => exact .ok (congrArg (Exposed.mk _ _) hc.userAgent)
      | some v =>
        dsimp only
        cases v.sent with
        | error f => exact .error _
        | ok text =>
          dsimp only
          cases checkHost url with
          | error e => exact .error e
          | ok => exact .ok (congrArg (Exposed.mk _ _) hc.userAgent)
    | sent h h' =>
      simp only [h, h']
      cases checkHost url with
      | error e => exact .error e
      | ok => exact .ok (congrArg (Exposed.mk _ _) hc.userAgent)

/-! ## Answers -/

/-- A response reports success and has a JSON value for a body. -/
structure Response.Carries (r : Response) (v : Value) : Prop where
  success : r.isSuccess = true
  json : r.json = .ok v

/-- Two responses that are the same, or grant a login and differ in its tokens alone. -/
inductive ResponsesAlike : Response → Response → Prop
  | same (r : Response) : ResponsesAlike r r
  | grants {r r' : Response} {v v' : Value} (hstatus : r.status = r'.status) (hv : r.Carries v)
      (hv' : r'.Carries v') (h : GrantsAlike v v') : ResponsesAlike r r'

theorem ResponsesAlike.status {r r' : Response} (h : ResponsesAlike r r') :
    r.status = r'.status := by
  cases h with
  | same => rfl
  | grants hstatus hv hv' h => exact hstatus

theorem Reply.Carries.response {reply : Reply} {v : Value} (h : reply.Carries v) :
    ∃ r, Response.ofReply reply = .ok r ∧ r.status = reply.status ∧ r.Carries v := by
  obtain ⟨octets, hbody, hv⟩ := h.body
  have hr : Response.ofReply reply =
      .ok { status := reply.status, headers := reply.headers, body := some octets } := by
    rw [Response.ofReply, hbody]
    rfl
  refine ⟨_, hr, rfl, ?_, ?_⟩
  · simp [Response.isSuccess, h.success]
  · simp [Response.json, hv]

theorem sendAction_alike {r r' : Request} (h : r.exposed = r'.exposed) :
    Alike .secret AnswersAlike (Action.send r) (Action.send r') := by
  intro w w' hw
  have htrail : TrailsAlike { requests := [r] } { requests := [r'] } :=
    ⟨congrArg (fun e => [e]) h, rfl, rfl⟩
  have hanswers := hw.answers
  unfold Action.send
  generalize w.answers = answers at hanswers
  generalize w'.answers = answers' at hanswers
  cases hanswers with
  | nil => exact ⟨.ok hw.otherwise, hw, htrail⟩
  | cons ha hrest => exact ⟨.ok ha, ⟨hw.slot, hrest, hw.otherwise⟩, htrail⟩

theorem replyOf_alike {a a' : Answer} (h : AnswersAlike a a') :
    EndsAlike RepliesAlike (replyOf a) (replyOf a') := by
  cases h with
  | reply h => exact .ok h
  | gaveUp name message =>
    exact (EndsAlike.refl _).mono fun r r' hr => hr ▸ RepliesAlike.same r

theorem exchangeOnce_alike {r r' : Request} (h : r.exposed = r'.exposed) :
    Alike .secret (EndsAlike RepliesAlike) (exchangeOnce r) (exchangeOnce r') := by
  have hurl : r.url = r'.url := congrArg Exposed.url h
  refine Alike.bind (sendAction_alike h) fun a a' ha => ?_
  have hreply := replyOf_alike ha
  generalize replyOf a = reply at hreply
  generalize replyOf a' = reply' at hreply
  cases hreply with
  | error stop => exact Alike.pure (.error stop)
  | ok hab =>
    dsimp only
    rw [hurl]
    split
    · exact Alike.pure (.ok hab)
    · exact Alike.pure (.error _)

/-- A reply that reports success asks for no other request. -/
theorem Reply.Carries.next? {reply : Reply} {v : Value} (h : reply.Carries v) (r : Request) :
    next? r reply = .ok none := by
  have hsuccess := h.success
  have hout : reply.status ∉ Redirect.statuses := by
    intro hmem
    simp only [Redirect.statuses, List.mem_cons, List.not_mem_nil, or_false] at hmem
    omega
  have hstatus : Redirect.statuses.contains reply.status = false := by
    rw [← Bool.not_eq_true, List.contains_iff_mem]
    exact hout
  unfold Http.next? Redirect.location?
  rw [hstatus]
  rfl

/-- Whether the next request can be worked out hangs on the URLs alone. -/
theorem next?_alike {r r' : Request} (h : r.exposed = r'.exposed) (reply : Reply) :
    EndsAlike (fun _ _ => True) (next? r reply) (next? r' reply) := by
  have hurl : r.url = r'.url := congrArg Exposed.url h
  unfold next?
  rw [hurl]
  split
  · exact .ok trivial
  · exact (EndsAlike.refl _).map fun _ _ _ => trivial

theorem fetched_alike {r r' : Request} (h : r.exposed = r'.exposed) {a a' : Reply}
    (ha : RepliesAlike a a') :
    EndsAlike (fun p p' => ResponsesAlike p.1 p'.1) (fetched r a) (fetched r' a') := by
  unfold fetched
  cases ha with
  | same =>
    have hnext := next?_alike h a
    generalize next? r a = next at hnext
    generalize next? r' a = next' at hnext
    cases hnext with
    | error stop => exact .error stop
    | ok =>
      cases Response.ofReply a with
      | error f => exact .error _
      | ok response => exact .ok (.same response)
  | grants hstatus hv hv' hgrants =>
    obtain ⟨response, hresponse, hcode, hcarries⟩ := hv.response
    obtain ⟨response', hresponse', hcode', hcarries'⟩ := hv'.response
    have hcodes : response.status = response'.status := by rw [hcode, hcode', hstatus]
    rw [hv.next?, hv'.next?, hresponse, hresponse']
    exact .ok (.grants hcodes hcarries hcarries' hgrants)

theorem exchange_alike {r r' : Request} (h : r.exposed = r'.exposed) (left : Nat) :
    Alike .secret (EndsAlike ResponsesAlike) (exchange false left r) (exchange false left r') := by
  rw [exchange_unfollowed, exchange_unfollowed]
  refine Alike.bind (exchangeOnce_alike h) fun once once' honce => ?_
  cases honce with
  | error stop => exact Alike.pure (.error stop)
  | ok hreply => exact Alike.pure ((fetched_alike h hreply).map fun p p' hp => hp)

theorem send_alike {c c' : Connection} (hc : ConnectionsAlike c c') (method path : String)
    {body body' : Option Value} (hbody : BodiesAlike body body') :
    Alike .secret ResponsesAlike (Http.send c method path body)
      (Http.send c' method path body') := by
  refine Alike.bind (Alike.ofEscape (Request.build_alike hc method path hbody))
    fun r r' hr => ?_
  refine Alike.bind (exchange_alike hr Redirect.limit) fun answer answer' hanswer => ?_
  cases hanswer with
  | ok h => exact Alike.pure h
  | error stop =>
    cases stop with
    | network reason => exact Alike.fail _
    | escape e => exact Alike.escape e

end Http

/-! ## Reading answers -/

namespace Decoding

variable (codecs : Text.Charset.Codecs)

theorem checkStatus_of_carries {r : Response} {v : Value} (h : r.Carries v) :
    checkStatus codecs r = .ok () := by
  unfold checkStatus
  rw [if_pos h.success]

theorem envelope_alike {r r' : Response} (h : ResponsesAlike r r') :
    EndsAlike DataAlike (envelope codecs r) (envelope codecs r') := by
  cases h with
  | same => exact (EndsAlike.refl _).mono fun v v' hv => Or.inl hv
  | grants hstatus hv hv' hgrants =>
    unfold envelope
    rw [checkStatus_of_carries codecs hv, checkStatus_of_carries codecs hv', hv.json, hv'.json]
    exact hgrants.unwrap.mapError _

theorem login_alike {r r' : Response} (h : ResponsesAlike r r') :
    EndsAlike LoginsAlike (login codecs r) (login codecs r') := by
  cases h with
  | same => exact (EndsAlike.refl _).mono fun l l' hl => hl ▸ LoginsAlike.refl l
  | grants hstatus hv hv' hgrants =>
    unfold login
    rw [checkStatus_of_carries codecs hv, checkStatus_of_carries codecs hv', hv.json, hv'.json]
    exact hgrants.loginOf.mapError _

end Decoding
end PokerClient
