import PokerClient.Proofs.Creating

/-!
# Asking the backend

An operation that asks the backend connects, sends one request and reads the response. It
takes one answer of the network, unless it comes to no request, and it succeeds exactly if
that answer is a reply that is let through and can be read.
-/

namespace PokerClient

open Http Json

/-- The world once the next answer is taken. -/
def World.taken (w : World) : World := { w with answers := w.answers.tail }

/-- The answers of the network by their places. -/
def World.answerAt (w : World) (i : Nat) : Answer := (w.answers[i]?).getD w.otherwise

theorem World.answerAt_zero (w : World) : w.answerAt 0 = w.nextAnswer := by
  unfold answerAt nextAnswer
  cases w.answers <;> rfl

theorem World.answerAt_taken (w : World) (i : Nat) : w.taken.answerAt i = w.answerAt (i + 1) := by
  unfold answerAt taken
  rw [List.getElem?_tail]

namespace Action

variable {α β : Type} {x : Action α} {f : α → Action β} {w : World}

theorem world_bind_left (hf : ∀ a v, (f a v).world = v) :
    ((x >>= f) w).world = (x w).world := by
  cases hr : (x w).result with
  | error stop => rw [bind_of_error f hr]
  | ok a =>
    rw [bind_of_ok f hr]
    exact hf a _

theorem send_world (r : Http.Request) (w : World) : (send r w).world = w.taken := by
  obtain ⟨slot, answers, otherwise⟩ := w
  cases answers <;> rfl

end Action

theorem Quiet.world {α : Type} {x : Action α} (hx : Quiet x) (w : World) : (x w).world = w := by
  obtain ⟨result, entries, hx⟩ := hx
  rw [hx]

namespace Http

theorem exchangeOnce_world (r : Request) (w : World) : (exchangeOnce r w).world = w.taken := by
  unfold exchangeOnce
  rw [Action.world_bind_left, Action.send_world]
  intro answer v
  cases replyOf answer with
  | error stop => rfl
  | ok reply =>
    dsimp only
    cases hasScheme r.url <;> rfl

theorem exchange_world (left : Nat) (r : Request) (w : World) :
    (exchange false left r w).world = w.taken := by
  rw [exchange_unfollowed, Action.world_bind_left, exchangeOnce_world]
  exact fun once v => rfl

theorem send_world {c : Connection} {method path : String} {body : Option Value} {r : Request}
    (hr : Request.build c method path body = .ok r) (w : World) :
    (Http.send c method path body false w).world = w.taken := by
  have hmade : (Action.ofEscape (Except.ok r) w).result = .ok r := rfl
  unfold Http.send
  rw [hr, Action.bind_of_ok _ hmade]
  show ((exchange false Redirect.limit r >>= _) w).world = _
  rw [Action.world_bind_left, exchange_world]
  rintro ((reason | e) | response) v <;> rfl

/-- Asks the backend and reads the response. -/
def asking {α : Type} (settings : Settings) (token : Option String) (url : String) (call : Call)
    (decode : Response → Except Stop α) : Action α := do
  let connection ← Action.ofFailure (Connection.build settings token url)
  let response ← Http.send connection call.method call.path call.body
  Action.ofStop (decode response)

theorem asking_requests {α : Type} (settings : Settings) (token : Option String) (url : String)
    (call : Call) (decode : Response → Except Stop α) (w : World) :
    (asking settings token url call decode w).trail.requests =
      (prepared? settings token url call).toList := by
  unfold asking prepared?
  cases hc : Connection.build settings token url with
  | error f => rfl
  | ok connection =>
    have hmade : (Action.ofFailure (Except.ok connection) w).result = .ok connection := rfl
    rw [Action.requests_bind_right rfl hmade, Action.requests_bind_left, send_requests]
    · rfl
    · exact fun response v => (Quiet.ofStop _).requests v

/-- The probe asks for the health of the backend and takes any response. -/
theorem ask_eq_asking (settings : Settings) (url : String) :
    Probe.ask settings url = asking settings none url ⟨"GET", Endpoint.health, none⟩ .ok := by
  unfold Probe.ask asking
  exact congrArg _ (funext fun connection => (bind_pure _).symm)

/-- A call obtains a response: the request for it can be made and is answered by a reply that
is let through. -/
def Call.Obtains (call : Call) (settings : Settings) (url : String) (a : Answer)
    (response : Response) : Prop :=
  ∃ r reply, prepared? settings none url call = some r ∧ a = .reply reply ∧
    LetThrough r reply response

theorem Call.obtains_iff {call : Call} {settings : Settings} {url : String} {a : Answer}
    {response : Response} {r : Request} (hr : prepared? settings none url call = some r) :
    call.Obtains settings url a response ↔ answered r a = .ok response := by
  rw [answered_eq_ok]
  constructor
  · rintro ⟨r', reply, hr', ha, hthrough⟩
    cases hr.symm.trans hr'
    exact ⟨reply, ha, hthrough⟩
  · rintro ⟨reply, ha, hthrough⟩
    exact ⟨r, reply, hr, ha, hthrough⟩

/-- What comes of asking the backend. -/
inductive Asked {α : Type} (settings : Settings) (url : String) (call : Call)
    (decode : Response → Except Stop α) (w : World) (ran : Ran α) : Prop
  | refused {f : Failure} (hc : Connection.build settings none url = .error f)
      (hresult : ran.result = .error (.failure f)) (hrequests : ran.trail.requests = [])
  | unmade {e : Escape} (hresult : ran.result = .error (.escape e))
  | made {r : Request} (hr : prepared? settings none url call = some r)
      (hrequests : ran.trail.requests = [r]) (hworld : ran.world = w.taken)
      (hresult : ∀ a, ran.result = .ok a ↔
        ∃ response, call.Obtains settings url w.nextAnswer response ∧ decode response = .ok a)

theorem asking_asked {α : Type} (settings : Settings) (url : String) (call : Call)
    (decode : Response → Except Stop α) (w : World) :
    Asked settings url call decode w (asking settings none url call decode w) := by
  unfold asking
  cases hc : Connection.build settings none url with
  | error f => exact .refused hc rfl rfl
  | ok connection =>
    have hconnected : (Action.ofFailure (Except.ok connection) w).result = .ok connection := rfl
    cases hr : Request.build connection call.method call.path call.body with
    | error e =>
      refine .unmade (e := e) ?_
      rw [Action.bind_result, hconnected]
      show ((Http.send connection call.method call.path call.body false >>= _) w).result = _
      rw [Action.bind_result, send_unmade hr]
      rfl
    | ok r =>
      have hprepared : prepared? settings none url call = some r :=
        prepared?_eq_some.2 ⟨connection, hc, hr⟩
      have hquiet (response : Response) := Quiet.ofStop (decode response)
      refine .made hprepared ?_ ?_ fun a => ?_
      · rw [Action.requests_bind_right rfl hconnected,
          Action.requests_bind_left fun response v => (hquiet response).requests v, send_requests,
          hr]
        rfl
      · rw [Action.bind_of_ok _ hconnected]
        show ((Http.send connection call.method call.path call.body false >>= _) w).world = _
        rw [Action.world_bind_left fun response v => (hquiet response).world v, send_world hr]
      · have hresult : ((Action.ofFailure (Except.ok connection) >>= fun connection =>
            Http.send connection call.method call.path call.body >>= fun response =>
              Action.ofStop (decode response)) w).result =
            ((answered r w.nextAnswer).mapError (Interruption.stop call.method call.path)).bind
              decode := by
          rw [Action.bind_result, hconnected]
          show ((Http.send connection call.method call.path call.body false >>= _) w).result = _
          rw [Action.bind_result, send_result hr]
          simp only [Action.ofStop_result]
        rw [hresult]
        simp only [Call.obtains_iff hprepared]
        cases answered r w.nextAnswer with
        | error reason =>
          constructor
          · intro h
            cases h
          · rintro ⟨response, hresponse, -⟩
            cases hresponse
        | ok response =>
          show decode response = .ok a ↔ _
          simp

end Http
end PokerClient
