import PokerClient.Probe
import PokerClient.Proofs.Answering
import PokerClient.Proofs.Reading

/-!
# The probe of the backend

A probe reports that there is no connection, whatever the network does to it, unless its
request cannot be made or the answer cannot be made sense of: then it escapes. What the
report says of the connection follows from the response that the probe obtained, if any.
-/

namespace PokerClient

open Http Json Numeric

namespace Probe

variable {settings : Settings} {url : String} {w : World}

/-- The request of a probe can be made. -/
def Makes (settings : Settings) (url : String) (r : Request) : Prop :=
  ∃ connection, Connection.build settings none url = .ok connection ∧
    Request.build connection "GET" Endpoint.health none = .ok r

/-- A probe obtains a response: its request is answered by a reply that is let through. -/
def Obtains (settings : Settings) (url : String) (a : Answer) (response : Response) : Prop :=
  ∃ r reply, Makes settings url r ∧ a = .reply reply ∧ LetThrough r reply response

/-- A probe escapes: its request cannot be made, or the answer gives rise to an escape. -/
inductive Escapes (settings : Settings) (url : String) (a : Answer) : Escape → Prop
  | unmade {connection : Connection} {e : Escape}
      (hc : Connection.build settings none url = .ok connection)
      (hr : Request.build connection "GET" Endpoint.health none = .error e) :
      Escapes settings url a e
  | answered {r : Request} {e : Escape} (hr : Makes settings url r) (he : Http.Escapes r a e) :
      Escapes settings url a e

theorem ask_of_refused {f : Failure} (hc : Connection.build settings none url = .error f) :
    (ask settings url w).result = .error (.failure f) := by
  unfold ask
  rw [hc]
  rfl

theorem ask_of_connection {connection : Connection}
    (hc : Connection.build settings none url = .ok connection) :
    (ask settings url w).result =
      (Http.send connection "GET" Endpoint.health none false w).result := by
  unfold ask
  rw [hc, Action.bind_of_ok (x := Action.ofFailure _) (a := connection) _ rfl]
  rfl

theorem ask_of_request {r : Request} (hr : Makes settings url r) :
    (ask settings url w).result =
      (answered r w.nextAnswer).mapError (Interruption.stop "GET" Endpoint.health) := by
  obtain ⟨connection, hc, hr⟩ := hr
  rw [ask_of_connection hc, send_result hr]

theorem Makes.unique {r r' : Request} (h : Makes settings url r) (h' : Makes settings url r') :
    r = r' := by
  obtain ⟨connection, hc, hr⟩ := h
  obtain ⟨connection', hc', hr'⟩ := h'
  cases hc.symm.trans hc'
  exact Except.ok.inj (hr.symm.trans hr')

/-- What can come of asking the backend. -/
theorem ask_cases (settings : Settings) (url : String) (w : World) :
    (∃ f, (ask settings url w).result = .error (.failure f)) ∨
      (∃ e, Escapes settings url w.nextAnswer e ∧
        (ask settings url w).result = .error (.escape e)) ∨
      ∃ response, Obtains settings url w.nextAnswer response ∧
        (ask settings url w).result = .ok response := by
  cases hc : Connection.build settings none url with
  | error f => exact Or.inl ⟨f, ask_of_refused hc⟩
  | ok connection =>
    cases hr : Request.build connection "GET" Endpoint.health none with
    | error e =>
      have hask := (ask_of_connection hc).trans (send_unmade hr w)
      exact Or.inr (Or.inl ⟨e, .unmade hc hr, hask⟩)
    | ok r =>
      have hmakes : Makes settings url r := ⟨connection, hc, hr⟩
      rw [ask_of_request hmakes]
      rcases answered_cases r w.nextAnswer with
        ⟨reason, h⟩ | ⟨e, he, h⟩ | ⟨reply, response, hreply, hthrough, h⟩
      · exact Or.inl ⟨_, congrArg (Except.mapError _) h⟩
      · exact Or.inr (Or.inl ⟨e, .answered hmakes he, congrArg (Except.mapError _) h⟩)
      · refine Or.inr (Or.inr ⟨response, ⟨r, reply, hmakes, hreply, hthrough⟩, ?_⟩)
        exact congrArg (Except.mapError _) h

theorem ask_eq_ok {response : Response} :
    (ask settings url w).result = .ok response ↔
      Obtains settings url w.nextAnswer response := by
  constructor
  · intro h
    rcases ask_cases settings url w with ⟨_, h'⟩ | ⟨_, -, h'⟩ | ⟨got, hobtains, h'⟩
    · cases h'.symm.trans h
    · cases h'.symm.trans h
    · cases h'.symm.trans h
      exact hobtains
  · rintro ⟨r, reply, hr, hreply, hthrough⟩
    rw [ask_of_request hr, answered_eq_ok.2 ⟨reply, hreply, hthrough⟩]
    rfl

theorem ask_escape {e : Escape} :
    (ask settings url w).result = .error (.escape e) ↔
      Escapes settings url w.nextAnswer e := by
  constructor
  · intro h
    rcases ask_cases settings url w with ⟨_, h'⟩ | ⟨e', he, h'⟩ | ⟨_, -, h'⟩
    · cases h'.symm.trans h
    · cases h'.symm.trans h
      exact he
    · cases h'.symm.trans h
  · intro h
    cases h with
    | unmade hc hr => rw [ask_of_connection hc, send_unmade hr]
    | answered hr he =>
      rw [ask_of_request hr, answered_escape.2 he]
      rfl

theorem Obtains.unique {a : Answer} {response other : Response}
    (h : Obtains settings url a response) (h' : Obtains settings url a other) :
    response = other := by
  obtain ⟨r, reply, hr, rfl, hthrough⟩ := h
  obtain ⟨r', reply', hr', hreply, hthrough'⟩ := h'
  cases hr.unique hr'
  cases hreply
  exact Except.ok.inj (hthrough.body.symm.trans hthrough'.body)

theorem check_of_response (watch : Stopwatch) {response : Response}
    (h : (ask settings url w).result = .ok response) :
    (check settings watch url w).result =
      .ok { connected := response.isSuccess, backendUrl := url
            latency := some (watch.elapsed.roundTo 2) } := by
  unfold check
  rw [Action.attempted_of_ok h]
  rfl

theorem check_of_failure (watch : Stopwatch) {f : Failure}
    (h : (ask settings url w).result = .error (.failure f)) :
    (check settings watch url w).result = .ok { connected := false, backendUrl := url } := by
  unfold check
  rw [Action.attempted_of_failure h]
  rfl

theorem check_of_escape (watch : Stopwatch) {e : Escape}
    (h : (ask settings url w).result = .error (.escape e)) :
    (check settings watch url w).result = .error (.escape e) :=
  Action.attempted_of_escape h

/-- What a probe reports of a connection, by what the network answers. -/
structure Tells (settings : Settings) (url : String) (a : Answer) (s : ConnectionStatus) :
    Prop where
  backendUrl : s.backendUrl = url
  connected : s.connected = true ↔
    ∃ response, Obtains settings url a response ∧ 200 ≤ response.status ∧ response.status ≤ 299
  latency : s.latency = none ↔ ¬ ∃ response, Obtains settings url a response

theorem tells_of_response {a : Answer} {response : Response}
    (h : Obtains settings url a response) (latency : Binary64) :
    Tells settings url a
      { connected := response.isSuccess, backendUrl := url, latency := some latency } := by
  have hsuccess : response.isSuccess = true ↔ 200 ≤ response.status ∧ response.status ≤ 299 := by
    simp [Response.isSuccess]
  refine ⟨rfl, ⟨fun hconnected => ⟨response, h, hsuccess.1 hconnected⟩, ?_⟩, ⟨nofun, ?_⟩⟩
  · rintro ⟨other, hother, hstatus⟩
    rw [← h.unique hother] at hstatus
    exact hsuccess.2 hstatus
  · intro hnothing
    exact absurd ⟨response, h⟩ hnothing

theorem tells_of_nothing {a : Answer} (h : ¬ ∃ response, Obtains settings url a response) :
    Tells settings url a { connected := false, backendUrl := url } := by
  refine ⟨rfl, ⟨nofun, ?_⟩, ⟨fun _ => h, fun _ => rfl⟩⟩
  rintro ⟨response, hobtained, -⟩
  exact absurd ⟨response, hobtained⟩ h

theorem Escapes.ofUrl {a : Answer} {e : Escape} (h : Escapes settings url a e)
    (ha : a.OfNetwork) : e.OfUrl := by
  cases h with
  | unmade hc hr => exact Request.build_escape hr
  | answered hr he => exact he.ofUrl ha

/-- How a probe ends. It escapes or reports of the connection, and never fails. -/
structure Ends (settings : Settings) (watch : Stopwatch) (url : String) (w : World) : Prop where
  escape : ∀ e, (check settings watch url w).result = .error (.escape e) ↔
    Escapes settings url w.nextAnswer e
  report : (∀ e, ¬ Escapes settings url w.nextAnswer e) →
    ∃ s, (check settings watch url w).result = .ok s ∧ Tells settings url w.nextAnswer s
  /-- If the network answers at all, nothing but a URL makes a probe escape. -/
  ofUrl : w.nextAnswer.OfNetwork → ∀ e, Escapes settings url w.nextAnswer e → e.OfUrl

theorem check_ends (settings : Settings) (watch : Stopwatch) (url : String) (w : World) :
    Ends settings watch url w := by
  have hurl (ha : w.nextAnswer.OfNetwork) (e : Escape)
      (he : Escapes settings url w.nextAnswer e) : e.OfUrl := he.ofUrl ha
  rcases hask : (ask settings url w).result with (f | e) | response
  · have hcheck := check_of_failure watch hask
    have hnothing : ¬ ∃ response, Obtains settings url w.nextAnswer response := by
      rintro ⟨response, hobtained⟩
      cases hask.symm.trans (ask_eq_ok.2 hobtained)
    refine ⟨fun e => ?_, fun _ => ⟨_, hcheck, tells_of_nothing hnothing⟩, hurl⟩
    rw [hcheck, ← ask_escape, hask]
    exact ⟨nofun, nofun⟩
  · have hcheck := check_of_escape watch hask
    refine ⟨fun e' => ?_, fun hnone => absurd (ask_escape.1 hask) (hnone e), hurl⟩
    rw [hcheck, ← ask_escape, hask]
    simp
  · have hcheck := check_of_response watch hask
    refine ⟨fun e => ?_, fun _ => ⟨_, hcheck, tells_of_response (ask_eq_ok.1 hask) _⟩, hurl⟩
    rw [hcheck, ← ask_escape, hask]
    exact ⟨nofun, nofun⟩

/-- The host of the URL stands for nothing, which is noticed when the request is made. -/
theorem check_escapes_badHost :
    let w : World :=
      { slot := none, answers := []
        otherwise := .reply { status := 200, headers := [], octets := [] } }
    w.nextAnswer.OfNetwork ∧
      (check .standard {} "https://xn--fiqs8s0" w).result =
        .error (.escape (.badHost .notDecodable)) := by
  intro w
  have hescapes : (match (check .standard {} "https://xn--fiqs8s0" w).result with
      | .error (.escape (.badHost .notDecodable)) => true
      | _ => false) = true := by decide +kernel
  refine ⟨trivial, ?_⟩
  split at hescapes
  · assumption
  · cases hescapes

end Probe
end PokerClient
