import PokerClient.Lobby
import PokerClient.Proofs.Footprint

/-!
# What an action can fail of

A request to the backend and the reading of its answer fail of reasons of their own.
None of them is a failure of the secret store, and none says that a login is missing.
Each of them says in words what went wrong.
-/

namespace PokerClient

open Http Json

/-- Whatever an action fails of has a property. -/
def FailsOnly {α : Type} (P : Failure → Prop) (x : Action α) : Prop :=
  ∀ w f, (x w).result = .error (.failure f) → P f

namespace FailsOnly

variable {α β : Type} {P : Failure → Prop} {x : Action α} {f : α → Action β}

theorem pure (a : α) : FailsOnly P (Pure.pure a : Action α) := by
  intro w e h
  cases h

theorem fail {e : Failure} (he : P e) : FailsOnly P (Action.fail e : Action α) := by
  intro w e' h
  cases h
  exact he

theorem escape (e : Escape) : FailsOnly P (Action.escape e : Action α) := by
  intro w e' h
  cases h

theorem ofFailure {r : Except Failure α} (hr : ∀ e, r = .error e → P e) :
    FailsOnly P (Action.ofFailure r) := by
  cases r with
  | ok a => exact pure a
  | error e => exact fail (hr e rfl)

theorem ofEscape (r : Except Escape α) : FailsOnly P (Action.ofEscape r) := by
  cases r with
  | ok a => exact pure a
  | error e => exact escape e

theorem ofStop {r : Except Stop α} (hr : ∀ e, r = .error (.failure e) → P e) :
    FailsOnly P (Action.ofStop r) := by
  rcases r with (e | e) | a
  · exact fail (hr e rfl)
  · exact escape e
  · exact pure a

theorem send (r : Request) : FailsOnly P (Action.send r) := by
  intro w e h
  unfold Action.send at h
  split at h <;> cases h

theorem mono {Q : Failure → Prop} (hx : FailsOnly P x) (h : ∀ e, P e → Q e) : FailsOnly Q x :=
  fun w e he => h e (hx w e he)

theorem bind (hx : FailsOnly P x) (hf : ∀ a, FailsOnly P (f a)) : FailsOnly P (x >>= f) := by
  intro w e h
  cases hr : (x w).result with
  | error stop =>
    rw [Action.bind_of_error f hr] at h
    cases h
    exact hx w e hr
  | ok a =>
    rw [Action.bind_of_ok f hr] at h
    exact hf a _ e h

end FailsOnly

/-- Whether a request can come to a failure of a kind. -/
def FailureKind.isOfRequest : FailureKind → Bool
  | construction | network | httpStatus | malformedResponse | rejected => true
  | client | envelope | store | notAuthenticated => false

namespace Failure

/-- A failure that comes of a request or of the answer to it. -/
def OfRequest (f : Failure) : Prop := f.kind.isOfRequest = true

/-- Whether a failure has words of its own, beside those it was given. -/
def hasOwnWords : Failure → Bool
  | stated _ _ | status _ _ | rejected _ => false
  | _ => true

theorem message_ne_empty {f : Failure} (h : f.hasOwnWords = true) : f.message ≠ "" := by
  cases f with
  | stated | status | rejected => cases h
  | secretStore request label reason =>
    cases request <;> unfold message <;> simp [toString]
  | _ => unfold message; simp [toString]

/-- A failure that comes of a request and says so in words. -/
def ToldOfRequest (f : Failure) : Prop := f.OfRequest ∧ f.message ≠ ""

theorem told_of_request {f : Failure} (hkind : f.OfRequest) (hwords : f.hasOwnWords = true) :
    f.ToldOfRequest := ⟨hkind, message_ne_empty hwords⟩

end Failure

namespace Http

variable {P : Failure → Prop}

theorem exchangeOnce_fails (r : Request) : FailsOnly P (exchangeOnce r) := by
  refine FailsOnly.bind (FailsOnly.send r) fun answer => ?_
  split
  · exact FailsOnly.pure _
  · split <;> exact FailsOnly.pure _

/-- An exchange hands on as a value whatever goes wrong with it. -/
theorem exchange_fails (follow : Bool) (left : Nat) (r : Request) :
    FailsOnly P (exchange follow left r) := by
  induction left generalizing r with
  | zero =>
    unfold exchange
    refine FailsOnly.bind (exchangeOnce_fails r) fun once => ?_
    rcases once with stop | reply
    · exact FailsOnly.pure _
    · dsimp only
      rcases fetched r reply with stop | ⟨response, _ | request⟩
      · exact FailsOnly.pure _
      · exact FailsOnly.pure _
      · cases follow <;> exact FailsOnly.pure _
  | succ left ih =>
    unfold exchange
    refine FailsOnly.bind (exchangeOnce_fails r) fun once => ?_
    rcases once with stop | reply
    · exact FailsOnly.pure _
    · dsimp only
      rcases fetched r reply with stop | ⟨response, _ | request⟩
      · exact FailsOnly.pure _
      · exact FailsOnly.pure _
      · cases follow
        · exact FailsOnly.pure _
        · exact ih request

theorem send_fails (c : Connection) (method path : String) (body : Option Value) :
    FailsOnly Failure.ToldOfRequest (Http.send c method path body) := by
  refine FailsOnly.bind (FailsOnly.ofEscape _) fun request => ?_
  refine FailsOnly.bind (exchange_fails _ _ request) fun answer => ?_
  rcases answer with (reason | e) | response
  · exact FailsOnly.fail (Failure.told_of_request rfl rfl)
  · exact FailsOnly.escape e
  · exact FailsOnly.pure response

theorem Credentials.build_fails {settings : Settings} {token : Option String} {f : Failure}
    (h : Credentials.build settings token = .error f) : f.ToldOfRequest := by
  unfold Credentials.build at h
  split at h
  · cases h
    exact Failure.told_of_request rfl rfl
  · dsimp only at h
    split at h
    · cases h
      exact Failure.told_of_request rfl rfl
    · cases h

theorem Connection.build_fails {settings : Settings} {token : Option String} {url : String}
    {f : Failure} (h : Connection.build settings token url = .error f) : f.ToldOfRequest := by
  unfold Connection.build at h
  cases hc : Credentials.build settings token with
  | error e =>
    simp only [hc, bind, Except.bind] at h
    cases h
    exact Credentials.build_fails hc
  | ok credentials =>
    simp only [hc, bind, Except.bind, pure, Except.pure] at h
    split at h
    · cases h
      exact Failure.told_of_request rfl rfl
    · split at h
      · cases h
      · cases h
        exact Failure.told_of_request rfl rfl

theorem Response.json_fails {r : Response} {f : Failure} (h : r.json = .error (.failure f)) :
    f.ToldOfRequest := by
  unfold Response.json at h
  split at h
  · cases h
  · split at h
    · cases h
    · cases h
      exact Failure.told_of_request rfl rfl

end Http

namespace Decoding

variable {codecs : Text.Charset.Codecs} {r : Response} {f : Failure}

theorem errorBody_ne_empty {body : String} (h : errorBody codecs r = .ok body) : body ≠ "" := by
  unfold errorBody at h
  split at h
  · cases h
    decide
  · rename_i text hne htext
    cases h
    exact hne
  · cases h
    decide
  · cases h
    decide
  · cases h

/-- A reason that an envelope gives is not empty. -/
theorem rejected_message_ne_empty (e : Envelope) :
    (Failure.rejected e.reason?).message ≠ "" := by
  unfold Failure.message
  cases hreason : e.reason? with
  | none => decide
  | some reason =>
    obtain ⟨error, -, hmessage⟩ := Option.bind_eq_some_iff.1 hreason
    have hne := (Option.filter_eq_some_iff.1 hmessage).2
    simpa using hne

theorem checkStatus_fails (h : checkStatus codecs r = .error (.failure f)) :
    f.ToldOfRequest := by
  unfold checkStatus at h
  split at h
  · cases h
  · split at h
    · rename_i body hbody
      cases h
      exact ⟨rfl, errorBody_ne_empty hbody⟩
    · cases h

theorem unwrap_fails {payload : Value} (h : Envelope.unwrap payload = .error f) :
    f.ToldOfRequest := by
  unfold Envelope.unwrap at h
  split at h
  · cases h
    exact Failure.told_of_request rfl rfl
  · split at h
    · cases h
    · cases h
      exact ⟨rfl, rejected_message_ne_empty _⟩

/-- Reading an answer by its status and its JSON fails of what is made of the JSON, or in
words of its own. -/
theorem answer_fails {α : Type} {decode : Value → Except Failure α}
    (hdecode : ∀ payload f, decode payload = .error f → f.ToldOfRequest)
    (h : (checkStatus codecs r >>= fun _ => r.json >>= fun payload =>
      (decode payload).mapError Stop.failure) = .error (.failure f)) : f.ToldOfRequest := by
  cases hs : checkStatus codecs r with
  | error stop =>
    rw [hs] at h
    cases h
    exact checkStatus_fails hs
  | ok u =>
    cases hj : r.json with
    | error stop =>
      rw [hs, hj] at h
      cases h
      exact Response.json_fails hj
    | ok payload =>
      simp only [hs, hj, bind, Except.bind] at h
      cases hd : decode payload with
      | error e =>
        rw [hd] at h
        cases h
        exact hdecode payload _ hd
      | ok a =>
        rw [hd] at h
        cases h

theorem envelope_fails (h : envelope codecs r = .error (.failure f)) : f.ToldOfRequest :=
  answer_fails (fun _ _ => unwrap_fails) h

end Decoding

namespace Lobby

theorem request_fails (c : Client) (token : Option String) (url method path : String)
    (body : Option Value) :
    FailsOnly Failure.ToldOfRequest (request c token url method path body) := by
  refine FailsOnly.bind (FailsOnly.ofFailure fun e he => ?_) fun connection => ?_
  · exact Connection.build_fails he
  · refine FailsOnly.bind (send_fails connection _ _ _) fun response => ?_
    exact FailsOnly.ofStop fun e he => Decoding.envelope_fails he

theorem createdTable_fails {data : Value} {f : Failure} (h : createdTable data = .error f) :
    f.ToldOfRequest := by
  unfold createdTable at h
  split at h
  · cases h
  · split at h
    · cases h
    · cases h
      exact Failure.told_of_request rfl rfl

theorem created_fails (c : Client) (token : Option String) (url : String) (config : TableConfig) :
    FailsOnly Failure.ToldOfRequest (do
      let data ← request c token url "POST" Endpoint.tables (some (config.dump .camel))
      Action.ofFailure (createdTable data)) := by
  refine FailsOnly.bind (request_fails c token url _ _ _) fun data => ?_
  exact FailsOnly.ofFailure fun e he => createdTable_fails he

end Lobby
end PokerClient
