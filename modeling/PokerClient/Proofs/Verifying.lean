import Mathlib.Data.List.Forall2
import PokerClient.Verification
import PokerClient.Proofs.Addressing
import PokerClient.Proofs.Asking
import PokerClient.Proofs.Degrading
import PokerClient.Proofs.SlotFrame

/-!
# Verifications that tell the truth

A verification is a course of checks. Each check asks the backend once, and the first one
that does not pass ends the course. So the requests that are sent are those of the checks
up to there, and the verdict is that of all checks together.
-/

namespace PokerClient

open Http Json Text Time

namespace Verification

/-- What a check asks the backend, and the responses that pass it. -/
structure Check where
  call : Call
  Passes : Response → Prop

/-- The backend is healthy. -/
def healthCheck : Check where
  call := ⟨"GET", Endpoint.health, none⟩
  Passes response := 200 ≤ response.status ∧ response.status ≤ 299

/-- The backend lists its tables. -/
def lobbyCheck (codecs : Charset.Codecs) : Check where
  call := ⟨"GET", Endpoint.tables, none⟩
  Passes response := ∃ data tables, Decoding.envelope codecs response = .ok data ∧
    TableList.ofData data = .ok tables

/-- The backend lets somebody in. -/
def loginCheck (codecs : Charset.Codecs) (email password : String) : Check where
  call := ⟨"POST", Endpoint.login, some (Account.loginBody email password)⟩
  Passes response := ∃ login, Decoding.login codecs response = .ok login

variable {settings : Settings} {url : String} {w : World}

/-- A check is passed by what the network answers to its request. -/
def Check.PassedBy (check : Check) (settings : Settings) (url : String) (a : Answer) : Prop :=
  ∃ response, check.call.Obtains settings url a response ∧ check.Passes response

/-! ## Courses of checks -/

/-- The requests that a course of checks sends, and whether all checks pass. -/
inductive Course (settings : Settings) (url : String) :
    List Check → World → List Request → Bool → Prop
  | done {w : World} : Course settings url [] w [] true
  | refused {check : Check} {rest : List Check} {w : World} {f : Failure}
      (hc : Connection.build settings none url = .error f) :
      Course settings url (check :: rest) w [] false
  | failed {check : Check} {rest : List Check} {w : World} {r : Request}
      (hr : prepared? settings none url check.call = some r)
      (hfails : ¬ check.PassedBy settings url w.nextAnswer) :
      Course settings url (check :: rest) w [r] false
  | passed {check : Check} {rest : List Check} {w : World} {r : Request}
      {requests : List Request} {ok : Bool}
      (hr : prepared? settings none url check.call = some r)
      (hpasses : check.PassedBy settings url w.nextAnswer)
      (hrest : Course settings url rest w.taken requests ok) :
      Course settings url (check :: rest) w (r :: requests) ok

/-- The requests of checks that are due, up to the first check that fails. -/
structure UpToFailure (settings : Settings) (url : String) (w : World) (due : List Check)
    (requests : List Request) : Prop where
  /-- The requests are those of the first checks, in order. -/
  made : List.Forall₂ (fun check r => prepared? settings none url check.call = some r)
    (due.take requests.length) requests
  /-- Every check before the last request passed. -/
  passed : ∀ (i : Nat) (check : Check), due[i]? = some check → i + 1 < requests.length →
    check.PassedBy settings url (w.answerAt i)
  /-- If there are checks left, the last one failed, or there is no connection at all. -/
  ended : requests.length < due.length →
    (requests = [] ∧ ∃ f, Connection.build settings none url = .error f) ∨
      ∃ i check, requests.length = i + 1 ∧ due[i]? = some check ∧
        ¬ check.PassedBy settings url (w.answerAt i)

namespace Course

variable {due : List Check} {requests : List Request} {ok : Bool}

theorem upToFailure (h : Course settings url due w requests ok) :
    UpToFailure settings url w due requests := by
  induction h with
  | done => exact ⟨.nil, by simp, by simp⟩
  | refused hc => exact ⟨.nil, by simp, fun _ => Or.inl ⟨rfl, _, hc⟩⟩
  | @failed check rest w r hr hfails =>
    refine ⟨.cons hr .nil, fun i check _ hlt => ?_, fun _ => Or.inr ⟨0, check, rfl, rfl, ?_⟩⟩
    · simp at hlt
    · rw [World.answerAt_zero]
      exact hfails
  | @passed check rest w r requests ok hr hpasses hrest ih =>
    refine ⟨.cons hr ih.made, ?_, fun hlt => ?_⟩
    · intro i check' hcheck hlt
      cases i with
      | zero =>
        cases hcheck
        rw [World.answerAt_zero]
        exact hpasses
      | succ i =>
        rw [← World.answerAt_taken]
        exact ih.passed i check' hcheck (Nat.lt_of_succ_lt_succ hlt)
    · rcases ih.ended (Nat.lt_of_succ_lt_succ hlt) with ⟨-, f, hf⟩ | ⟨i, check', hi, hcheck, hfails⟩
      · -- The request that was made came of a connection.
        obtain ⟨c, hc, -⟩ := prepared?_eq_some.1 hr
        cases hf.symm.trans hc
      · refine Or.inr ⟨i + 1, check', congrArg (· + 1) hi, hcheck, ?_⟩
        rw [← World.answerAt_taken]
        exact hfails

/-- The verdict is that of all checks. -/
theorem verdict (h : Course settings url due w requests ok) :
    ok = true ↔ ∀ (i : Nat) (check : Check), due[i]? = some check →
      check.PassedBy settings url (w.answerAt i) := by
  induction h with
  | done => simp
  | @refused check rest w f hc =>
    refine ⟨nofun, fun hall => ?_⟩
    obtain ⟨response, ⟨r, -, hr, -⟩, -⟩ := hall 0 check rfl
    obtain ⟨c, hc', -⟩ := prepared?_eq_some.1 hr
    cases hc.symm.trans hc'
  | @failed check rest w r hr hfails =>
    refine ⟨nofun, fun hall => absurd ?_ hfails⟩
    rw [← World.answerAt_zero]
    exact hall 0 check rfl
  | @passed check rest w r requests ok hr hpasses hrest ih =>
    rw [ih]
    constructor
    · intro hall i check' hcheck
      cases i with
      | zero =>
        cases hcheck
        rw [World.answerAt_zero]
        exact hpasses
      | succ i =>
        rw [← World.answerAt_taken]
        exact hall i check' hcheck
    · intro hall i check' hcheck
      rw [World.answerAt_taken]
      exact hall (i + 1) check' hcheck

end Course

/-! ## Actions that follow a course -/

/-- What a check comes to: there is no connection, or its request is sent and the verdict is
that of the answer. -/
inductive Comes (settings : Settings) (url : String) (check : Check) (w : World)
    (ran : Ran Bool) (ok : Bool) : Prop
  | refused {f : Failure} (hc : Connection.build settings none url = .error f)
      (hok : ok = false) (hrequests : ran.trail.requests = [])
  | asked {r : Request} (hr : prepared? settings none url check.call = some r)
      (hok : ok = true ↔ check.PassedBy settings url w.nextAnswer)
      (hrequests : ran.trail.requests = [r])

/-- An action that ends with a verdict follows a course of checks. The verdict may depend on
more than the checks. -/
def Follows (settings : Settings) (url : String) (extra : Prop) (due : List Check)
    (x : Action Bool) (w : World) : Prop :=
  ∀ ok, (x w).result = .ok ok → ∃ passed,
    Course settings url due w (x w).trail.requests passed ∧ (ok = true ↔ passed = true ∧ extra)

variable {check : Check} {due : List Check} {extra : Prop} {x y : Action Bool}

/-- A check that is followed by others only if it passes. -/
theorem Follows.next (hx : ∀ ok, (x w).result = .ok ok → Comes settings url check w (x w) ok)
    (hworld : (x w).result = .ok true → (x w).world = w.taken)
    (hy : Follows settings url extra due y w.taken) :
    Follows settings url extra (check :: due)
      (x >>= fun ok => if !ok then pure false else y) w := by
  intro ok hok
  obtain ⟨first, hfirst, hrest⟩ := Action.bind_eq_ok hok
  rw [Action.bind_of_ok _ hfirst]
  cases first with
  | false =>
    cases hrest
    cases hx false hfirst with
    | refused hc _ hrequests =>
      refine ⟨false, ?_, by simp⟩
      show Course settings url _ w ((x w).trail.requests ++ []) false
      rw [hrequests]
      exact .refused hc
    | asked hr hok hrequests =>
      refine ⟨false, ?_, by simp⟩
      show Course settings url _ w ((x w).trail.requests ++ []) false
      rw [hrequests]
      exact .failed hr fun hpasses => Bool.false_ne_true (hok.2 hpasses)
  | true =>
    have htaken := hworld hfirst
    rw [htaken] at hrest
    obtain ⟨passed, hcourse, hverdict⟩ := hy ok hrest
    cases hx true hfirst with
    | refused _ hfalse => cases hfalse
    | asked hr hok hrequests =>
      refine ⟨passed, ?_, hverdict⟩
      show Course settings url _ w ((x w).trail.requests ++ (y (x w).world).trail.requests) passed
      rw [hrequests, htaken]
      exact .passed hr (hok.1 rfl) hcourse

/-- A check that nothing follows. -/
theorem Follows.last (hx : ∀ ok, (x w).result = .ok ok → Comes settings url check w (x w) ok)
    (hextra : extra) : Follows settings url extra [check] x w := by
  intro ok hok
  cases hx ok hok with
  | refused hc hfalse hrequests =>
    subst hfalse
    refine ⟨false, ?_, by simp⟩
    rw [hrequests]
    exact .refused hc
  | asked hr hverdict hrequests =>
    refine ⟨ok, ?_, by simp [hextra]⟩
    rw [hrequests]
    cases ok with
    | false => exact .failed hr fun hpasses => Bool.false_ne_true (hverdict.2 hpasses)
    | true => exact .passed hr (hverdict.1 rfl) .done

end Verification
end PokerClient
