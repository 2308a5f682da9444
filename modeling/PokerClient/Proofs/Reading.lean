import PokerClient.Account
import PokerClient.Proofs.Failing
import PokerClient.Proofs.StoreAccess

/-!
# Operations that read the credential

An operation that needs to know the credential reads it first and goes on with what
the read came to, be it a failure. Only an escape ends the operation there and then.
-/

namespace PokerClient

open Http Json

namespace Action

variable {α β : Type} {x : Action α} {f : Except Failure α → Action β} {w : World}

/-- A failure may as well be taken up after an attempt as before it. -/
theorem attempt_bind (x : Action α) (f : α → Action β) :
    (x >>= f).attempt = x.attempt >>= fun r => (ofFailure r >>= f).attempt := by
  funext w
  rcases hr : (x w).result with (e | e) | a
  · have hattempt : (x.attempt w).result = .ok (.error e) := by rw [attempt_eq, hr]; rfl
    rw [attempt_eq, bind_of_error f hr, bind_eq_after _ hattempt, attempt_eq x]
    exact congrArg (Ran.mk _ _) (Trail.append_empty _).symm
  · have hattempt : (x.attempt w).result = .error (.escape e) := by rw [attempt_eq, hr]; rfl
    rw [attempt_eq, bind_of_error f hr, bind_of_error _ hattempt, attempt_eq x]
    rfl
  · have hattempt : (x.attempt w).result = .ok (.ok a) := by rw [attempt_eq, hr]; rfl
    have hpure : (ofFailure (.ok a) >>= f) = f a := pure_bind a f
    rw [attempt_eq, bind_eq_after f hr, bind_eq_after _ hattempt, hpure, attempt_eq x,
      attempt_eq (f a)]
    rfl

theorem attempted_of_ok {a : α} (h : (x w).result = .ok a) :
    ((x.attempt >>= f) w).result = (f (.ok a) (x w).world).result := by
  rw [bind_result, attempt_eq, h]
  rfl

theorem attempted_of_failure {e : Failure} (h : (x w).result = .error (.failure e)) :
    ((x.attempt >>= f) w).result = (f (.error e) (x w).world).result := by
  rw [bind_result, attempt_eq, h]
  rfl

theorem attempted_of_escape {e : Escape} (h : (x w).result = .error (.escape e)) :
    ((x.attempt >>= f) w).result = .error (.escape e) := by
  rw [bind_result, attempt_eq, h]
  rfl

/-- What goes on after an attempt did not escape in it. -/
theorem attempted_no_escape {b : β} (h : ((x.attempt >>= f) w).result = .ok b) (e : Escape) :
    (x w).result ≠ .error (.escape e) := by
  intro he
  rw [attempted_of_escape he] at h
  cases h

/-- What an attempt is reported as has a property, if that holds of every success and of
every failure that there can be. -/
theorem attempted_reports {P : Failure → Prop} {Q : β → Prop} (hx : FailsOnly P x)
    (hok : ∀ a w o, (f (.ok a) w).result = .ok o → Q o)
    (herror : ∀ e w o, P e → (f (.error e) w).result = .ok o → Q o) {o : β}
    (h : ((x.attempt >>= f) w).result = .ok o) : Q o := by
  rcases hr : (x w).result with (e | e) | a
  · rw [attempted_of_failure hr] at h
    exact herror e _ o (hx w e hr) h
  · rw [attempted_of_escape hr] at h
    cases h
  · rw [attempted_of_ok hr] at h
    exact hok a _ o h

end Action

/-- An outcome reports success or a failure that has a property. -/
def Outcome.FailsOnlyOf (P : Failure → Prop) (o : Outcome) : Prop :=
  o.success = true ∨ ∃ f, P f ∧ o = Outcome.failed f

namespace Lobby

variable (c : Client) (k : Conditions) (url : String)

theorem list_eq :
    list c k url = (c.store.get k).attempt >>= fun found =>
      tokenIfAny found >>= fun token => listWith c token url := by
  unfold list optionalToken
  rw [bind_assoc]

theorem create_eq (config : TableConfig) :
    create c k url config = (c.store.get k).attempt >>= fun found =>
      createWith c (Action.ofFailure found >>= grantedToken) url config := by
  unfold create createWith requiredToken
  dsimp only
  rw [bind_assoc, Action.attempt_bind, bind_assoc]
  simp only [bind_assoc]

theorem join_eq (tableId : String) (buyIn : Value) :
    join c k url tableId buyIn = (c.store.get k).attempt >>= fun found =>
      joinWith c (Action.ofFailure found >>= grantedToken) url tableId buyIn := by
  unfold join joinWith requiredToken
  dsimp only
  rw [bind_assoc, Action.attempt_bind, bind_assoc]
  simp only [bind_assoc]

variable {c url}

theorem createWith_fail (f : Failure) (config : TableConfig) :
    createWith c (.fail f) url config = reportCreation config.name (.error f) := by
  unfold createWith
  exact pure_bind _ _

theorem joinWith_fail (f : Failure) (tableId : String) (buyIn : Value) :
    joinWith c (.fail f) url tableId buyIn = reportSeat tableId buyIn (.error f) := by
  unfold joinWith
  exact pure_bind _ _

/-- With a token at hand, creating a table succeeds or fails of the request. -/
theorem createWith_reports {token : String} {config : TableConfig} {w : World} {o : CreateOutcome}
    (h : (createWith c (pure token) url config w).result = .ok o) :
    o.toOutcome.FailsOnlyOf Failure.OfRequest := by
  unfold createWith at h
  rw [pure_bind] at h
  refine Action.attempted_reports (P := Failure.OfRequest)
    (Q := fun o => o.toOutcome.FailsOnlyOf Failure.OfRequest) ?_ ?_ ?_ h
  · refine FailsOnly.mono (P := Failure.ToldOfRequest) ?_ fun e he => he.1
    exact created_fails c _ url config
  · intro table w o ho
    cases table <;> cases ho <;> exact Or.inl rfl
  · intro e w o he ho
    cases ho
    exact Or.inr ⟨e, he, rfl⟩

/-- With a token at hand, joining a table succeeds or fails of the request. -/
theorem joinWith_reports {token tableId : String} {buyIn : Value} {w : World} {o : JoinOutcome}
    (h : (joinWith c (pure token) url tableId buyIn w).result = .ok o) :
    o.toOutcome.FailsOnlyOf Failure.OfRequest := by
  unfold joinWith at h
  rw [pure_bind] at h
  refine Action.attempted_reports (P := Failure.OfRequest)
    (Q := fun o => o.toOutcome.FailsOnlyOf Failure.OfRequest) ?_ ?_ ?_ h
  · exact FailsOnly.mono (request_fails c _ url _ _ _) fun e he => he.1
  · intro data w o ho
    cases ho
    exact Or.inl rfl
  · intro e w o he ho
    cases ho
    exact Or.inr ⟨e, he, rfl⟩

end Lobby
end PokerClient
