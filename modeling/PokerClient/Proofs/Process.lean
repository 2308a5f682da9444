import PokerClient.Session
import PokerClient.Proofs.Reading

/-!
# Operations step by step

An operation takes effect in several steps, and each access to the secret slot is one
of them. A process is an operation cut into such steps, between which others may have
their turn. On its own it does what the operation does.
-/

namespace PokerClient

open Http Json

/-- An operation that is under way: it has ended, or there is a step that it takes next
and that decides how it goes on. -/
inductive Process (α : Type) : Type 1 where
  | ended (result : Except Stop α)
  | step {β : Type} (x : Action β) (next : Except Stop β → Process α)

namespace Action

variable {α β : Type} {x y : Action α} {w w' : World} {t : Trail}

/-- What comes before an action comes before it and what follows it. -/
theorem bind_after (f : α → Action β) (h : x w = (y w').after t) :
    (x >>= f) w = ((y >>= f) w').after t := by
  have hresult : (x w).result = (y w').result := by rw [h]; rfl
  have hworld : (x w).world = (y w').world := by rw [h]; rfl
  have htrail : (x w).trail = t ++ (y w').trail := by rw [h]; rfl
  cases hr : (y w').result with
  | ok a =>
    rw [bind_eq_after f (hresult.trans hr), bind_eq_after f hr, hworld, htrail, Ran.after_after]
  | error stop =>
    rw [bind_of_error f (hresult.trans hr), bind_of_error f hr, hworld, htrail]
    rfl

theorem attempt_after (h : x w = (y w').after t) : x.attempt w = (y.attempt w').after t := by
  rw [attempt_eq, attempt_eq, h]
  rfl

end Action

namespace Process

variable {α β : Type}

/-- An action that is taken in one step. -/
def once (x : Action α) : Process α := .step x .ended

def bind (p : Process α) (f : α → Process β) : Process β :=
  match p with
  | .ended (.ok a) => f a
  | .ended (.error stop) => .ended (.error stop)
  | .step x next => .step x fun r => (next r).bind f

instance : Monad Process where
  pure a := .ended (.ok a)
  bind := bind

/-- A process with its failure as a value. -/
def attempt : Process α → Process (Except Failure α)
  | .ended result => .ended (Action.caught result)
  | .step x next => .step x fun r => (next r).attempt

/-- A process to which nothing happens in between. -/
def alone : Process α → Action α
  | .ended result => Action.ofStop result
  | .step x next => fun w => ((next (x w).result).alone (x w).world).after (x w).trail

@[simp] theorem alone_pure (a : α) : (Pure.pure a : Process α).alone = Pure.pure a := rfl

@[simp] theorem alone_once (x : Action α) : (once x).alone = x := by
  funext w
  have hended (r : Except Stop α) (w : World) :
      Action.ofStop r w = { result := r, world := w, trail := Trail.empty } := by
    rcases r with (f | e) | a <;> rfl
  show (Action.ofStop (x w).result (x w).world).after (x w).trail = x w
  rw [hended]
  exact congrArg (Ran.mk _ _) (Trail.append_empty _)

@[simp] theorem alone_bind (p : Process α) (f : α → Process β) :
    (p >>= f).alone = p.alone >>= fun a => (f a).alone := by
  funext w
  induction p generalizing w with
  | ended result =>
    rcases result with stop | a
    · rcases stop with f | e <;> rfl
    · exact congrFun (pure_bind a fun a => (f a).alone).symm w
  | step x next ih =>
    have hfirst : (Process.step x next).alone w =
        ((next (x w).result).alone (x w).world).after (x w).trail := rfl
    rw [Action.bind_after _ hfirst, ← ih]
    rfl

@[simp] theorem alone_map (g : α → β) (p : Process α) : (g <$> p).alone = g <$> p.alone := by
  rw [map_eq_pure_bind g p.alone]
  exact alone_bind p fun a => Pure.pure (g a)

@[simp] theorem alone_attempt (p : Process α) : p.attempt.alone = p.alone.attempt := by
  funext w
  induction p generalizing w with
  | ended result => rcases result with (f | e) | a <;> rfl
  | step x next ih =>
    have hfirst : (Process.step x next).alone w =
        ((next (x w).result).alone (x w).world).after (x w).trail := rfl
    rw [Action.attempt_after hfirst, ← ih]
    rfl

/-- The next step of a process. One that has ended stays as it is. -/
def advance (p : Process α) (w : World) : Process α × World :=
  match p with
  | .ended result => (.ended result, w)
  | .step x next => (next (x w).result, (x w).world)

/-- So many steps of a process in a row. -/
def steps (p : Process α) (n : Nat) (w : World) : Process α × World :=
  match n with
  | 0 => (p, w)
  | n + 1 => (p.advance w).1.steps n (p.advance w).2

/-- Undisturbed, a process comes to the end that it comes to alone. -/
theorem exists_steps_alone (p : Process α) (w : World) :
    ∃ n, p.steps n w = (.ended (p.alone w).result, (p.alone w).world) := by
  induction p generalizing w with
  | ended result => exact ⟨0, by rcases result with (f | e) | a <;> rfl⟩
  | step x next ih =>
    obtain ⟨n, hn⟩ := ih (x w).result (x w).world
    exact ⟨n + 1, hn⟩

end Process

/-- A read of the credential: first the slot is looked at, then what was found there is
dealt with. -/
def Store.getProcess (s : Store) (k : Conditions) : Process (Option Credential) := do
  match ← Process.once (s.read k.faults) with
  | none => return none
  | some blob => Process.once (s.settle k blob)

@[simp] theorem Store.alone_getProcess (s : Store) (k : Conditions) :
    (s.getProcess k).alone = s.get k := by
  unfold getProcess get
  rw [Process.alone_bind, Process.alone_once]
  refine congrArg (s.read k.faults >>= ·) (funext fun found => ?_)
  cases found with
  | none => rfl
  | some blob => exact Process.alone_once _

namespace Session

variable (c : Client) (k : Conditions) (url : String)

/-- A step of a session, cut where it accesses the slot. -/
def process : Command → Process Report
  | .login identifier password => .login <$> do
    let granted ← Process.attempt do
      let granted ← Process.once (Account.obtain c k.now url identifier password)
      Process.once (Account.keep c k granted)
    Process.once (Account.reportLogin granted)
  | .token => .token <$> do
    let found ← (c.store.getProcess k).attempt
    Process.once (Account.reportToken found)
  | .user => .user <$> do
    let found ← (c.store.getProcess k).attempt
    Process.once (Account.reportUser found)
  | .list => .list <$> do
    let found ← (c.store.getProcess k).attempt
    Process.once (Lobby.tokenIfAny found >>= fun token => Lobby.listWith c token url)
  | .create v => do
    let config ← Process.once (Action.ofEscape (configOf v))
    .create <$> do
      let found ← (c.store.getProcess k).attempt
      let token := Action.ofFailure found >>= Lobby.grantedToken
      Process.once (Lobby.createWith c token url config)
  | .join tableId buyIn => .join <$> do
    let found ← (c.store.getProcess k).attempt
    let token := Action.ofFailure found >>= Lobby.grantedToken
    Process.once (Lobby.joinWith c token url tableId buyIn)
  | .get => .credential <$> c.store.getProcess k
  | .set v => do
    let credential ← Process.once (Action.ofEscape (credentialOf v))
    Process.once (c.store.set k credential)
    return .done
  | command => Process.once (perform c k url command)

/-- Cut into steps or not, a step of a session does the same on its own. -/
theorem alone_process (command : Command) :
    (process c k url command).alone = perform c k url command := by
  cases command with
  | login identifier password =>
    simp [process, perform, Account.login, Account.establish]
  | token => simp [process, perform, Account.token]
  | user => simp [process, perform, Account.user]
  | list => simp [process, perform, Lobby.list_eq]
  | create v => simp [process, perform, Lobby.create_eq]
  | join tableId buyIn => simp [process, perform, Lobby.join_eq]
  | get => simp [process, perform]
  | set v => simp [process, perform]
  | _ => simp [process]

/-- A step of a session that takes its steps undisturbed. -/
theorem exists_steps_process (command : Command) (w : World) :
    ∃ n, (process c k url command).steps n w =
      (.ended (perform c k url command w).result, (perform c k url command w).world) := by
  rw [← alone_process]
  exact Process.exists_steps_alone _ w

end Session
end PokerClient
