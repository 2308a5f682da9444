import PokerClient.Http.Request
import PokerClient.Http.Response

/-!
# Actions

An action is a step of a client against the world. The world is the secret slot
and the answers that the network has ready. An action leaves a trail of what it
sent, wrote to the log and asked of the secret store, also when it ends early.
-/

namespace PokerClient

open Http

inductive Level where
  | debug
  | info
  | warning
  | error
  deriving DecidableEq, Repr

/-- The parts of a client that write to the log. -/
inductive Area where
  | store
  | account
  | lobby
  | probe
  | verification
  deriving DecidableEq, Repr

structure LogEntry where
  level : Level
  area : Area
  message : String
  deriving DecidableEq, Repr

structure World where
  /-- The text in the secret slot. -/
  slot : Option String
  /-- What the network answers, in order. -/
  answers : List Answer
  /-- What the network answers when there is nothing left to answer. -/
  otherwise : Answer

structure Trail where
  requests : List Request := []
  entries : List LogEntry := []
  calls : List StoreRequest := []

namespace Trail

def empty : Trail := {}

def append (s t : Trail) : Trail :=
  { requests := s.requests ++ t.requests
    entries := s.entries ++ t.entries
    calls := s.calls ++ t.calls }

instance : Append Trail := ⟨append⟩

@[simp] theorem requests_append (s t : Trail) : (s ++ t).requests = s.requests ++ t.requests := rfl

@[simp] theorem entries_append (s t : Trail) : (s ++ t).entries = s.entries ++ t.entries := rfl

@[simp] theorem calls_append (s t : Trail) : (s ++ t).calls = s.calls ++ t.calls := rfl

@[simp] theorem append_empty (s : Trail) : s ++ empty = s := by
  show append s empty = s
  simp [append, empty]

@[simp] theorem empty_append (s : Trail) : empty ++ s = s := by
  show append empty s = s
  simp [append, empty]

theorem append_assoc (s t u : Trail) : s ++ t ++ u = s ++ (t ++ u) := by
  show append (append s t) u = append s (append t u)
  simp [append, List.append_assoc]

end Trail

/-- What came of an action. -/
structure Ran (α : Type) where
  result : Except Stop α
  world : World
  trail : Trail

def Action (α : Type) : Type := World → Ran α

namespace Action

variable {α β : Type}

def run (x : Action α) (w : World) : Ran α := x w

def pure (a : α) : Action α := fun w => { result := .ok a, world := w, trail := {} }

def bind (x : Action α) (f : α → Action β) : Action β := fun w =>
  let first := x w
  match first.result with
  | .ok a =>
    let second := f a first.world
    { result := second.result, world := second.world, trail := first.trail ++ second.trail }
  | .error stop => { result := .error stop, world := first.world, trail := first.trail }

instance : Monad Action where
  pure := pure
  bind := bind

theorem bind_of_ok {x : Action α} {w : World} {a : α} (f : α → Action β)
    (h : (x w).result = .ok a) :
    (x >>= f) w =
      { result := (f a (x w).world).result
        world := (f a (x w).world).world
        trail := (x w).trail ++ (f a (x w).world).trail } := by
  show bind x f w = _
  simp [bind, h]

theorem bind_of_error {x : Action α} {w : World} {stop : Stop} (f : α → Action β)
    (h : (x w).result = .error stop) :
    (x >>= f) w = { result := .error stop, world := (x w).world, trail := (x w).trail } := by
  show bind x f w = _
  simp [bind, h]

theorem pure_then (a : α) (f : α → Action β) : (Pure.pure a >>= f) = f a := by
  funext w
  rw [bind_of_ok (x := Pure.pure a) f rfl]
  show ({ result := _, world := _, trail := Trail.empty ++ (f a w).trail } : Ran β) = f a w
  rw [Trail.empty_append]
  rfl

theorem bind_then {γ : Type} (x : Action α) (f : α → Action β) (g : β → Action γ) :
    (x >>= f >>= g) = x >>= fun a => f a >>= g := by
  funext w
  show bind (bind x f) g w = bind x (fun a => bind (f a) g) w
  unfold bind
  cases hx : (x w).result with
  | error stop => simp [hx]
  | ok a =>
    cases hf : (f a (x w).world).result with
    | error stop => simp [hx, hf]
    | ok b => simp [hx, hf, Trail.append_assoc]

theorem map_identity (x : Action α) : id <$> x = x := by
  funext w
  show bind x (fun a => pure (id a)) w = x w
  unfold bind
  generalize x w = ran
  obtain ⟨result, world, trail⟩ := ran
  cases result with
  | error stop => rfl
  | ok a => exact congrArg (Ran.mk (.ok a) world) (Trail.append_empty trail)

instance : LawfulMonad Action := LawfulMonad.mk' Action map_identity pure_then bind_then

/-- Ends with a failure. -/
def fail (f : Failure) : Action α := fun w =>
  { result := .error (.failure f), world := w, trail := {} }

/-- Ends with an escape. -/
def escape (e : Escape) : Action α := fun w =>
  { result := .error (.escape e), world := w, trail := {} }

def ofStop : Except Stop α → Action α
  | .ok a => pure a
  | .error (.failure f) => fail f
  | .error (.escape e) => escape e

def ofFailure : Except Failure α → Action α
  | .ok a => pure a
  | .error f => fail f

def ofEscape : Except Escape α → Action α
  | .ok a => pure a
  | .error e => escape e

/-- An action with its failure as a value. An escape stays one. -/
def attempt (x : Action α) : Action (Except Failure α) := fun w =>
  let r := x w
  match r.result with
  | .ok a => { result := .ok (.ok a), world := r.world, trail := r.trail }
  | .error (.failure f) => { result := .ok (.error f), world := r.world, trail := r.trail }
  | .error (.escape e) => { result := .error (.escape e), world := r.world, trail := r.trail }

def log (level : Level) (area : Area) (message : String) : Action Unit := fun w =>
  { result := .ok (), world := w, trail := { entries := [{ level, area, message }] } }

/-- The text in the secret slot. -/
def look : Action (Option String) := fun w => { result := .ok w.slot, world := w, trail := {} }

/-- Gives the secret slot another content. -/
def store (slot : Option String) : Action Unit := fun w =>
  { result := .ok (), world := { w with slot }, trail := {} }

/-- Notes a call of the secret store. -/
def noteCall (call : StoreRequest) : Action Unit := fun w =>
  { result := .ok (), world := w, trail := { calls := [call] } }

/-- Sends a request and takes the next answer. -/
def send (r : Request) : Action Answer := fun w =>
  match w.answers with
  | [] => { result := .ok w.otherwise, world := w, trail := { requests := [r] } }
  | a :: rest =>
    { result := .ok a, world := { w with answers := rest }, trail := { requests := [r] } }

end Action
end PokerClient
