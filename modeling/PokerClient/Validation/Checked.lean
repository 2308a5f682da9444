import PokerClient.Validation.Issue

/-!
# Checked values

The outcome of checking a value: what it stands for, or everything that is wrong
with it. Checks are combined side by side, so that the issues of all of them are
kept in order.
-/

namespace PokerClient
namespace Validation

inductive Checked (α : Type) where
  | valid (a : α)
  | invalid (issues : List Issue)

namespace Checked

variable {α β : Type}

/-- A single issue with the whole value. -/
def fail (kind : Kind) : Checked α := .invalid [{ path := [], kind }]

def map (f : α → β) : Checked α → Checked β
  | .valid a => .valid (f a)
  | .invalid issues => .invalid issues

/-- Two checks side by side. -/
def both (f : Checked (α → β)) (c : Checked α) : Checked β :=
  match f, c with
  | .valid f, .valid a => .valid (f a)
  | .valid _, .invalid issues => .invalid issues
  | .invalid issues, .valid _ => .invalid issues
  | .invalid issues, .invalid more => .invalid (issues ++ more)

instance : Functor Checked where
  map := map

instance : Applicative Checked where
  pure := .valid
  seq f c := both f (c ())

/-- A check of what an earlier check found, made only if that was valid. -/
def andThen (c : Checked α) (next : α → Checked β) : Checked β :=
  match c with
  | .valid a => next a
  | .invalid issues => .invalid issues

/-- A check inside a container. -/
def inside (step : Step) : Checked α → Checked α
  | .valid a => .valid a
  | .invalid issues => .invalid (issues.map (Issue.inside step))

/-- The value of a check without issues. -/
def value? : Checked α → Option α
  | .valid a => some a
  | .invalid _ => none

def issues : Checked α → List Issue
  | .valid _ => []
  | .invalid issues => issues

@[simp] theorem map_valid (f : α → β) (a : α) : (valid a).map f = .valid (f a) := rfl

@[simp] theorem andThen_valid (a : α) (next : α → Checked β) :
    (valid a).andThen next = next a := rfl

@[simp] theorem inside_valid (step : Step) (a : α) : (valid a).inside step = .valid a := rfl

theorem both_eq_valid_iff (f : Checked (α → β)) (c : Checked α) (b : β) :
    both f c = .valid b ↔ ∃ g a, f = .valid g ∧ c = .valid a ∧ g a = b := by
  cases f <;> cases c <;> simp [both]

/-- Checks one item after the other; the first has the place `index`. -/
def items (check : β → Checked α) : Nat → List β → Checked (List α)
  | _, [] => .valid []
  | index, v :: rest =>
    both (((check v).inside (.item index)).map List.cons) (items check (index + 1) rest)

end Checked
end Validation
end PokerClient
