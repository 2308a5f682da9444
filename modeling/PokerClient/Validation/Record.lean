import PokerClient.Validation.Scalar

/-!
# Records

A record is read from an object field by field. A field may be looked for under
several names, of which the first that the object has counts, whatever its value.
Names that no field asks for are ignored.
-/

namespace PokerClient
namespace Validation

open Json Numeric

variable {α β : Type}

/-- The first of several names that an object has, with its value. -/
def firstOf (fields : Fields) : List String → Option (String × Value)
  | [] => none
  | name :: names =>
    match fields.get? name with
    | some v => some (name, v)
    | none => firstOf fields names

/-- A field that has to be given. -/
def required (fields : Fields) (names : List String) (read : Reading α) : Checked α :=
  match firstOf fields names with
  | some (name, v) => (read v).inside (.field name)
  | none => (Checked.fail .missing).inside (.field (names.headD ""))

/-- A field that has a value of its own when it is not given. -/
def optional (fields : Fields) (names : List String) (default : α) (read : Reading α) :
    Checked α :=
  match firstOf fields names with
  | some (name, v) => (read v).inside (.field name)
  | none => .valid default

/-- A record, read from the fields of an object. -/
def record (read : Fields → Checked α) : Reading α
  | .object fields => read fields
  | _ => .fail .notRecord

/-- A value that may be null. -/
def nullable (read : Reading α) : Reading (Option α)
  | .null => .valid none
  | v => (read v).map some

def listOf (read : Reading α) : Reading (List α)
  | .list items => Checked.items read 0 items
  | _ => .fail .notList

/-- Any value at all. -/
def anything : Reading Value := .valid

/-- A reading with a condition on what was read. -/
def such (read : Reading α) (kind : Kind) (ok : α → Bool) : Reading α := fun v =>
  (read v).andThen fun a => if ok a then .valid a else .fail kind

/-- An integer not below a bound. -/
def atLeast (low : Int) (read : Reading Int) : Reading Int :=
  such read .notGreaterOrEqual fun n => low ≤ n

/-- An integer not above a bound. -/
def atMost (high : Int) (read : Reading Int) : Reading Int :=
  such read .notLessOrEqual fun n => n ≤ high

def positive (read : Reading Binary64) : Reading Binary64 :=
  such read .notGreater fun x => Binary64.zero < x

def nonNegative (read : Reading Binary64) : Reading Binary64 :=
  such read .notGreaterOrEqual fun x => Binary64.zero ≤ x

/-- A text of which the count of characters lies between bounds. -/
def textBetween (low high : Nat) : Reading String :=
  such (such wholeText .textTooShort fun s => low ≤ s.length) .textTooLong fun s => s.length ≤ high

end Validation
end PokerClient
