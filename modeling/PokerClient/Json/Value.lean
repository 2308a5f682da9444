import PokerClient.Numeric.Binary64
import PokerClient.Text.Octets

/-!
# JSON values

Integers and floating point numbers are apart, as the text of a number says
which it is. A string is a text unless half of a surrogate pair stands in it. An
object keeps its fields in the order in which their names first came, and each
name once.
-/

namespace PokerClient
namespace Json

open Numeric Text

inductive Value where
  | null
  | bool (b : Bool)
  | int (n : Int)
  | float (x : Binary64)
  | str (s : String)
  /-- A string that is no text, by its code points. -/
  | torn (points : List Nat)
  | list (items : List Value)
  | object (fields : List (String × Value))

instance : Inhabited Value := ⟨.null⟩

/-- The fields of an object. -/
abbrev Fields := List (String × Value)

namespace Fields

/-- The value of a field. -/
def get? : Fields → String → Option Value
  | [], _ => none
  | (k, v) :: rest, name => if k = name then some v else get? rest name

/-- Gives a field a value. A new name goes to the end. -/
def put : Fields → String → Value → Fields
  | [], name, v => [(name, v)]
  | (k, w) :: rest, name, v => if k = name then (k, v) :: rest else (k, w) :: put rest name v

def has (fields : Fields) (name : String) : Bool := (fields.get? name).isSome

@[simp] theorem get?_nil (name : String) : get? [] name = none := rfl

theorem get?_put_other (fields : Fields) {name other : String} (v : Value) (h : other ≠ name) :
    (fields.put name v).get? other = fields.get? other := by
  induction fields with
  | nil => simp [put, get?, Ne.symm h]
  | cons f rest ih =>
    by_cases hf : f.1 = name
    · simp [put, get?, hf, Ne.symm h]
    · simp only [put, hf, if_false, get?, ih]

end Fields

/-- The text of code points, with replacement characters for those that are none of
a character. -/
def textOfPoints (ns : List Nat) : String :=
  String.ofList (ns.map fun n => if n.isValidChar then Char.ofNat n else replacement)

theorem textOfPoints_toNat (s : String) : textOfPoints (s.toList.map Char.toNat) = s := by
  have h (c : Char) : c.toNat.isValidChar := c.valid
  simp [textOfPoints, Function.comp_def, h]

theorem all_isValidChar (cs : List Char) : (cs.map Char.toNat).all Nat.isValidChar = true := by
  simp only [List.all_map, List.all_eq_true, Function.comp_apply, decide_eq_true_eq]
  intro c _
  exact c.valid

namespace Value

/-- The string of code points. -/
def ofPoints (ns : List Nat) : Value :=
  if ns.all Nat.isValidChar then .str (textOfPoints ns) else .torn ns

theorem ofPoints_toNat (s : String) : ofPoints (s.toList.map Char.toNat) = .str s := by
  rw [ofPoints, if_pos (all_isValidChar s.toList), textOfPoints_toNat]

/-- Whether a value counts as given: null, false, zero and everything empty do
not. -/
def isTruthy : Value → Bool
  | null => false
  | bool b => b
  | int n => n != 0
  | float x => !x.isZero
  | str s => s != ""
  | torn points => !points.isEmpty
  | list items => !items.isEmpty
  | object fields => !fields.isEmpty

/-- The value of a field of an object; other values have no fields. -/
def field? : Value → String → Option Value
  | object fields, name => Fields.get? fields name
  | _, _ => none

end Value
end Json
end PokerClient
