import PokerClient.Validation.FieldName

/-!
# Amounts of chips

An amount that was given is a floating point number. One that was left out is
the integer zero, and is written as such.
-/

namespace PokerClient

open Json Numeric Validation

inductive Amount where
  | absent
  | given (x : Binary64)
  deriving DecidableEq

namespace Amount

/-- The number that an amount stands for. -/
def number : Amount → Binary64
  | absent => Binary64.zero
  | given x => x

def dump : Amount → Value
  | absent => .int 0
  | given x => .float x

/-- An amount that may be left out. -/
def read (fields : Fields) (name : FieldName) (reading : Reading Binary64 := Validation.number) :
    Checked Amount :=
  optional fields name.accepted .absent fun v => (reading v).map .given

end Amount
end PokerClient
