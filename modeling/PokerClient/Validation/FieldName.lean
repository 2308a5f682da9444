import PokerClient.Validation.Record

/-!
# Names of fields

Records that cross the network name their fields in camel case, all others with
low lines. On input either name is accepted, and the camel case one goes before.
-/

namespace PokerClient
namespace Validation

inductive Naming where
  | plain
  | camel
  deriving DecidableEq, Repr

structure FieldName where
  plain : String
  camel : String := plain
  deriving DecidableEq, Repr

namespace FieldName

/-- The name that a field is written under. -/
def under (n : FieldName) : Naming → String
  | .plain => n.plain
  | .camel => n.camel

/-- The names that a field is looked for under, in order. -/
def accepted (n : FieldName) : List String := [n.camel, n.plain]

end FieldName

/-- The value of what may be missing. -/
def orNull {α : Type} (dump : α → Json.Value) : Option α → Json.Value
  | some a => dump a
  | none => .null

end Validation
end PokerClient
