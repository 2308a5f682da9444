/-!
# Issues

What is wrong with a value that was to be a record, and where: the path names
the fields and the places in lists that lead to it.
-/

namespace PokerClient
namespace Validation

/-- A step of a path into a value. -/
inductive Step where
  | field (name : String)
  | item (index : Nat)
  deriving DecidableEq, Repr

inductive Kind where
  | missing
  | notRecord
  | notList
  | notText
  | tornText
  | textTooShort
  | textTooLong
  | notInteger
  | unreadableInteger
  | fractionalInteger
  | hugeInteger
  | notFinite
  | notNumber
  | unreadableNumber
  | notBoolean
  | unreadableBoolean
  | notMoment
  | unreadableMoment
  | momentOutOfRange
  | notGreater
  | notGreaterOrEqual
  | notLessOrEqual
  | notJson
  | rule (text : String)
  deriving DecidableEq, Repr

/-- The word that names a kind of issue. -/
def Kind.code : Kind → String
  | missing => "missing"
  | notRecord => "model_type"
  | notList => "list_type"
  | notText => "string_type"
  | tornText => "string_unicode"
  | textTooShort => "string_too_short"
  | textTooLong => "string_too_long"
  | notInteger => "int_type"
  | unreadableInteger => "int_parsing"
  | fractionalInteger => "int_from_float"
  | hugeInteger => "int_parsing_size"
  | notFinite => "finite_number"
  | notNumber => "float_type"
  | unreadableNumber => "float_parsing"
  | notBoolean => "bool_type"
  | unreadableBoolean => "bool_parsing"
  | notMoment => "datetime_type"
  | unreadableMoment => "datetime_from_date_parsing"
  | momentOutOfRange => "datetime_parsing"
  | notGreater => "greater_than"
  | notGreaterOrEqual => "greater_than_equal"
  | notLessOrEqual => "less_than_equal"
  | notJson => "json_invalid"
  | rule _ => "value_error"

/-- What an issue says beyond its kind. -/
def Kind.detail? : Kind → Option String
  | rule text => some s!"Value error, {text}"
  | _ => none

structure Issue where
  path : List Step
  kind : Kind
  deriving DecidableEq, Repr

/-- An issue of a value seen from the container the value stands in. -/
def Issue.inside (step : Step) (i : Issue) : Issue := { i with path := step :: i.path }

end Validation
end PokerClient
