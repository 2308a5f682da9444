import PokerClient.Json.Parser

/-!
# Rejections

The backend's own words in the body of an error answer: a text under `error` or
under `message`, or a text under `message` in an object at one of these places.
-/

namespace PokerClient

open Json

namespace Rejection

/-- The first of two fields that counts as given; the second if neither does. -/
def firstTruthy (fields : Fields) (name other : String) : Value :=
  let v := (Fields.get? fields name).getD .null
  if v.isTruthy then v else (Fields.get? fields other).getD .null

/-- The words of a parsed body, if it has any. -/
def words? : Value → Option String
  | .object fields =>
    let detail := match firstTruthy fields "error" "message" with
      | .object inner => (Fields.get? inner "message").getD .null
      | v => v
    match detail with
    | .str s => if s = "" then none else some s
    | .torn points => some (textOfPoints points)
    | _ => none
  | _ => none

/-- The words of a body, or all of it if it has none. -/
def message (body : String) : String :=
  match parseText .lenient body.toList with
  | .ok v => (words? v).getD body
  | .error _ => body

end Rejection
end PokerClient
