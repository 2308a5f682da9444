import PokerClient.Identity.Token
import PokerClient.Json.Display
import PokerClient.User
import PokerClient.Rejection

/-!
# Claims

Who a token is about. Its subject may be any value and is shown as text; what
else it says of the user has to be text where it says something.
-/

namespace PokerClient
namespace Identity

open Json

/-- The first of two claims that counts as given, the second if neither does. -/
abbrev either (claims : Fields) (name other : String) : Value :=
  Rejection.firstTruthy claims name other

/-- A value as text; nothing given is the empty text. -/
def givenText? (v : Value) : Option String :=
  if v.isTruthy then
    match v with
    | .str s => some s
    | .torn points => some (textOfPoints points)
    | _ => none
  else some ""

/-- A value as text that may be missing. -/
def optionalText? : Value → Option (Option String)
  | .null => some none
  | .str s => some (some s)
  | .torn points => some (some (textOfPoints points))
  | _ => none

/-- The items of a list as they show; other values have none. -/
def shownItems : Value → List String
  | .list items => items.map Value.display
  | _ => []

/-- The user that claims are about. -/
def userOf? (claims : Fields) : Option User :=
  let subject := either claims "sub" "userId"
  if !subject.isTruthy then none
  else do
    let username ← givenText? (either claims "username" "preferred_username")
    let email ← givenText? ((claims.get? "email").getD .null)
    let displayName ← optionalText? ((claims.get? "name").getD .null)
    let playerId ← optionalText? ((claims.get? "playerId").getD .null)
    some { id := subject.display, username, email, displayName, playerId,
           roles := shownItems ((claims.get? "roles").getD .null) }

/-- The user that a token is about. -/
def user? (token : String) : Option User := (Token.ofText? token).bind fun t => userOf? t.claims

end Identity
end PokerClient
