import PokerClient.Text.Blank
import PokerClient.Text.Octets

/-!
# Replies

What comes back from the network: a status, named values at the head, and octets
as they were sent.
-/

namespace PokerClient
namespace Http

open Text

/-- The named values at the head of an answer. -/
abbrev HeaderList := List (String × String)

/-- An answer as it comes from the network. -/
structure Reply where
  status : Int
  headers : HeaderList
  octets : List Octet

/-- A request is answered, or given up with the name of an error and a text. -/
inductive Answer where
  | reply (r : Reply)
  | gaveUp (name message : String)

/-- All values of a header, in any case of its name. -/
def headerValues (headers : HeaderList) (name : String) : List String :=
  (headers.filter fun h => lower h.1.toList == lower name.toList).map Prod.snd

/-- The value of a header; several values make one with commas between them. -/
def header? (headers : HeaderList) (name : String) : Option String :=
  match headerValues headers name with
  | [] => none
  | values => some (String.intercalate ", " values)

end Http
end PokerClient
