import PokerClient.Failure
import PokerClient.Table

/-!
# Lists of tables

The backend sends the open tables as a list, bare or in an object, or sends
nothing when there are none. One bad entry makes the whole list bad.
-/

namespace PokerClient

open Json Validation

namespace TableList

/-- The value that has to be the list. -/
def entries : Value → Value
  | .null => .list []
  | .object fields => (Fields.get? fields "tables").getD (.list [])
  | v => v

def ofData (data : Value) : Except Failure (List Table) :=
  match listOf Table.check (entries data) with
  | .valid tables => .ok tables
  | .invalid issues => .error (.notTables issues.length)

end TableList
end PokerClient
