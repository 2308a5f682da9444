import PokerClient.Text.Percent

/-!
# Endpoints

The paths of the backend, which are joined to the URL of a caller. The id of a
table is one segment of its path, whatever characters it has.
-/

namespace PokerClient

open Text

namespace Endpoint

def health : String := "/api/health"

def login : String := "/api/auth/login"

def tables : String := "/api/tables"

/-- The field of a login request that names the player. -/
def identifierField : String := "email"

/-- The segment of a table id. -/
def segment (tableId : String) : List Char := Percent.encode Percent.isUnreserved tableId.toList

/-- The path for taking a seat at a table. -/
def join (tableId : String) : String :=
  String.ofList (tables.toList ++ '/' :: segment tableId ++ "/join".toList)

end Endpoint
end PokerClient
