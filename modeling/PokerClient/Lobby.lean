import PokerClient.Decoding
import PokerClient.Endpoint
import PokerClient.Http.Exchange
import PokerClient.Json.Display
import PokerClient.Outcome
import PokerClient.Store
import PokerClient.TableConfig
import PokerClient.TableList

/-!
# The lobby

Listing, creating and joining tables. Only listing works without a credential;
the other operations fail before anything is sent.
-/

namespace PokerClient

open Http Json Validation

namespace Lobby

/-- The access token of a credential that has to be there. -/
def grantedToken : Option Credential → Action String
  | some credential => return credential.accessToken
  | none => .fail .loginRequired

/-- The access token of an operation that needs one. -/
def requiredToken (c : Client) (k : Conditions) : Action String := do
  grantedToken (← c.store.get k)

/-- The access token, if there is one. A store that fails counts as an empty one. -/
def tokenIfAny : Except Failure (Option Credential) → Action (Option String)
  | .ok credential => return credential.map Credential.accessToken
  | .error f => do
    Action.log .warning .lobby
      s!"Ignoring unreadable credential ({f.message}), continuing unauthenticated"
    return none

/-- The access token of an operation that can do without. -/
def optionalToken (c : Client) (k : Conditions) : Action (Option String) := do
  tokenIfAny (← (c.store.get k).attempt)

/-- The data that the backend answers a request with. -/
def request (c : Client) (token : Option String) (url method path : String)
    (body : Option Value) : Action Value := do
  let connection ← Action.ofFailure (Connection.build c.settings token url)
  let response ← Http.send connection method path body
  Action.ofStop (Decoding.envelope c.codecs response)

/-- What is reported of tables that were to be listed. -/
def reportTables : Except Failure (List Table) → Action ListOutcome
  | .error f => do
    Action.log .warning .lobby s!"Listing tables failed ({f.code}): {f.message}"
    return .failed f
  | .ok tables => return { success := true, message := s!"Found {tables.length} tables", tables }

/-- Lists the tables with a token or without. -/
def listWith (c : Client) (token : Option String) (url : String) : Action ListOutcome := do
  let tables := do
    let data ← request c token url "GET" Endpoint.tables none
    Action.ofFailure (TableList.ofData data)
  reportTables (← tables.attempt)

/-- The open tables. -/
def list (c : Client) (k : Conditions) (url : String) : Action ListOutcome := do
  listWith c (← optionalToken c k) url

/-- The table that the backend reports to have created, if it reports one. -/
def createdTable : Value → Except Failure (Option Table)
  | .null => .ok none
  | data =>
    match Table.check data with
    | .valid table => .ok (some table)
    | .invalid issues => .error (.notTable issues.length)

/-- What the log says of a table that could not be created. -/
def creationFailed (name : String) : Failure → String
  | .notTable issues => s!"Creating table '{name}' failed: {(Failure.notTable issues).message}"
  | f => s!"Creating table '{name}' failed ({f.code}): {f.message}"

/-- What is reported of a table that was to be created under a name. -/
def reportCreation (name : String) : Except Failure (Option Table) → Action CreateOutcome
  | .error f => do
    Action.log .warning .lobby (creationFailed name f)
    return .failed f
  | .ok none => return { success := true, message := "Table created" }
  | .ok (some table) => do
    Action.log .info .lobby s!"Created table '{table.name}' ({table.id})"
    return { success := true, message := s!"Created table '{table.name}'", table := some table }

/-- Creates a table with a token that is still to be had. -/
def createWith (c : Client) (token : Action String) (url : String) (config : TableConfig) :
    Action CreateOutcome := do
  let created := token >>= fun token => do
    let data ← request c (some token) url "POST" Endpoint.tables (some (config.dump .camel))
    Action.ofFailure (createdTable data)
  reportCreation config.name (← created.attempt)

/-- Creates a table. -/
def create (c : Client) (k : Conditions) (url : String) (config : TableConfig) :
    Action CreateOutcome :=
  createWith c (requiredToken c k) url config

/-- What a player brings to a table. -/
def joinBody (buyIn : Value) : Value := .object [("buyIn", buyIn)]

/-- What is reported of a seat that was to be taken. -/
def reportSeat (tableId : String) (buyIn : Value) : Except Failure Value → Action JoinOutcome
  | .error f => do
    Action.log .warning .lobby s!"Joining table {tableId} failed ({f.code}): {f.message}"
    return .failed f tableId
  | .ok data => do
    Action.log .info .lobby s!"Joined table {tableId} with buy-in {buyIn.display}"
    return { success := true, message := s!"Joined table {tableId}", tableId, data }

/-- Takes a seat with a token that is still to be had. -/
def joinWith (c : Client) (token : Action String) (url tableId : String) (buyIn : Value) :
    Action JoinOutcome := do
  let joined := token >>= fun token =>
    request c (some token) url "POST" (Endpoint.join tableId) (some (joinBody buyIn))
  reportSeat tableId buyIn (← joined.attempt)

/-- Takes a seat at a table. -/
def join (c : Client) (k : Conditions) (url tableId : String) (buyIn : Value) :
    Action JoinOutcome :=
  joinWith c (requiredToken c k) url tableId buyIn

end Lobby
end PokerClient
