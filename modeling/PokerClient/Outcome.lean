import PokerClient.Failure
import PokerClient.Login
import PokerClient.Table

/-!
# Outcomes

What the operations of a client report. A failed outcome names the kind of its
failure and keeps all else at its default; there is one way to fail for every
operation.
-/

namespace PokerClient

open Json Numeric Time Validation

/-- What every operation reports. -/
structure Outcome where
  success : Bool
  message : String := ""
  failure : Option String := none
  deriving DecidableEq, Repr

namespace Outcome

def failed (f : Failure) : Outcome :=
  { success := false, message := f.message, failure := some f.code }

def ofFields (fields : Fields) : Checked Outcome :=
  Outcome.mk
    <$> required fields ["success"] truth
    <*> optional fields ["message"] "" text
    <*> optional fields ["error_type"] none (nullable text)

def check : Reading Outcome := record ofFields

def dumpFields (o : Outcome) : Fields :=
  [("success", .bool o.success), ("message", .str o.message), ("error_type", orNull .str o.failure)]

def dump (o : Outcome) : Value := .object o.dumpFields

end Outcome

/-- The outcome of a login, with the time until which the credential is good. -/
structure LoginOutcome extends Outcome where
  user : Option User := none
  tokens : Option Tokens := none
  expiresAt : Option Moment := none
  deriving DecidableEq

namespace LoginOutcome

def failed (f : Failure) : LoginOutcome := { Outcome.failed f with }

def ofFields (fields : Fields) : Checked LoginOutcome :=
  LoginOutcome.mk
    <$> Outcome.ofFields fields
    <*> optional fields ["user"] none (nullable User.check)
    <*> optional fields ["tokens"] none (nullable Tokens.check)
    <*> optional fields ["expires_at"] none (nullable (moment true))

def check : Reading LoginOutcome := record ofFields

def dump (naming : Naming) (o : LoginOutcome) : Value :=
  .object (o.toOutcome.dumpFields ++ [("user", orNull (User.dump naming) o.user),
    ("tokens", orNull (Tokens.dump naming) o.tokens),
    ("expires_at", orNull (fun m => .str m.text) o.expiresAt)])

end LoginOutcome

/-- The outcome of asking for the access token; there is none when nobody is
logged in. -/
structure TokenOutcome extends Outcome where
  accessToken : Option String := none
  expiresAt : Option Moment := none
  deriving DecidableEq

namespace TokenOutcome

def failed (f : Failure) : TokenOutcome := { Outcome.failed f with }

def ofFields (fields : Fields) : Checked TokenOutcome :=
  TokenOutcome.mk
    <$> Outcome.ofFields fields
    <*> optional fields ["access_token"] none (nullable text)
    <*> optional fields ["expires_at"] none (nullable (moment true))

def check : Reading TokenOutcome := record ofFields

def dump (o : TokenOutcome) : Value :=
  .object (o.toOutcome.dumpFields ++ [("access_token", orNull .str o.accessToken),
    ("expires_at", orNull (fun m => .str m.text) o.expiresAt)])

end TokenOutcome

/-- The outcome of asking who is logged in. A user is reported only if the token
says who it is. -/
structure UserOutcome extends Outcome where
  authenticated : Bool := false
  identityKnown : Bool := false
  user : Option User := none
  deriving DecidableEq

namespace UserOutcome

def failed (f : Failure) : UserOutcome := { Outcome.failed f with }

def ofFields (fields : Fields) : Checked UserOutcome :=
  UserOutcome.mk
    <$> Outcome.ofFields fields
    <*> optional fields ["authenticated"] false truth
    <*> optional fields ["identity_known"] false truth
    <*> optional fields ["user"] none (nullable User.check)

def check : Reading UserOutcome := record ofFields

def dump (naming : Naming) (o : UserOutcome) : Value :=
  .object (o.toOutcome.dumpFields ++ [("authenticated", .bool o.authenticated),
    ("identity_known", .bool o.identityKnown), ("user", orNull (User.dump naming) o.user)])

end UserOutcome

/-- The outcome of listing the tables. -/
structure ListOutcome extends Outcome where
  tables : List Table := []

namespace ListOutcome

def failed (f : Failure) : ListOutcome := { Outcome.failed f with }

def ofFields (fields : Fields) : Checked ListOutcome :=
  ListOutcome.mk
    <$> Outcome.ofFields fields
    <*> optional fields ["tables"] [] (listOf Table.check)

def check : Reading ListOutcome := record ofFields

def dump (naming : Naming) (o : ListOutcome) : Value :=
  .object (o.toOutcome.dumpFields ++ [("tables", .list (o.tables.map (Table.dump naming)))])

end ListOutcome

/-- The outcome of creating a table. The backend need not report the table. -/
structure CreateOutcome extends Outcome where
  table : Option Table := none

namespace CreateOutcome

def failed (f : Failure) : CreateOutcome := { Outcome.failed f with }

def ofFields (fields : Fields) : Checked CreateOutcome :=
  CreateOutcome.mk
    <$> Outcome.ofFields fields
    <*> optional fields ["table"] none (nullable Table.check)

def check : Reading CreateOutcome := record ofFields

def dump (naming : Naming) (o : CreateOutcome) : Value :=
  .object (o.toOutcome.dumpFields ++ [("table", orNull (Table.dump naming) o.table)])

end CreateOutcome

/-- The outcome of joining a table; what the backend says is passed on. -/
structure JoinOutcome extends Outcome where
  tableId : String := ""
  data : Value := .null

namespace JoinOutcome

def failed (f : Failure) (tableId : String) : JoinOutcome := { Outcome.failed f with tableId }

def ofFields (fields : Fields) : Checked JoinOutcome :=
  JoinOutcome.mk
    <$> Outcome.ofFields fields
    <*> optional fields ["table_id"] "" text
    <*> optional fields ["data"] .null anything

def check : Reading JoinOutcome := record ofFields

def dump (o : JoinOutcome) : Value :=
  .object (o.toOutcome.dumpFields ++ [("table_id", .str o.tableId), ("data", o.data)])

end JoinOutcome

/-- Whether the backend can be reached, and how fast it answered. A backend that
cannot be reached is no failure. -/
structure ConnectionStatus where
  connected : Bool
  backendUrl : String
  latency : Option Binary64 := none
  deriving DecidableEq

namespace ConnectionStatus

def ofFields (fields : Fields) : Checked ConnectionStatus :=
  ConnectionStatus.mk
    <$> required fields ["connected"] truth
    <*> required fields ["backend_url"] text
    <*> optional fields ["latency_ms"] none (nullable number)

def check : Reading ConnectionStatus := record ofFields

def dump (s : ConnectionStatus) : Value :=
  .object [("connected", .bool s.connected), ("backend_url", .str s.backendUrl),
    ("latency_ms", orNull .float s.latency)]

end ConnectionStatus
end PokerClient
