import PokerClient.Outcome

/-!
# Stated outcomes

A failed outcome can be stated by hand: by the kind of its failure, by what is
said of the failure, and by further fields. What is said last is the message.
-/

namespace PokerClient

open Json

namespace FailureKind

/-- What has to be said of a failure, with what is said otherwise. -/
def asked : FailureKind → List (String × Option Value)
  | httpStatus => [("status_code", none), ("body", none)]
  | notAuthenticated => [("message", some (.str "Not authenticated"))]
  | _ => [("message", none)]

def factory : FailureKind → String
  | httpStatus => "HttpStatusError.__init__"
  | notAuthenticated => "NotAuthenticatedError.__init__"
  | _ => "ClientError.__init__"

/-- The message of a failure of which the given things are said. -/
def messageOf (kind : FailureKind) (said : List Value) : Except Escape Value :=
  let needed := kind.asked.filter fun a => a.2.isNone
  if kind.asked.length < said.length then
    .error (.excessArguments kind.factory (needed.length + 1) (kind.asked.length + 1)
      (said.length + 1))
  else
    match needed.drop said.length with
    | [] => .ok ((said.getLast?.or (kind.asked.getLast?.bind Prod.snd)).getD .null)
    | missing => .error (.missingArguments kind.factory (missing.map Prod.fst))

end FailureKind

/-- The kinds of outcomes. -/
inductive OutcomeKind where
  | plain
  | login
  | token
  | user
  | list
  | create
  | join
  deriving DecidableEq, Repr

namespace OutcomeKind

def factory : OutcomeKind → String
  | plain => "poker_shared.models.ClientResult"
  | login => "poker_shared.auth_models.LoginResult"
  | token => "poker_shared.auth_models.AuthTokenResult"
  | user => "poker_shared.auth_models.CurrentUserResult"
  | list => "poker_shared.table_models.TableListResult"
  | create => "poker_shared.table_models.TableResult"
  | join => "poker_shared.table_models.JoinTableResult"

/-- The fields of a failed outcome. Those that say how it failed are not given a
second time. -/
def failedFields (kind : OutcomeKind) (failure : FailureKind) (message : Value) (more : Fields) :
    Except Escape Fields :=
  let own : Fields :=
    [("success", .bool false), ("message", message), ("error_type", .str failure.code)]
  match more.find? fun f => ["cls", "error"].contains f.1, more.find? fun f => own.has f.1 with
  | some f, _ => .error (.repeatedArgument "ClientResult.failed" f.1)
  | none, some f => .error (.repeatedKeyword kind.factory f.1)
  | none, none => .ok (own ++ more)

end OutcomeKind
end PokerClient
