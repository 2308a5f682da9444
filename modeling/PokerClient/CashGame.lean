import PokerClient.Failure
import PokerClient.TableConfig

/-!
# Cash games

A cash game lets a player buy in for 50 to 200 big blinds. The buy-ins are taken
from the big blind as it was given, before it is checked.
-/

namespace PokerClient

open Json Numeric Validation

namespace CashGame

def needed : List String := ["name", "small_blind", "big_blind"]

def accepted : List String := needed ++ ["max_players"]

/-- A value so many times over: a number is multiplied, text and lists are
repeated. -/
def times (n : Nat) : Value → Except Escape Value
  | .null => .error (.notMultipliable "NoneType")
  | .bool b => .ok (.int (if b then n else 0))
  | .int k => .ok (.int (k * n))
  | .float x => .ok (.float (x.mul (Binary64.ofNat n)))
  | .str s => .ok (.str (String.join (List.replicate n s)))
  | .torn points => .ok (.torn (List.replicate n points).flatten)
  | .list items => .ok (.list (List.replicate n items).flatten)
  | .object _ => .error (.notMultipliable "dict")

/-- The configuration of a cash game. -/
def config (arguments : Fields) : Except Escape (Checked TableConfig) :=
  match arguments.find? fun a => !accepted.contains a.1 with
  | some ("cls", _) => .error (.repeatedArgument "TableConfig.cash_game" "cls")
  | some a => .error (.unexpectedArgument "TableConfig.cash_game" a.1)
  | none =>
    match needed.filter fun name => !arguments.has name with
    | [] =>
      let bigBlind := (arguments.get? "big_blind").getD .null
      match times 50 bigBlind, times 200 bigBlind with
      | .ok least, .ok most =>
        .ok (TableConfig.ofFields ((Fields.put arguments "min_buy_in" least).put "max_buy_in" most))
      | .error e, _ => .error e
      | _, .error e => .error e
    | missing => .error (.missingArguments "TableConfig.cash_game" missing)

end CashGame
end PokerClient
