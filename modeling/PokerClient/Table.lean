import PokerClient.Amount

/-!
# Tables

A live table as the backend reports it, with the blinds in force and, in some
reports, the settings it was created with.
-/

namespace PokerClient

open Json Numeric Validation

/-- The blinds in force at a table. -/
structure Blinds where
  small : Amount
  big : Amount

namespace Blinds

def smallName : FieldName := { plain := "small" }
def bigName : FieldName := { plain := "big" }

def none : Blinds := { small := .absent, big := .absent }

def ofFields (fields : Fields) : Checked Blinds :=
  Blinds.mk <$> Amount.read fields smallName <*> Amount.read fields bigName

def check : Reading Blinds := record ofFields

def dump (naming : Naming) (b : Blinds) : Value :=
  .object [(smallName.under naming, b.small.dump), (bigName.under naming, b.big.dump)]

end Blinds

/-- What a report of a table says about how it was created. -/
structure TableSettings where
  maxPlayers : Int
  smallBlind : Amount
  bigBlind : Amount

namespace TableSettings

def maxPlayersName : FieldName := { plain := "max_players", camel := "maxPlayers" }
def smallBlindName : FieldName := { plain := "small_blind", camel := "smallBlind" }
def bigBlindName : FieldName := { plain := "big_blind", camel := "bigBlind" }

def ofFields (fields : Fields) : Checked TableSettings :=
  TableSettings.mk
    <$> optional fields maxPlayersName.accepted 0 integer
    <*> Amount.read fields smallBlindName
    <*> Amount.read fields bigBlindName

def check : Reading TableSettings := record ofFields

def dump (naming : Naming) (s : TableSettings) : Value :=
  .object [(maxPlayersName.under naming, .int s.maxPlayers),
    (smallBlindName.under naming, s.smallBlind.dump), (bigBlindName.under naming, s.bigBlind.dump)]

end TableSettings

structure Table where
  id : String
  name : String
  playerCount : Int
  maxPlayers : Int
  gamePhase : String
  pot : Amount
  blinds : Blinds
  config : Option TableSettings

namespace Table

namespace Names

def id : FieldName := { plain := "id" }
def name : FieldName := { plain := "name" }
def playerCount : FieldName := { plain := "player_count", camel := "playerCount" }
def maxPlayers : FieldName := { plain := "max_players", camel := "maxPlayers" }
def gamePhase : FieldName := { plain := "game_phase", camel := "gamePhase" }
def pot : FieldName := { plain := "pot" }
def blinds : FieldName := { plain := "blinds" }
def config : FieldName := { plain := "config" }

end Names

def ofFields (fields : Fields) : Checked Table :=
  Table.mk
    <$> required fields Names.id.accepted text
    <*> optional fields Names.name.accepted "" text
    <*> optional fields Names.playerCount.accepted 0 integer
    <*> optional fields Names.maxPlayers.accepted 0 integer
    <*> optional fields Names.gamePhase.accepted "waiting" text
    <*> Amount.read fields Names.pot
    <*> optional fields Names.blinds.accepted Blinds.none Blinds.check
    <*> optional fields Names.config.accepted none (nullable TableSettings.check)

def check : Reading Table := record ofFields

def dump (naming : Naming) (t : Table) : Value :=
  .object [(Names.id.under naming, .str t.id), (Names.name.under naming, .str t.name),
    (Names.playerCount.under naming, .int t.playerCount),
    (Names.maxPlayers.under naming, .int t.maxPlayers),
    (Names.gamePhase.under naming, .str t.gamePhase), (Names.pot.under naming, t.pot.dump),
    (Names.blinds.under naming, t.blinds.dump naming),
    (Names.config.under naming, orNull (TableSettings.dump naming) t.config)]

end Table
end PokerClient
