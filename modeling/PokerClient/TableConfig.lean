import PokerClient.Amount

/-!
# Table configurations

What a player asks for when creating a table. The bounds between two fields are
checked once every field is valid by itself.
-/

namespace PokerClient

open Json Numeric Validation

structure TableConfig where
  name : String
  gameType : GivenText
  bettingStructure : GivenText
  gameFormat : GivenText
  maxPlayers : Int
  smallBlind : Binary64
  bigBlind : Binary64
  minBuyIn : Binary64
  maxBuyIn : Binary64
  ante : Amount
  timeBank : Int
  isPrivate : Bool
  deriving DecidableEq

namespace TableConfig

namespace Names

def name : FieldName := { plain := "name" }
def gameType : FieldName := { plain := "game_type", camel := "gameType" }
def bettingStructure : FieldName := { plain := "betting_structure", camel := "bettingStructure" }
def gameFormat : FieldName := { plain := "game_format", camel := "gameFormat" }
def maxPlayers : FieldName := { plain := "max_players", camel := "maxPlayers" }
def smallBlind : FieldName := { plain := "small_blind", camel := "smallBlind" }
def bigBlind : FieldName := { plain := "big_blind", camel := "bigBlind" }
def minBuyIn : FieldName := { plain := "min_buy_in", camel := "minBuyIn" }
def maxBuyIn : FieldName := { plain := "max_buy_in", camel := "maxBuyIn" }
def ante : FieldName := { plain := "ante" }
def timeBank : FieldName := { plain := "time_bank", camel := "timeBank" }
def isPrivate : FieldName := { plain := "is_private", camel := "isPrivate" }

end Names

/-- The fields, each by itself. -/
def readFields (fields : Fields) : Checked TableConfig :=
  TableConfig.mk
    <$> required fields Names.name.accepted (textBetween 1 50)
    <*> optional fields Names.gameType.accepted (.whole "texas_holdem") givenText
    <*> optional fields Names.bettingStructure.accepted (.whole "no_limit") givenText
    <*> optional fields Names.gameFormat.accepted (.whole "cash") givenText
    <*> optional fields Names.maxPlayers.accepted 9 (atMost 10 (atLeast 2 integer))
    <*> required fields Names.smallBlind.accepted (positive number)
    <*> required fields Names.bigBlind.accepted (positive number)
    <*> required fields Names.minBuyIn.accepted (positive number)
    <*> required fields Names.maxBuyIn.accepted (positive number)
    <*> Amount.read fields Names.ante (nonNegative number)
    <*> optional fields Names.timeBank.accepted 30 (atLeast 0 integer)
    <*> optional fields Names.isPrivate.accepted false truth

/-- The bounds between two fields. -/
def checkBounds (c : TableConfig) : Checked TableConfig :=
  if c.bigBlind < c.smallBlind then .fail (.rule "big_blind must be >= small_blind")
  else if c.maxBuyIn < c.minBuyIn then .fail (.rule "min_buy_in must be <= max_buy_in")
  else .valid c

def ofFields (fields : Fields) : Checked TableConfig := (readFields fields).andThen checkBounds

def check : Reading TableConfig := record ofFields

def dump (naming : Naming) (c : TableConfig) : Value :=
  .object [(Names.name.under naming, .str c.name),
    (Names.gameType.under naming, c.gameType.dump),
    (Names.bettingStructure.under naming, c.bettingStructure.dump),
    (Names.gameFormat.under naming, c.gameFormat.dump),
    (Names.maxPlayers.under naming, .int c.maxPlayers),
    (Names.smallBlind.under naming, .float c.smallBlind),
    (Names.bigBlind.under naming, .float c.bigBlind),
    (Names.minBuyIn.under naming, .float c.minBuyIn),
    (Names.maxBuyIn.under naming, .float c.maxBuyIn), (Names.ante.under naming, c.ante.dump),
    (Names.timeBank.under naming, .int c.timeBank),
    (Names.isPrivate.under naming, .bool c.isPrivate)]

end TableConfig
end PokerClient
