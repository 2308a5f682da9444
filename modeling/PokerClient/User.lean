import PokerClient.Validation.FieldName

/-!
# Users

The player that a session belongs to. The name to show is accepted under three
names.
-/

namespace PokerClient

open Json Validation

structure User where
  id : String
  username : String
  email : String
  displayName : Option String
  playerId : Option String
  roles : List String
  deriving DecidableEq, Repr

namespace User

namespace Names

def id : FieldName := { plain := "id" }
def username : FieldName := { plain := "username" }
def email : FieldName := { plain := "email" }
def displayName : FieldName := { plain := "display_name", camel := "displayName" }
def playerId : FieldName := { plain := "player_id", camel := "playerId" }
def roles : FieldName := { plain := "roles" }

end Names

def ofFields (fields : Fields) : Checked User :=
  User.mk
    <$> required fields Names.id.accepted text
    <*> required fields Names.username.accepted text
    <*> optional fields Names.email.accepted "" text
    <*> optional fields (Names.displayName.accepted ++ ["name"]) none (nullable text)
    <*> optional fields Names.playerId.accepted none (nullable text)
    <*> optional fields Names.roles.accepted [] (listOf text)

def check : Reading User := record ofFields

def dump (naming : Naming) (u : User) : Value :=
  .object [(Names.id.under naming, .str u.id), (Names.username.under naming, .str u.username),
    (Names.email.under naming, .str u.email),
    (Names.displayName.under naming, orNull .str u.displayName),
    (Names.playerId.under naming, orNull .str u.playerId),
    (Names.roles.under naming, .list (u.roles.map .str))]

end User
end PokerClient
