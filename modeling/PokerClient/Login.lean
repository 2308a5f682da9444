import PokerClient.User

/-!
# Login answers

What the backend sends for a login: the user and a pair of tokens, which are kept
as they are given. The expiry in the token block is a hint for display and nothing
depends on it.
-/

namespace PokerClient

open Json Validation

structure Tokens where
  accessToken : GivenText
  refreshToken : GivenText
  expiresAt : Option String
  deriving DecidableEq, Repr

namespace Tokens

def accessTokenName : FieldName := { plain := "access_token", camel := "accessToken" }
def refreshTokenName : FieldName := { plain := "refresh_token", camel := "refreshToken" }
def expiresAtName : FieldName := { plain := "expires_at", camel := "expiresAt" }

def ofFields (fields : Fields) : Checked Tokens :=
  Tokens.mk
    <$> required fields accessTokenName.accepted givenText
    <*> required fields refreshTokenName.accepted givenText
    <*> optional fields expiresAtName.accepted none (nullable text)

def check : Reading Tokens := record ofFields

def dump (naming : Naming) (t : Tokens) : Value :=
  .object [(accessTokenName.under naming, t.accessToken.dump),
    (refreshTokenName.under naming, t.refreshToken.dump),
    (expiresAtName.under naming, orNull .str t.expiresAt)]

end Tokens

structure Login where
  user : User
  tokens : Tokens
  message : String
  deriving DecidableEq, Repr

namespace Login

def userName : FieldName := { plain := "user" }
def tokensName : FieldName := { plain := "tokens" }
def messageName : FieldName := { plain := "message" }

def ofFields (fields : Fields) : Checked Login :=
  Login.mk
    <$> required fields userName.accepted User.check
    <*> required fields tokensName.accepted Tokens.check
    <*> optional fields messageName.accepted "" text

def check : Reading Login := record ofFields

def dump (naming : Naming) (l : Login) : Value :=
  .object [(userName.under naming, l.user.dump naming),
    (tokensName.under naming, l.tokens.dump naming), (messageName.under naming, .str l.message)]

end Login
end PokerClient
