import BrokerConnector.Text.Debug

/-!
# Credentials

The user that opens a connection. The shown form of credentials tells whether there is a password
and nothing about it.
-/

namespace BrokerConnector

/-- A user with an optional password. -/
structure Credentials where
  username : String
  password : Option String := none
  deriving DecidableEq, Inhabited

/-- Credentials as a value that is shown, with the password masked. -/
def Credentials.debug (credentials : Credentials) : String :=
  Text.structureOf "Credentials"
    [("username", Text.quoted credentials.username),
     ("password", Text.optional (credentials.password.map fun _ => Text.quoted "***"))]

end BrokerConnector
