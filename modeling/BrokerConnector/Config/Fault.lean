import BrokerConnector.Credentials
import BrokerConnector.Error

/-!
# What a configuration can lack

The causes for which no configuration is built, and the two rules that reads and writes share: how
a connection is found, and that a password needs a user.
-/

namespace BrokerConnector

/-- Why no configuration is built. -/
inductive ConfigurationFault where
  | noFactory
  | noReadDestination
  | twoReadDestinations
  | noWriteDestination
  | severalWriteDestinations
  | noMessageMapper
  | noValueMapper
  | noUsername
  | unboundedRead
  deriving DecidableEq, Inhabited

/-- The text of a fault. -/
def ConfigurationFault.reason : ConfigurationFault → String
  | noFactory => "a connection factory is required"
  | noReadDestination => "either a queue or a topic is required"
  | twoReadDestinations => "queue and topic are exclusive"
  | noWriteDestination => "either a topic name mapper, a queue, or a topic is required"
  | severalWriteDestinations => "only one of queue, topic, or topic name mapper must be set"
  | noMessageMapper => "a message mapper is required"
  | noValueMapper => "a value mapper is required"
  | noUsername => "password is set but username is missing"
  | unboundedRead => "a bounded read requires max_num_records or max_read_time"

/-- A fault as a connector reports it. -/
def ConfigurationFault.error (fault : ConfigurationFault) : ConnectorError :=
  .configuration fault.reason

/-- The way to a broker: which broker it is among those of the surroundings, and the name it is
shown by. -/
structure ConnectionFactory where
  site : Nat
  shown : String
  deriving DecidableEq, Inhabited

/-- The credentials of a user and a password that may be missing. -/
def Credentials.resolve (username password : Option String) :
    Except ConfigurationFault (Option Credentials) :=
  match username, password with
  | some username, password => .ok (some ⟨username, password⟩)
  | none, none => .ok none
  | none, some _ => .error .noUsername

end BrokerConnector
