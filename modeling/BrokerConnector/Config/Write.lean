import BrokerConnector.Config.Fault
import BrokerConnector.Config.Settings
import BrokerConnector.Request

/-!
# The configuration of a write

Records go to one fixed destination, or each to the topic that a mapper names for it.
-/

namespace BrokerConnector

/-- Turns a record into the message to send on an open session, or tells why it cannot. -/
abbrev ValueMapper (ρ : Type) := ρ → SessionHandle → Except String Message

/-- Names the topic of a record. -/
abbrev TopicNameMapper (ρ : Type) := ρ → String

/-- Where the records of a write go. -/
inductive WriteDestination (ρ : Type) where
  | fixed (destination : Destination)
  | topicOf (name : TopicNameMapper ρ)

namespace WriteDestination

variable {ρ : Type}

/-- Exactly one of a queue, a topic and a topic name mapper is the destination of a write. -/
def ofWrite (queue topic : Option String) (mapper : Option (TopicNameMapper ρ)) :
    Except ConfigurationFault (WriteDestination ρ) :=
  match queue, topic, mapper with
  | some queue, none, none => .ok (fixed (.queue queue))
  | none, some topic, none => .ok (fixed (.topic topic))
  | none, none, some mapper => .ok (topicOf mapper)
  | none, none, none => .error .noWriteDestination
  | _, _, _ => .error .severalWriteDestinations

/-- Whether each record has its own topic. -/
def isDynamic : WriteDestination ρ → Bool
  | fixed _ => false
  | topicOf _ => true

/-- A destination in a message for people. -/
def address : WriteDestination ρ → String
  | fixed destination => destination.address
  | topicOf _ => "topic://<per record>"

/-- A destination as a value that is shown. -/
def debug : WriteDestination ρ → String
  | fixed destination => destination.debug
  | topicOf _ => "DynamicTopic"

end WriteDestination

/-- The validated configuration of a write. -/
structure WriteConfig (ρ : Type) where
  factory : ConnectionFactory
  destination : WriteDestination ρ
  credentials : Option Credentials
  mapper : ValueMapper ρ

/-- What is set of the configuration of a write. -/
structure WriteBuilder (ρ : Type) where
  factory : Option ConnectionFactory := none
  queue : Option String := none
  topic : Option String := none
  topicName : Option (TopicNameMapper ρ) := none
  username : Option String := none
  password : Option String := none
  mapper : Option (ValueMapper ρ) := none

namespace WriteBuilder

variable {ρ : Type}

/-- A builder with the settings of a write. -/
def ofSettings (settings : WriteSettings) : WriteBuilder ρ where
  queue := settings.queue
  topic := settings.topic
  username := settings.username
  password := settings.password

/-- The configuration that a builder stands for. -/
def build (builder : WriteBuilder ρ) : Except ConfigurationFault (WriteConfig ρ) := do
  let some factory := builder.factory | throw .noFactory
  let destination ← WriteDestination.ofWrite builder.queue builder.topic builder.topicName
  let some mapper := builder.mapper | throw .noValueMapper
  let credentials ← Credentials.resolve builder.username builder.password
  return {
    factory := factory
    destination := destination
    credentials := credentials
    mapper := mapper }

end WriteBuilder

/-- A configuration as a value that is shown. -/
def WriteConfig.debug {ρ : Type} (config : WriteConfig ρ) : String :=
  Text.structureOf "WriteConfig"
    [("connection_factory", config.factory.shown),
     ("destination", config.destination.debug),
     ("credentials", Text.optional (config.credentials.map Credentials.debug))]

end BrokerConnector
