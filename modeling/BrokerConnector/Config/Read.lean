import BrokerConnector.Config.Fault
import BrokerConnector.Config.Settings
import BrokerConnector.Request

/-!
# The configuration of a read

A builder collects what is set. It builds a configuration when there is a way to a broker, exactly
one destination, a mapper, and no password without a user; the first of these that is missing is
the fault.
-/

namespace BrokerConnector

/-- Turns a consumed message into a record, or tells why it cannot. -/
abbrev MessageMapper (α : Type) := Message → Except String α

/-- The validated configuration of a read. Its time is in milliseconds. -/
structure ReadConfig (α : Type) where
  factory : ConnectionFactory
  destination : Destination
  credentials : Option Credentials
  maxNumRecords : Option UInt64
  maxReadTime : Option UInt64
  mapper : MessageMapper α
  estimator : Option EstimatorPlan

/-- What is set of the configuration of a read. -/
structure ReadBuilder (α : Type) where
  factory : Option ConnectionFactory := none
  queue : Option String := none
  topic : Option String := none
  username : Option String := none
  password : Option String := none
  maxNumRecords : Option UInt64 := none
  maxReadTime : Option UInt64 := none
  mapper : Option (MessageMapper α) := none
  estimator : Option EstimatorPlan := none

/-- The destination of a read is a queue or a topic, not both. -/
def Destination.ofRead (queue topic : Option String) : Except ConfigurationFault Destination :=
  match queue, topic with
  | some queue, none => .ok (.queue queue)
  | none, some topic => .ok (.topic topic)
  | none, none => .error .noReadDestination
  | some _, some _ => .error .twoReadDestinations

namespace ReadBuilder

variable {α : Type}

/-- A builder with the settings of a read. -/
def ofSettings (settings : ReadSettings) : ReadBuilder α where
  queue := settings.queue
  topic := settings.topic
  username := settings.username
  password := settings.password
  maxNumRecords := settings.maxNumRecords
  maxReadTime := settings.maxReadTime

/-- The configuration that a builder stands for. -/
def build (builder : ReadBuilder α) : Except ConfigurationFault (ReadConfig α) := do
  let some factory := builder.factory | throw .noFactory
  let destination ← Destination.ofRead builder.queue builder.topic
  let some mapper := builder.mapper | throw .noMessageMapper
  let credentials ← Credentials.resolve builder.username builder.password
  return {
    factory := factory
    destination := destination
    credentials := credentials
    maxNumRecords := builder.maxNumRecords
    maxReadTime := builder.maxReadTime
    mapper := mapper
    estimator := builder.estimator }

end ReadBuilder

namespace ReadConfig

variable {α : Type}

/-- Whether a number of records or a time limits the read. -/
def isBounded (config : ReadConfig α) : Bool :=
  config.maxNumRecords.isSome || config.maxReadTime.isSome

/-- A configuration as a value that is shown. -/
def debug (config : ReadConfig α) : String :=
  Text.structureOf "ReadConfig"
    [("connection_factory", config.factory.shown),
     ("destination", config.destination.debug),
     ("credentials", Text.optional (config.credentials.map Credentials.debug)),
     ("max_num_records", Text.optional (config.maxNumRecords.map fun n => toString n.toNat)),
     ("max_read_time", Text.optional (config.maxReadTime.map fun n => Text.duration n.toNat)),
     ("backlog_estimator", Text.truth config.estimator.isSome)]

end ReadConfig

/-- One of the readers that share a read. The splits of a read differ in their position only. -/
structure Source (α : Type) where
  config : ReadConfig α
  splitIndex : Nat := 0

namespace Source

variable {α : Type}

/-- Shares a read among as many readers as its destination allows. -/
def split (source : Source α) (desired : UInt64) : List (Source α) :=
  (List.range (source.config.destination.splitCount desired.toNat)).map fun index =>
    { source with splitIndex := index }

/-- A source as a value that is shown. -/
def debug (source : Source α) : String :=
  Text.structureOf "UnboundedSource"
    [("destination", source.config.destination.debug),
     ("split_index", toString source.splitIndex)]

end Source

end BrokerConnector
