import BrokerConnector.Message

/-!
# What can go wrong

A broker refuses a request for one of eight causes. A connector reports the broker's refusals with
what it was doing, and a few causes of its own. Each cause has one text.
-/

namespace BrokerConnector

/-- What a client holds of a broker until it closes it. -/
inductive ResourceKind where
  | connection
  | session
  | consumer
  | producer
  deriving DecidableEq, Inhabited

/-- The name of a kind of resource. -/
def ResourceKind.label : ResourceKind → String
  | connection => "connection"
  | session => "session"
  | consumer => "consumer"
  | producer => "producer"

/-- Why a broker refuses a request. -/
inductive BrokerError where
  | unavailable (reason : String)
  | authentication (user : String)
  | alreadyClosed (kind : ResourceKind)
  | invalidDestination (reason : String)
  | send (destination reason : String)
  | acknowledge (id reason : String)
  | notPending (id : String)
  | unsupported (operation : String)
  deriving DecidableEq, Inhabited

namespace BrokerError

/-- The text of a refusal. -/
def message : BrokerError → String
  | unavailable reason => "broker unavailable: " ++ reason
  | authentication user => "authentication failed for user " ++ user
  | alreadyClosed kind => "the " ++ kind.label ++ " is already closed"
  | invalidDestination reason => "invalid destination: " ++ reason
  | send destination reason => "unable to send message to " ++ destination ++ ": " ++ reason
  | acknowledge id reason => "unable to acknowledge message " ++ id ++ ": " ++ reason
  | notPending id => "message " ++ id ++ " has no pending delivery on this session"
  | unsupported operation => "unsupported operation: " ++ operation

/-- Whether a refusal only reports that a resource was released earlier. -/
def isAlreadyClosed : BrokerError → Bool
  | alreadyClosed _ => true
  | _ => false

/-- Whether a refusal only reports that the session does not hold the delivery. -/
def isNotPending : BrokerError → Bool
  | notPending _ => true
  | _ => false

end BrokerError

/-- The steps by which a reader or a writer acquires its resources. -/
inductive SetupStep where
  | connect
  | startConnection
  | createSession
  | resolveDestination
  | createConsumer
  | createProducer
  | startBacklogEstimator
  deriving DecidableEq, Inhabited

/-- The text of a step. -/
def SetupStep.label : SetupStep → String
  | connect => "connecting to the broker"
  | startConnection => "starting the connection"
  | createSession => "creating the session"
  | resolveDestination => "resolving the destination"
  | createConsumer => "creating the consumer"
  | createProducer => "creating the producer"
  | startBacklogEstimator => "starting the backlog estimator"

/-- Why the bytes of a checkpoint are no checkpoint. -/
inductive DecodeFault where
  /-- The input ends too soon. -/
  | endOfInput
  /-- The byte that tells whether an optional value follows is neither zero nor one. -/
  | badTag
  /-- A text is not UTF-8. -/
  | badText
  deriving DecidableEq, Inhabited

/-- Why a connector reports a failure. -/
inductive ConnectorError where
  | configuration (reason : String)
  | setup (step : SetupStep) (source : BrokerError)
  | mapping (id : String) (reason : String)
  | noCurrentRecord
  | invalidState (reason : String)
  | broker (source : BrokerError)
  | checkpoint (reason : String)
  | checkpointEncoding (fault : DecodeFault)
  | settings
  | release (sources : List BrokerError)
  deriving DecidableEq, Inhabited

namespace ConnectorError

/-- The text of a failure. -/
def message : ConnectorError → String
  | configuration reason => "invalid configuration: " ++ reason
  | setup step source => "error " ++ step.label ++ ": " ++ source.message
  | mapping id reason => "unable to map message " ++ id ++ ": " ++ reason
  | noCurrentRecord => "no current record"
  | invalidState reason => "invalid state: " ++ reason
  | broker source => "broker error: " ++ source.message
  | checkpoint reason => "checkpoint error: " ++ reason
  | checkpointEncoding _ => "unable to encode the checkpoint"
  | settings => "unable to parse the settings"
  | release sources =>
    "unable to release resources: " ++ "; ".intercalate (sources.map BrokerError.message)

/-- The text of what a failure was caused by. -/
def cause? : ConnectorError → Option String
  | setup _ source => some source.message
  | mapping _ reason => some reason
  | broker source => some source.message
  | _ => none

/-- The text of a failure, then that of its cause. -/
def chain (error : ConnectorError) : List String :=
  error.message :: error.cause?.toList

/-- The step that failed, when a setup did. -/
def setupStep? : ConnectorError → Option SetupStep
  | setup step _ => some step
  | _ => none

end ConnectorError

end BrokerConnector
