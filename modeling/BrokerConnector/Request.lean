import BrokerConnector.Credentials
import BrokerConnector.Error

/-!
# Requests

What a client asks of a broker and of the backlog estimators beside it, with the type of each
answer. A client names what it opened by handles. The handle of a session also carries the
session's identifier and mode, which do not change.
-/

namespace BrokerConnector

/-- How deliveries on a session are confirmed. -/
inductive AcknowledgeMode where
  /-- A message counts as consumed as soon as it is delivered. -/
  | auto
  /-- The client confirms each delivery. -/
  | client
  deriving DecidableEq, Inhabited

/-- The name of a mode. -/
def AcknowledgeMode.label : AcknowledgeMode → String
  | auto => "auto"
  | client => "client"

/-- Names a connection. -/
structure ConnectionHandle where
  index : Nat
  deriving DecidableEq, Inhabited

/-- Names a session. -/
structure SessionHandle where
  index : Nat
  id : String
  mode : AcknowledgeMode
  deriving DecidableEq, Inhabited

/-- Names a consumer. -/
structure ConsumerHandle where
  index : Nat
  deriving DecidableEq, Inhabited

/-- Names a producer. -/
structure ProducerHandle where
  index : Nat
  deriving DecidableEq, Inhabited

/-- Names a running backlog estimator. -/
structure EstimatorHandle where
  index : Nat
  deriving DecidableEq, Inhabited

/-- What a client asks of a broker. -/
inductive BrokerRequest where
  /-- Opens a connection, anonymously without credentials. -/
  | connect (credentials : Option Credentials)
  | startConnection (connection : ConnectionHandle)
  | stopConnection (connection : ConnectionHandle)
  | closeConnection (connection : ConnectionHandle)
  | createSession (connection : ConnectionHandle) (mode : AcknowledgeMode)
  /-- Turns a name of a kind into a destination of the broker. -/
  | resolve (session : SessionHandle) (destination : Destination)
  | createConsumer (session : SessionHandle) (destination : Destination)
  /-- Creates a producer, for every destination when it is bound to none. -/
  | createProducer (session : SessionHandle) (bound : Option Destination)
  | acknowledge (session : SessionHandle) (id : MessageId)
  | closeSession (session : SessionHandle)
  /-- Asks for the next message without waiting for one. -/
  | receive (consumer : ConsumerHandle)
  | closeConsumer (consumer : ConsumerHandle)
  | send (producer : ProducerHandle) (destination : Destination) (message : Message)
  | closeProducer (producer : ProducerHandle)
  /-- Asks for the bytes that wait on a queue. -/
  | queueDepth (queue : String)
  deriving DecidableEq, Inhabited

/-- What a broker answers to a request that it grants. -/
@[reducible]
def BrokerRequest.Answer : BrokerRequest → Type
  | connect _ => ConnectionHandle
  | startConnection _ | stopConnection _ | closeConnection _ => Unit
  | createSession _ _ => SessionHandle
  | resolve _ _ => Destination
  | createConsumer _ _ => ConsumerHandle
  | createProducer _ _ => ProducerHandle
  | acknowledge _ _ | closeSession _ | closeConsumer _ | closeProducer _ => Unit
  | receive _ => Option Message
  | send _ _ _ => MessageId
  | queueDepth _ => Nat

/-- How the backlog of a read is estimated. -/
inductive EstimatorPlan where
  /-- The backlog is never known. -/
  | noInformation
  /-- The backlog is the depth of a queue at a broker, asked for at an interval in milliseconds. -/
  | queueDepth (site : Nat) (queue : String) (interval : Nat)
  deriving DecidableEq, Inhabited

/-- What a client asks of its surroundings. -/
inductive Request where
  | broker (request : BrokerRequest)
  | startEstimator (plan : EstimatorPlan)
  | stopEstimator (estimator : EstimatorHandle)
  deriving DecidableEq, Inhabited

/-- What the surroundings answer to a request that they grant. -/
@[reducible]
def Request.Answer : Request → Type
  | broker request => request.Answer
  | startEstimator _ => EstimatorHandle
  | stopEstimator _ => Unit

end BrokerConnector
