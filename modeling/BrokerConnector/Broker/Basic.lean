import BrokerConnector.Request
import BrokerConnector.Text.Blank

/-!
# The in-memory broker

A broker that lives inside one process. It holds the messages that wait on its queues in one list,
in which each queue has its messages in order. A topic has no messages of its own: each subscriber
has a buffer with its copies. A session in client mode holds what it delivered until the client
acknowledges it. Logs of accepted messages, acknowledgments and releases tell what happened so far.

What a client opens is named by its position in the list of its kind, so nothing is ever removed
from these lists: a closed resource stays and is marked as closed.
-/

namespace BrokerConnector

/-- A connection. Its sessions deliver only while it is started. -/
structure Connection where
  id : Nat
  started : Bool := false
  closed : Bool := false
  deriving DecidableEq, Inhabited

/-- A message that a session delivered from a destination and the client did not acknowledge. -/
structure Delivery where
  id : MessageId
  destination : Destination
  message : Message
  deriving DecidableEq, Inhabited

/-- A session of a connection, with what it holds in the order of delivery. -/
structure Session where
  id : String
  connection : Nat
  mode : AcknowledgeMode
  closed : Bool := false
  held : List Delivery := []
  deriving DecidableEq, Inhabited

/-- A consumer of a session. The buffer is that of a subscriber. -/
structure Consumer where
  destination : Destination
  session : Nat
  closed : Bool := false
  buffer : List Message := []
  deriving DecidableEq, Inhabited

/-- A producer of a session, for one destination when it is bound. -/
structure Producer where
  bound : Option Destination
  session : Nat
  closed : Bool := false
  deriving DecidableEq, Inhabited

/-- A message waiting on a queue. -/
structure Waiting where
  queue : String
  message : Message
  deriving DecidableEq, Inhabited

/-- What a held delivery puts back on its queue. A delivery from a topic puts back nothing. -/
def Delivery.requeued (delivery : Delivery) : Option Waiting :=
  match delivery.destination with
  | .queue name => some ⟨name, { delivery.message with redelivered := true }⟩
  | .topic _ => none

/-- The state of an in-memory broker. -/
structure Broker where
  /-- What a client has to present, nothing when every client is welcome. -/
  credentials : Option Credentials := none
  /-- Refuses new connections and questions about depths. -/
  unavailable : Bool := false
  /-- Refuses to close sessions. -/
  failingSessionClose : Bool := false
  /-- Refuses to deliver. -/
  failingReceive : Bool := false
  /-- The destinations that nothing can be sent to. -/
  rejected : List Destination := []
  waiting : List Waiting := []
  /-- Every accepted message with its destination, in order. -/
  accepted : List (Destination × Message) := []
  /-- The identifier of every acknowledged delivery, in order. -/
  acknowledged : List MessageId := []
  /-- The kind of every released resource, in order. -/
  releases : List ResourceKind := []
  /-- How many message identifiers were given out. -/
  messageCount : Nat := 0
  /-- How many resource identifiers were given out. -/
  resourceCount : Nat := 0
  connections : List Connection := []
  sessions : List Session := []
  consumers : List Consumer := []
  producers : List Producer := []
  deriving DecidableEq, Inhabited

namespace Broker

/-! ## What can be seen from outside -/

/-- The messages that wait on a queue, in order. -/
def queue (broker : Broker) (name : String) : List Message :=
  (broker.waiting.filter (·.queue = name)).map (·.message)

/-- Every message accepted for a destination, in order. -/
def published (broker : Broker) (destination : Destination) : List Message :=
  (broker.accepted.filter (·.1 = destination)).map (·.2)

/-- How many deliveries of a message were acknowledged. -/
def acknowledgmentCount (broker : Broker) (id : MessageId) : Nat :=
  broker.acknowledged.count id

/-- How many resources of a kind were released. -/
def released (broker : Broker) (kind : ResourceKind) : Nat :=
  broker.releases.count kind

/-! ## Identifiers -/

/-- The text of the message identifier with a number. -/
def messageIdOf (number : Nat) : MessageId :=
  ⟨"ID:danube-mq-" ++ toString number⟩

/-- The text of the identifier of a session. -/
def sessionIdOf (connection resource : Nat) : String :=
  "session-" ++ toString connection ++ "-" ++ toString resource

/-! ## Accepting messages -/

/-- Appends a message to its queue, or to the buffer of every live subscriber of its topic. -/
def deliver (broker : Broker) (destination : Destination) (message : Message) : Broker :=
  let broker := { broker with accepted := broker.accepted ++ [(destination, message)] }
  match destination with
  | .queue name => { broker with waiting := broker.waiting ++ [⟨name, message⟩] }
  | .topic _ =>
    { broker with
      consumers := broker.consumers.map fun consumer =>
        if consumer.destination = destination ∧ consumer.closed = false then
          { consumer with buffer := consumer.buffer ++ [message] }
        else consumer }

/-- Places a message on a destination as if a remote client had sent it. Headers that are set stay,
a missing identifier and timestamp are stamped. -/
def publish (broker : Broker) (now : Int64) (destination : Destination) (message : Message) :
    MessageId × Broker :=
  let (id, broker) :=
    match message.id with
    | some id => (id, broker)
    | none =>
      let number := broker.messageCount + 1
      (messageIdOf number, { broker with messageCount := number })
  let message := { message.stamped now with id := some id, destination := some destination }
  (id, broker.deliver destination message)

/-- Refuses every later message to a destination. -/
def reject (broker : Broker) (destination : Destination) : Broker :=
  { broker with rejected := destination :: broker.rejected }

end Broker

end BrokerConnector
