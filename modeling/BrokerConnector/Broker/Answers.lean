import BrokerConnector.Broker.Basic

/-!
# How the in-memory broker answers

One function per request, and `Broker.perform` for all of them. Each gives the answer or the
refusal with the state that the broker is left in. A handle that the broker never gave out is
treated like a closed resource.
-/

namespace BrokerConnector.Broker

/-- What a broker answers, and its state afterwards. -/
abbrev Reply (α : Type) := Except BrokerError α × Broker

/-- The broker refuses. -/
def refuse {α : Type} (broker : Broker) (error : BrokerError) : Reply α :=
  (.error error, broker)

/-- The broker grants a request. -/
def grant {α : Type} (broker : Broker) (answer : α) : Reply α :=
  (.ok answer, broker)

/-! ## What is open -/

/-- A connection that is not closed. -/
def openConnection? (broker : Broker) (connection : ConnectionHandle) :
    Except BrokerError Connection :=
  match broker.connections[connection.index]? with
  | some found => if found.closed then .error (.alreadyClosed .connection) else .ok found
  | none => .error (.alreadyClosed .connection)

/-- A session that is not closed, by its position. -/
def openSession? (broker : Broker) (index : Nat) : Except BrokerError Session :=
  match broker.sessions[index]? with
  | some found => if found.closed then .error (.alreadyClosed .session) else .ok found
  | none => .error (.alreadyClosed .session)

/-- A consumer that is not closed. -/
def openConsumer? (broker : Broker) (consumer : ConsumerHandle) : Except BrokerError Consumer :=
  match broker.consumers[consumer.index]? with
  | some found => if found.closed then .error (.alreadyClosed .consumer) else .ok found
  | none => .error (.alreadyClosed .consumer)

/-- A producer that is not closed. -/
def openProducer? (broker : Broker) (producer : ProducerHandle) : Except BrokerError Producer :=
  match broker.producers[producer.index]? with
  | some found => if found.closed then .error (.alreadyClosed .producer) else .ok found
  | none => .error (.alreadyClosed .producer)

/-- Whether the sessions of a connection, by its position, deliver. -/
def isStarted (broker : Broker) (connection : Nat) : Bool :=
  match broker.connections[connection]? with
  | some found => found.started
  | none => false

/-! ## Connections -/

/-- Why a client is not welcome. -/
def admission (broker : Broker) (credentials : Option Credentials) : Except BrokerError Unit :=
  match broker.credentials, credentials with
  | none, _ => .ok ()
  | some _, none => .error (.authentication "<anonymous>")
  | some expected, some given =>
    if expected = given then .ok () else .error (.authentication given.username)

/-- Opens a connection for a client that is welcome. -/
def connect (broker : Broker) (credentials : Option Credentials) : Reply ConnectionHandle :=
  match broker.admission credentials with
  | .error error => broker.refuse error
  | .ok () =>
    if broker.unavailable then
      broker.refuse (.unavailable "in-memory broker refuses connections")
    else
      let id := broker.resourceCount + 1
      grant
        { broker with
          resourceCount := id
          connections := broker.connections ++ [{ id := id }] }
        ⟨broker.connections.length⟩

/-- Changes a connection that is not closed. -/
def changeConnection (broker : Broker) (connection : ConnectionHandle)
    (change : Connection → Connection) : Reply Unit :=
  match broker.openConnection? connection with
  | .error error => broker.refuse error
  | .ok found =>
    grant
      { broker with connections := broker.connections.set connection.index (change found) } ()

/-- Lets the sessions of a connection deliver. -/
def startConnection (broker : Broker) (connection : ConnectionHandle) : Reply Unit :=
  broker.changeConnection connection fun found => { found with started := true }

/-- Keeps the sessions of a connection from delivering. -/
def stopConnection (broker : Broker) (connection : ConnectionHandle) : Reply Unit :=
  broker.changeConnection connection fun found => { found with started := false }

/-- Closes a connection. Its sessions stay open and deliver no more. -/
def closeConnection (broker : Broker) (connection : ConnectionHandle) : Reply Unit :=
  match broker.openConnection? connection with
  | .error error => broker.refuse error
  | .ok found =>
    grant
      { broker with
        connections :=
          broker.connections.set connection.index { found with started := false, closed := true }
        releases := broker.releases ++ [.connection] } ()

/-! ## Sessions -/

/-- Opens a session on a connection. -/
def createSession (broker : Broker) (connection : ConnectionHandle) (mode : AcknowledgeMode) :
    Reply SessionHandle :=
  match broker.openConnection? connection with
  | .error error => broker.refuse error
  | .ok found =>
    let resource := broker.resourceCount + 1
    let id := sessionIdOf found.id resource
    grant
      { broker with
        resourceCount := resource
        sessions :=
          broker.sessions ++ [{ id := id, connection := connection.index, mode := mode }] }
      ⟨broker.sessions.length, id, mode⟩

/-- A destination has to have a name that is not blank. -/
def resolve (broker : Broker) (destination : Destination) : Reply Destination :=
  if Text.isBlank destination.name then
    broker.refuse (.invalidDestination "destination name can not be empty")
  else broker.grant destination

/-- Confirms a delivery that the session holds. In auto mode there is nothing to confirm. -/
def acknowledge (broker : Broker) (session : SessionHandle) (id : MessageId) : Reply Unit :=
  match broker.openSession? session.index with
  | .error error => broker.refuse error
  | .ok found =>
    match found.mode with
    | .auto => broker.grant ()
    | .client =>
      if found.held.any (·.id = id) then
        grant
          { broker with
            sessions :=
              broker.sessions.set session.index
                { found with held := found.held.filter (·.id ≠ id) }
            acknowledged := broker.acknowledged ++ [id] } ()
      else broker.refuse (.notPending id.text)

/-- Closes a session. What it holds of a queue goes back to the head of the queue, in the order of
delivery and flagged as redelivered. -/
def closeSession (broker : Broker) (session : SessionHandle) : Reply Unit :=
  if broker.failingSessionClose then
    broker.refuse (.unavailable ("in-memory broker refuses to close " ++ session.id))
  else
    match broker.openSession? session.index with
    | .error error => broker.refuse error
    | .ok found =>
      grant
        { broker with
          waiting := found.held.filterMap Delivery.requeued ++ broker.waiting
          sessions := broker.sessions.set session.index { found with closed := true, held := [] }
          releases := broker.releases ++ [.session] } ()

/-! ## Consumers -/

/-- Creates a consumer. A consumer of a topic subscribes with an empty buffer. -/
def createConsumer (broker : Broker) (session : SessionHandle) (destination : Destination) :
    Reply ConsumerHandle :=
  match broker.openSession? session.index with
  | .error error => broker.refuse error
  | .ok _ =>
    grant
      { broker with
        resourceCount := broker.resourceCount + 1
        consumers :=
          broker.consumers ++ [{ destination := destination, session := session.index }] }
      ⟨broker.consumers.length⟩

/-- Takes the first message of a queue that is not expired, with what remains. The expired messages
before it are discarded. -/
def takeWaiting (queue : String) (now : Int64) : List Waiting → Option Message × List Waiting
  | [] => (none, [])
  | first :: rest =>
    if first.queue = queue then
      if first.message.isExpired now then takeWaiting queue now rest
      else (some first.message, rest)
    else
      let (taken, remaining) := takeWaiting queue now rest
      (taken, first :: remaining)

/-- Takes the first message of a buffer that is not expired, with what remains. -/
def takeBuffered (now : Int64) : List Message → Option Message × List Message
  | [] => (none, [])
  | first :: rest => if first.isExpired now then takeBuffered now rest else (some first, rest)

/-- Takes the next message for a consumer, by its position, from its queue or its buffer. -/
def take (broker : Broker) (now : Int64) (index : Nat) (consumer : Consumer) :
    Option Message × Broker :=
  match consumer.destination with
  | .queue name =>
    let (taken, waiting) := takeWaiting name now broker.waiting
    (taken, { broker with waiting := waiting })
  | .topic _ =>
    let (taken, buffer) := takeBuffered now consumer.buffer
    let consumers := broker.consumers.set index { consumer with buffer := buffer }
    (taken, { broker with consumers := consumers })

/-- Lets a session, by its position, hold a delivery. A delivery of the same message that it holds
already is replaced. -/
def hold (broker : Broker) (index : Nat) (session : Session) (delivery : Delivery) : Broker :=
  { broker with
    sessions :=
      broker.sessions.set index
        { session with held := session.held.filter (·.id ≠ delivery.id) ++ [delivery] } }

/-- Gives the next message to a consumer, if its connection is started and one is available. -/
def receive (broker : Broker) (now : Int64) (consumer : ConsumerHandle) :
    Reply (Option Message) :=
  match broker.openConsumer? consumer with
  | .error error => broker.refuse error
  | .ok found =>
    match broker.openSession? found.session with
    | .error error => broker.refuse error
    | .ok session =>
      if broker.failingReceive then
        broker.refuse (.unavailable "in-memory broker refuses to deliver")
      else if broker.isStarted session.connection then
        match broker.take now consumer.index found with
        | (none, broker) => broker.grant none
        | (some message, broker) =>
          match session.mode, message.id with
          | .client, some id =>
            (broker.hold found.session session ⟨id, found.destination, message⟩).grant
              (some message)
          | _, _ => broker.grant (some message)
      else broker.grant none

/-- Closes a consumer. The buffer of a subscriber is gone with it. -/
def closeConsumer (broker : Broker) (consumer : ConsumerHandle) : Reply Unit :=
  match broker.openConsumer? consumer with
  | .error error => broker.refuse error
  | .ok found =>
    grant
      { broker with
        consumers := broker.consumers.set consumer.index { found with closed := true, buffer := [] }
        releases := broker.releases ++ [.consumer] } ()

/-! ## Producers -/

/-- Creates a producer. -/
def createProducer (broker : Broker) (session : SessionHandle) (bound : Option Destination) :
    Reply ProducerHandle :=
  match broker.openSession? session.index with
  | .error error => broker.refuse error
  | .ok _ =>
    grant
      { broker with
        producers := broker.producers ++ [{ bound := bound, session := session.index }] }
      ⟨broker.producers.length⟩

/-- Whether a producer may send to a destination. -/
def sendRefusal? (broker : Broker) (producer : Producer) (destination : Destination) :
    Option BrokerError :=
  let rejection :=
    if destination ∈ broker.rejected then
      some (.send destination.address "destination rejected by broker")
    else none
  match producer.bound with
  | some bound =>
    if bound = destination then rejection
    else
      some (.unsupported
        ("producer bound to " ++ bound.address ++ " can not send to " ++ destination.address))
  | none => rejection

/-- Accepts a message under an identifier of the broker's own. -/
def send (broker : Broker) (now : Int64) (producer : ProducerHandle) (destination : Destination)
    (message : Message) : Reply MessageId :=
  match broker.openProducer? producer with
  | .error error => broker.refuse error
  | .ok found =>
    match broker.openSession? found.session with
    | .error error => broker.refuse error
    | .ok _ =>
      match broker.sendRefusal? found destination with
      | some error => broker.refuse error
      | none =>
        let number := broker.messageCount + 1
        let id := messageIdOf number
        let message :=
          { message.stamped now with
            id := some id, destination := some destination, redelivered := false }
        grant ({ broker with messageCount := number }.deliver destination message) id

/-- Closes a producer. -/
def closeProducer (broker : Broker) (producer : ProducerHandle) : Reply Unit :=
  match broker.openProducer? producer with
  | .error error => broker.refuse error
  | .ok found =>
    grant
      { broker with
        producers := broker.producers.set producer.index { found with closed := true }
        releases := broker.releases ++ [.producer] } ()

/-! ## Statistics -/

/-- The bytes that wait on a queue, bodies alone. -/
def depth (broker : Broker) (queue : String) : Nat :=
  (broker.queue queue).foldr (fun message bytes => message.size + bytes) 0

/-- Answers a question about the depth of a queue. -/
def queueDepth (broker : Broker) (queue : String) : Reply Nat :=
  if broker.unavailable then
    broker.refuse (.unavailable "in-memory broker refuses statistics requests")
  else broker.grant (broker.depth queue)

/-! ## All requests -/

/-- Answers a request at the moment `now`. -/
def perform (broker : Broker) (now : Int64) : (request : BrokerRequest) → Reply request.Answer
  | .connect credentials => broker.connect credentials
  | .startConnection connection => broker.startConnection connection
  | .stopConnection connection => broker.stopConnection connection
  | .closeConnection connection => broker.closeConnection connection
  | .createSession connection mode => broker.createSession connection mode
  | .resolve _ destination => broker.resolve destination
  | .createConsumer session destination => broker.createConsumer session destination
  | .createProducer session bound => broker.createProducer session bound
  | .acknowledge session id => broker.acknowledge session id
  | .closeSession session => broker.closeSession session
  | .receive consumer => broker.receive now consumer
  | .closeConsumer consumer => broker.closeConsumer consumer
  | .send producer destination message => broker.send now producer destination message
  | .closeProducer producer => broker.closeProducer producer
  | .queueDepth queue => broker.queueDepth queue

end BrokerConnector.Broker
