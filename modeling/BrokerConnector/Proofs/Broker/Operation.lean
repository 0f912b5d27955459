import BrokerConnector.Broker.Answers
import Mathlib.Data.List.Basic

/-!
# What happens at a broker

Clients make requests, remote clients publish, and operators turn switches and reject destinations.
`Broker.operate` performs any of these operations and forgets its answer.

Most of what a broker keeps has nothing to do with messages. `Broker.contents` is the part that
has: the lists of waiting, accepted and acknowledged messages, the sessions with what they hold and
the consumers with their buffers. An operation changes it in one of nine ways, the steps of
`Contents.Step`, and `operate_step` says which. What is shown of the steps holds of every run of a
broker, so that nothing behind this module looks at a request again unless it matters which one
it is.

A step tells which messages left their queue or buffer on it, and through which session it went.
-/

namespace BrokerConnector

/-- What operators can switch at a broker. -/
inductive Switch where
  | unavailable
  | failingSessionClose
  | failingReceive
  deriving DecidableEq, Inhabited

/-- What can happen at a broker. -/
inductive Operation where
  /-- A client makes a request. -/
  | request (request : BrokerRequest)
  /-- A remote client publishes a message. -/
  | publish (destination : Destination) (message : Message)
  | reject (destination : Destination)
  | turn (switch : Switch) (on : Bool)
  deriving DecidableEq, Inhabited

/-- How a message leaves its queue or buffer. -/
inductive Departure where
  /-- A consumer of a session, by its position, received it. -/
  | received (session : Nat) (mode : AcknowledgeMode) (destination : Destination)
    (message : Message)
  /-- A receive found it expired. -/
  | discarded (destination : Destination) (message : Message)
  deriving DecidableEq, Inhabited

namespace Broker

/-- Turns a switch. -/
def turn (broker : Broker) (on : Bool) : Switch → Broker
  | .unavailable => { broker with unavailable := on }
  | .failingSessionClose => { broker with failingSessionClose := on }
  | .failingReceive => { broker with failingReceive := on }

/-- The broker after an operation at the moment `now`. -/
def operate (broker : Broker) (now : Int64) : Operation → Broker
  | .request request => (broker.perform now request).2
  | .publish destination message => (broker.publish now destination message).2
  | .reject destination => broker.reject destination
  | .turn switch on => broker.turn on switch

/-- The session, by its position, that an operation goes through. -/
def sessionOf? (broker : Broker) : Operation → Option Nat
  | .request (.createConsumer session _) | .request (.createProducer session _)
  | .request (.acknowledge session _) | .request (.closeSession session) => some session.index
  | .request (.receive consumer) | .request (.closeConsumer consumer) =>
    broker.consumers[consumer.index]?.map (·.session)
  | .request (.send producer _ _) | .request (.closeProducer producer) =>
    broker.producers[producer.index]?.map (·.session)
  | _ => none

/-- The session, by its position, whose held deliveries an operation changes. -/
def touched? (broker : Broker) : Operation → Option Nat
  | .request (.acknowledge session _) | .request (.closeSession session) => some session.index
  | .request (.receive consumer) => broker.consumers[consumer.index]?.map (·.session)
  | _ => none

/-- An operation goes through the session whose deliveries it changes. -/
theorem sessionOf?_of_touched? {broker : Broker} {operation : Operation} {index : Nat}
    (h : broker.touched? operation = some index) : broker.sessionOf? operation = some index := by
  unfold touched? at h
  split at h
  · exact h
  · exact h
  · exact h
  · cases h

/-- The messages that a consumer takes its next one from. -/
def source (broker : Broker) (consumer : Consumer) : List Message :=
  match consumer.destination with
  | .queue name => broker.queue name
  | .topic _ => consumer.buffer

/-- The consumer that a receive takes a message for, with its session, if the broker lets it take
one. -/
def receiver? (broker : Broker) (consumer : ConsumerHandle) : Option (Consumer × Session) :=
  match broker.openConsumer? consumer with
  | .error _ => none
  | .ok found =>
    match broker.openSession? found.session with
    | .error _ => none
    | .ok session =>
      if broker.failingReceive then none
      else if broker.isStarted session.connection then some (found, session)
      else none

/-- The messages that leave their queue or buffer when a consumer takes its next one. -/
def taken (broker : Broker) (now : Int64) (consumer : Consumer) (session : Session) :
    List Departure :=
  let source := broker.source consumer
  (source.takeWhile (·.isExpired now)).map (.discarded consumer.destination) ++
    ((source.dropWhile (·.isExpired now)).head?.map
      (.received consumer.session session.mode consumer.destination)).toList

/-- The messages that leave their queue or buffer in an operation. -/
def departures (broker : Broker) (now : Int64) : Operation → List Departure
  | .request (.receive consumer) =>
    match broker.receiver? consumer with
    | some (found, session) => broker.taken now found session
    | none => []
  | _ => []

/-- The broker after operations in order, each at its moment. -/
def operateAll (broker : Broker) : List (Int64 × Operation) → Broker
  | [] => broker
  | (now, operation) :: rest => (broker.operate now operation).operateAll rest

/-- The messages that leave their queue or buffer in operations, in order. -/
def departed (broker : Broker) : List (Int64 × Operation) → List Departure
  | [] => []
  | (now, operation) :: rest =>
    broker.departures now operation ++ (broker.operate now operation).departed rest

/-- A broker that has served operations since it was opened for some or for all clients. -/
def after (credentials : Option Credentials) (operations : List (Int64 × Operation)) : Broker :=
  operateAll { credentials := credentials } operations

/-- The messages that left their queue or buffer since a broker was opened. -/
def departedAfter (credentials : Option Credentials) (operations : List (Int64 × Operation)) :
    List Departure :=
  departed { credentials := credentials } operations

theorem operateAll_append (broker : Broker) (first second : List (Int64 × Operation)) :
    broker.operateAll (first ++ second) = (broker.operateAll first).operateAll second := by
  induction first generalizing broker with
  | nil => rfl
  | cons entry rest ih => exact ih _

@[simp]
theorem operateAll_singleton (broker : Broker) (now : Int64) (operation : Operation) :
    broker.operateAll [(now, operation)] = broker.operate now operation := rfl

theorem departed_append (broker : Broker) (first second : List (Int64 × Operation)) :
    broker.departed (first ++ second) =
      broker.departed first ++ (broker.operateAll first).departed second := by
  induction first generalizing broker with
  | nil => rfl
  | cons entry rest ih =>
    obtain ⟨now, operation⟩ := entry
    rw [List.cons_append, departed, ih, departed, List.append_assoc]
    rfl

@[simp]
theorem departed_singleton (broker : Broker) (now : Int64) (operation : Operation) :
    broker.departed [(now, operation)] = broker.departures now operation := by
  rw [departed, departed, List.append_nil]

theorem after_append (credentials : Option Credentials) (first second : List (Int64 × Operation)) :
    after credentials (first ++ second) = (after credentials first).operateAll second :=
  operateAll_append _ first second

theorem departedAfter_append (credentials : Option Credentials)
    (first second : List (Int64 × Operation)) :
    departedAfter credentials (first ++ second) =
      departedAfter credentials first ++ (after credentials first).departed second :=
  departed_append _ first second

end Broker

/-! ## Contents -/

/-- The messages of a broker, and where they are. -/
structure Contents where
  waiting : List Waiting
  accepted : List (Destination × Message)
  acknowledged : List MessageId
  sessions : List Session
  consumers : List Consumer
  deriving DecidableEq, Inhabited

/-- What a broker knows of messages. -/
def Broker.contents (broker : Broker) : Contents where
  waiting := broker.waiting
  accepted := broker.accepted
  acknowledged := broker.acknowledged
  sessions := broker.sessions
  consumers := broker.consumers

/-- A consumer after a message for a destination. -/
def Consumer.offered (consumer : Consumer) (destination : Destination) (message : Message) :
    Consumer :=
  if destination.isTopic ∧ consumer.destination = destination ∧ consumer.closed = false then
    { consumer with buffer := consumer.buffer ++ [message] }
  else consumer

/-- What waits on a queue on account of a message for a destination. -/
def Message.queuedFor (message : Message) : Destination → List Waiting
  | .queue name => [⟨name, message⟩]
  | .topic _ => []

namespace Contents

/-- The contents with one more message. -/
def accept (contents : Contents) (destination : Destination) (message : Message) : Contents :=
  { contents with
    accepted := contents.accepted ++ [(destination, message)]
    waiting := contents.waiting ++ message.queuedFor destination
    consumers := contents.consumers.map (·.offered destination message) }

/-- The messages that a consumer takes its next one from. -/
def source (contents : Contents) (consumer : Consumer) : List Message :=
  match consumer.destination with
  | .queue name => (contents.waiting.filter (·.queue = name)).map (·.message)
  | .topic _ => consumer.buffer

/-- The contents without the messages that leave when a consumer takes its next one. -/
def withoutTaken (contents : Contents) (now : Int64) (index : Nat) (consumer : Consumer) :
    Contents :=
  match consumer.destination with
  | .queue name =>
    { contents with waiting := (Broker.takeWaiting name now contents.waiting).2 }
  | .topic _ =>
    { contents with
      consumers :=
        contents.consumers.set index
          { consumer with buffer := (Broker.takeBuffered now consumer.buffer).2 } }

/-- The contents with one more held delivery. -/
def hold (contents : Contents) (index : Nat) (session : Session) (delivery : Delivery) :
    Contents :=
  { contents with
    sessions :=
      contents.sessions.set index
        { session with held := session.held.filter (·.id ≠ delivery.id) ++ [delivery] } }

/-- The expired messages at the head of what a consumer takes its next message from. -/
def discards (contents : Contents) (now : Int64) (consumer : Consumer) : List Departure :=
  ((contents.source consumer).takeWhile (·.isExpired now)).map (.discarded consumer.destination)

/-- The message that a consumer takes next. -/
def next? (contents : Contents) (now : Int64) (consumer : Consumer) : Option Message :=
  ((contents.source consumer).dropWhile (·.isExpired now)).head?

/-- What departs when a consumer of a session takes its next message. -/
def departing (contents : Contents) (now : Int64) (consumer : Consumer) (session : Session) :
    List Departure :=
  contents.discards now consumer ++
    ((contents.next? now consumer).map
      (.received consumer.session session.mode consumer.destination)).toList

/-- The contents when a session was given the next message of a consumer, if there is one. -/
def keep (contents : Contents) (consumer : Consumer) (session : Session) :
    Option Message → Contents
  | some message =>
    match session.mode, message.id with
    | .client, some id =>
      contents.hold consumer.session session ⟨id, consumer.destination, message⟩
    | _, _ => contents
  | none => contents

/-- How an operation at the moment `now` changes contents: through which session, and with which
messages leaving their queue or buffer. -/
inductive Step (now : Int64) (before : Contents) :
    Option Nat → List Departure → Contents → Prop where
  | still : Step now before none [] before
  | openSession (session : Session) (empty : session.held = []) :
    Step now before none [] { before with sessions := before.sessions ++ [session] }
  | openConsumer (consumer : Consumer) (empty : consumer.buffer = []) :
    Step now before none [] { before with consumers := before.consumers ++ [consumer] }
  | closeConsumer (index : Nat) (consumer : Consumer)
    (found : before.consumers[index]? = some consumer) :
    Step now before none []
      { before with
        consumers := before.consumers.set index { consumer with closed := true, buffer := [] } }
  | accept (destination : Destination) (message : Message) (identified : message.id.isSome) :
    Step now before none [] (before.accept destination message)
  | acknowledge (index : Nat) (session : Session) (id : MessageId)
    (found : before.sessions[index]? = some session) (client : session.mode = .client)
    (isOpen : session.closed = false) (held : ∃ delivery ∈ session.held, delivery.id = id) :
    Step now before (some index) []
      { before with
        sessions := before.sessions.set index
          { session with held := session.held.filter (·.id ≠ id) }
        acknowledged := before.acknowledged ++ [id] }
  | closeSession (index : Nat) (session : Session)
    (found : before.sessions[index]? = some session) :
    Step now before (some index) []
      { before with
        waiting := session.held.filterMap Delivery.requeued ++ before.waiting
        sessions := before.sessions.set index { session with closed := true, held := [] } }
  | takeOver (index : Nat) (consumer : Consumer) (session : Session)
    (found : before.consumers[index]? = some consumer)
    (of : before.sessions[consumer.session]? = some session)
    (unheld : ∀ message, before.next? now consumer = some message →
      session.mode = .auto ∨ message.id = none) :
    Step now before (some consumer.session)
      (before.discards now consumer ++
        ((before.next? now consumer).map
          (.received consumer.session session.mode consumer.destination)).toList)
      (before.withoutTaken now index consumer)
  | takeHeld (index : Nat) (consumer : Consumer) (session : Session) (message : Message)
    (id : MessageId) (found : before.consumers[index]? = some consumer)
    (of : before.sessions[consumer.session]? = some session) (client : session.mode = .client)
    (isOpen : session.closed = false) (next : before.next? now consumer = some message)
    (identified : message.id = some id) :
    Step now before (some consumer.session)
      (before.discards now consumer ++
        [.received consumer.session session.mode consumer.destination message])
      ((before.withoutTaken now index consumer).hold consumer.session session
        ⟨id, consumer.destination, message⟩)

/-- Nothing departs but through a session. -/
theorem Step.departures_of_none {now : Int64} {before after : Contents}
    {departures : List Departure} (h : Step now before none departures after) :
    departures = [] := by
  cases h <;> rfl

/-- A session that takes the next message of a consumer keeps it in one of two steps: what it can
hold until it is acknowledged is held, and anything else goes over. -/
theorem Step.take {now : Int64} {contents : Contents} {index : Nat} {consumer : Consumer}
    {session : Session} (found : contents.consumers[index]? = some consumer)
    (of : contents.sessions[consumer.session]? = some session) (isOpen : session.closed = false) :
    Step now contents (some consumer.session) (contents.departing now consumer session)
      ((contents.withoutTaken now index consumer).keep consumer session
        (contents.next? now consumer)) := by
  have hover (h : ∀ message, contents.next? now consumer = some message →
      session.mode = .auto ∨ message.id = none) :
      Step now contents (some consumer.session) (contents.departing now consumer session)
        (contents.withoutTaken now index consumer) :=
    .takeOver index consumer session found of h
  cases hnext : contents.next? now consumer with
  | none => exact hover (by simp [hnext])
  | some message =>
    cases hmode : session.mode with
    | auto =>
      simp only [keep, hmode]
      exact hover fun _ _ => .inl hmode
    | client =>
      cases hid : message.id with
      | none =>
        simp only [keep, hmode, hid]
        refine hover fun other hother => .inr ?_
        obtain rfl := Option.some.inj (hnext.symm.trans hother)
        exact hid
      | some id =>
        simp only [departing, keep, hnext, hmode, hid, Option.map_some, Option.toList_some]
        have hheld := Step.takeHeld index consumer session message id found of hmode isOpen hnext
          hid
        rwa [hmode] at hheld

end Contents

end BrokerConnector
