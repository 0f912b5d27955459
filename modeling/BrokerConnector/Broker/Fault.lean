import BrokerConnector.Action
import BrokerConnector.Broker.Answers

/-!
# Faults in front of a broker

A site is a broker with a list of faults in front of it. Each fault waits at one point, lets a
number of calls pass, and then makes a number of calls fail or wait for ever, before the broker sees
them. Two points lie behind a receive that gave a message: there a fault takes a header off it on
the way to the client, while the session at the broker holds the message as it was.
-/

namespace BrokerConnector

/-- Where a fault waits. -/
inductive FaultPoint where
  | connectionStart
  | connectionCreateSession
  | connectionStop
  | connectionClose
  | sessionCreateConsumer
  | sessionCreateProducer
  | sessionAcknowledge
  | sessionClose
  | consumerReceive
  | consumerClose
  | producerSend
  | producerClose
  /-- A received message loses its identifier. -/
  | stripId
  /-- A received message loses its destination. -/
  | stripDestination
  deriving DecidableEq, Inhabited

/-- Every point with its name. -/
def FaultPoint.names : List (String × FaultPoint) :=
  [("connection.start", connectionStart), ("connection.create_session", connectionCreateSession),
   ("connection.stop", connectionStop), ("connection.close", connectionClose),
   ("session.create_consumer", sessionCreateConsumer),
   ("session.create_producer", sessionCreateProducer),
   ("session.acknowledge", sessionAcknowledge), ("session.close", sessionClose),
   ("consumer.receive", consumerReceive), ("consumer.close", consumerClose),
   ("producer.send", producerSend), ("producer.close", producerClose),
   ("consumer.strip_id", stripId), ("consumer.strip_destination", stripDestination)]

/-- The point of a name. -/
def FaultPoint.named? (name : String) : Option FaultPoint :=
  names.lookup name

/-- The point that a request passes on its way to the broker, if faults can meet it. -/
def BrokerRequest.point? : BrokerRequest → Option FaultPoint
  | connect _ | resolve _ _ | queueDepth _ => none
  | startConnection _ => some .connectionStart
  | stopConnection _ => some .connectionStop
  | closeConnection _ => some .connectionClose
  | createSession _ _ => some .connectionCreateSession
  | createConsumer _ _ => some .sessionCreateConsumer
  | createProducer _ _ => some .sessionCreateProducer
  | acknowledge _ _ => some .sessionAcknowledge
  | closeSession _ => some .sessionClose
  | receive _ => some .consumerReceive
  | closeConsumer _ => some .consumerClose
  | send _ _ _ => some .producerSend
  | closeProducer _ => some .producerClose

/-- What a fault does to a call. -/
inductive FaultEffect where
  | fail (error : BrokerError)
  /-- The call waits for an answer that never comes. -/
  | hang
  deriving DecidableEq, Inhabited

/-- Lets `after` calls pass its point, then meets `times` calls. -/
structure Fault where
  point : FaultPoint
  after : Nat
  times : Nat
  effect : FaultEffect
  deriving DecidableEq, Inhabited

/-- A call passes a point: the effect of the first fault that meets it, and the faults afterwards. A
fault that lets the call pass counts it. -/
def Fault.consult (point : FaultPoint) : List Fault → Option FaultEffect × List Fault
  | [] => (none, [])
  | fault :: rest =>
    if fault.point = point then
      if 0 < fault.after then
        let (met, rest) := consult point rest
        (met, { fault with after := fault.after - 1 } :: rest)
      else if 0 < fault.times then
        (some fault.effect, { fault with times := fault.times - 1 } :: rest)
      else
        let (met, rest) := consult point rest
        (met, fault :: rest)
    else
      let (met, rest) := consult point rest
      (met, fault :: rest)

/-- Without faults every call passes. -/
@[simp]
theorem Fault.consult_nil (point : FaultPoint) : Fault.consult point [] = (none, []) := rfl

/-- A broker with the faults in front of it. -/
structure Site where
  broker : Broker := {}
  faults : List Fault := []
  deriving DecidableEq, Inhabited

namespace Site

/-- Hands a request to the broker itself. -/
def forward (site : Site) (now : Int64) (request : BrokerRequest) :
    Outcome BrokerError request.Answer × Site :=
  let (reply, broker) := site.broker.perform now request
  (.ofExcept reply, { site with broker := broker })

/-- Hands a request to the broker unless a fault meets it at its point. -/
def guarded (site : Site) (now : Int64) (request : BrokerRequest) :
    Outcome BrokerError request.Answer × Site :=
  match request.point? with
  | none => site.forward now request
  | some point =>
    match Fault.consult point site.faults with
    | (some (.fail error), faults) => (.failed error, { site with faults := faults })
    | (some .hang, faults) => (.abandoned, { site with faults := faults })
    | (none, faults) => forward { site with faults := faults } now request

/-- What the faults behind a receive leave of a message. -/
def strip (site : Site) (message : Message) : Message × Site :=
  let (idMet, faults) := Fault.consult .stripId site.faults
  let (destinationMet, faults) := Fault.consult .stripDestination faults
  let message := if idMet.isSome then { message with id := none } else message
  let message := if destinationMet.isSome then { message with destination := none } else message
  (message, { site with faults := faults })

/-- Answers a request at the moment `now`. -/
def perform (site : Site) (now : Int64) :
    (request : BrokerRequest) → Outcome BrokerError request.Answer × Site
  | .receive consumer =>
    match site.guarded now (.receive consumer) with
    | (.done (some message), site) =>
      let (message, site) := site.strip message
      (.done (some message), site)
    | reply => reply
  | request => site.guarded now request

/-- Puts one more fault behind the others. -/
def inject (site : Site) (fault : Fault) : Site :=
  { site with faults := site.faults ++ [fault] }

end Site

end BrokerConnector
