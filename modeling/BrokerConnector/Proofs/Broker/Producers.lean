import BrokerConnector.Proofs.Broker.Circulation
import BrokerConnector.Proofs.Broker.Conservation

/-!
# What a broker accepts from its producers

A producer stays as it is until it is closed, and it can only be closed through the session that
created it. While it is open, and its session is, the broker accepts every message for a destination
that it does not reject, under its next identifier, and a refused message leaves no trace
(`perform_send`).
-/

namespace BrokerConnector

/-- A message as a broker keeps it that accepted it at the moment `now`. -/
def Message.kept (message : Message) (now : Int64) (destination : Destination) (id : MessageId) :
    Message :=
  { message.stamped now with
    id := some id
    destination := some destination
    redelivered := false }

namespace Broker

variable (broker : Broker) (now : Int64)

@[simp]
theorem producers_deliver (destination : Destination) (message : Message) :
    (broker.deliver destination message).producers = broker.producers :=
  congrArg Books.producers (broker.books_deliver destination message)

@[simp]
theorem rejected_deliver (destination : Destination) (message : Message) :
    (broker.deliver destination message).rejected = broker.rejected :=
  congrArg Books.rejected (broker.books_deliver destination message)

/-- A request that is about no producer leaves the producers alone. -/
theorem producers_perform {request : BrokerRequest}
    (h : ∀ session bound, request ≠ .createProducer session bound)
    (h' : ∀ producer, request ≠ .closeProducer producer) :
    (broker.perform now request).2.producers = broker.producers := by
  have hbooks := broker.books_perform now request
  cases request with
  | createProducer session bound => exact (h _ _ rfl).elim
  | closeProducer producer => exact (h' _ rfl).elim
  | _ => exact congrArg Books.producers hbooks

/-- No request changes what is rejected. -/
theorem rejected_perform (request : BrokerRequest) :
    (broker.perform now request).2.rejected = broker.rejected := by
  have hbooks := broker.books_perform now request
  cases request <;> exact congrArg Books.rejected hbooks

/-- A producer stays as it is in every operation that does not go through its session. -/
theorem producers_operate {operation : Operation} {index : Nat} {producer : Producer}
    (hfound : broker.producers[index]? = some producer)
    (h : broker.sessionOf? operation ≠ some producer.session) :
    (broker.operate now operation).producers[index]? = some producer := by
  cases operation with
  | publish destination message =>
    have hsame : (broker.operate now (.publish destination message)).producers =
        broker.producers := by
      unfold operate publish
      cases hid : message.id <;> simp only [producers_deliver, hid]
    rwa [hsame]
  | reject destination => exact hfound
  | turn switch on => cases switch <;> exact hfound
  | request request =>
    cases request with
    | createProducer session bound =>
      rw [operate]
      refine perform_snd hfound ?_
      rintro _ _ ⟨⟩
      have hlt := (List.getElem?_eq_some_iff.1 hfound).1
      exact (List.getElem?_append_left hlt).trans hfound
    | closeProducer other =>
      rw [operate]
      refine perform_snd hfound ?_
      rintro _ _ ⟨⟩
      refine (List.getElem?_set_ne ?_).trans hfound
      rintro rfl
      exact h (by simp [sessionOf?, hfound])
    | _ =>
      refine Eq.trans (congrArg (·[index]?) (broker.producers_perform now ?_ ?_)) hfound
      · simp
      · simp

/-- A new producer is one of its session. -/
theorem producers_of_createProducer {broker after : Broker} {now : Int64} {session : SessionHandle}
    {bound : Option Destination} {handle : ProducerHandle}
    (h : broker.perform now (.createProducer session bound) = (.ok handle, after)) :
    after.producers[handle.index]? = some { bound := bound, session := session.index } := by
  cases granted_of_perform h with
  | createProducer => exact List.getElem?_concat_length

/-- A destination is resolved if it has a name, and is the one that was asked for. -/
theorem perform_resolve (session : SessionHandle) (destination : Destination) :
    broker.perform now (.resolve session destination) =
      (if Text.isBlank destination.name then
        .error (.invalidDestination "destination name can not be empty")
      else .ok destination, broker) := by
  simp only [perform, resolve]
  split <;> rfl

/-- What an open producer that is bound to nothing sends is accepted under the next identifier,
unless the destination is rejected. Then the broker stays as it is. -/
theorem perform_send {broker : Broker} {now : Int64} {handle : ProducerHandle} {index : Nat}
    {session : Session} (hproducer : broker.producers[handle.index]? =
      some { bound := none, session := index })
    (hsession : broker.sessions[index]? = some session) (hopen : session.closed = false)
    (destination : Destination) (message : Message) :
    broker.perform now (.send handle destination message) =
      if destination ∈ broker.rejected then
        (.error (.send destination.address "destination rejected by broker"), broker)
      else
        let id := messageIdOf (broker.messageCount + 1)
        (.ok id, { broker with messageCount := broker.messageCount + 1 }.deliver destination
          (message.kept now destination id)) := by
  have hfound : broker.openProducer? handle = .ok { bound := none, session := index } := by
    simp only [openProducer?, hproducer, Bool.false_eq_true, if_false]
  have hof : broker.openSession? index = .ok session := by
    simp only [openSession?, hsession, hopen, Bool.false_eq_true, if_false]
  simp only [perform, send, hfound, hof, sendRefusal?]
  by_cases hrejected : destination ∈ broker.rejected
  · simp only [hrejected, if_true, refuse]
  · simp only [hrejected, if_false, grant, Message.kept]

end Broker

end BrokerConnector
