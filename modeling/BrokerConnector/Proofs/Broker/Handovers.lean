import BrokerConnector.Proofs.Broker.Request

/-!
# What receives are answered with

The log of a run (`Broker.departedAfter`) says what left its queue or buffer. Clients see nothing of
it: they see what their receives are answered with. `Broker.handoversAfter` is read off these
answers alone, and no answer is missing in it (`receive_fst_eq_ok_iff_handover?`). It is the log
without what was discarded, one for one and in order (`filter_departedAfter`), so that what is shown
of the one holds of the other.
-/

namespace BrokerConnector

/-- A message that a receive was answered with, and to whom it was given. -/
structure Handover where
  /-- The consumer that received it, by its position. -/
  consumer : Nat
  /-- The session of the consumer, by its position. -/
  session : Nat
  mode : AcknowledgeMode
  destination : Destination
  message : Message
  deriving DecidableEq

/-- How a message that is handed over leaves its queue or buffer. -/
def Handover.departure (handover : Handover) : Departure :=
  .received handover.session handover.mode handover.destination handover.message

/-- Whether a message left its queue or buffer because it was received. -/
def Departure.isReceipt : Departure → Bool
  | received _ _ _ _ => true
  | discarded _ _ => false

namespace Broker

/-- What is handed over in an operation: the message that a receive is answered with, if there is
one. -/
def handover? (broker : Broker) (now : Int64) : Operation → Option Handover
  | .request (.receive handle) =>
    match (broker.receive now handle).1 with
    | .ok (some message) =>
      broker.consumers[handle.index]?.bind fun consumer =>
        broker.sessions[consumer.session]?.map fun session =>
          ⟨handle.index, consumer.session, session.mode, consumer.destination, message⟩
    | _ => none
  | _ => none

/-- What is handed over in operations, in order. -/
def handovers (broker : Broker) : List (Int64 × Operation) → List Handover
  | [] => []
  | (now, operation) :: rest =>
    (broker.handover? now operation).toList ++ (broker.operate now operation).handovers rest

/-- What was handed over since a broker was opened. -/
def handoversAfter (credentials : Option Credentials) (operations : List (Int64 × Operation)) :
    List Handover :=
  handovers { credentials := credentials } operations

variable {broker : Broker} {now : Int64} {handle : ConsumerHandle}

/-! ## One operation -/

/-- A receive that may not take a message hands nothing over. -/
theorem handover?_receive_of_none (h : broker.receiver? handle = none) :
    broker.handover? now (.request (.receive handle)) = none := by
  rcases receive_refused_or_stopped now h with ⟨error, hrefused⟩ | ⟨hstopped, -⟩
  · simp only [handover?, hrefused]
  · simp only [handover?, hstopped]

/-- A receive that may take a message hands the next one over. -/
theorem handover?_receive {consumer : Consumer} {session : Session}
    (h : broker.receiver? handle = some (consumer, session)) :
    broker.handover? now (.request (.receive handle)) =
      (broker.contents.next? now consumer).map fun message =>
        ⟨handle.index, consumer.session, session.mode, consumer.destination, message⟩ := by
  obtain ⟨hconsumer, -, hsession, -⟩ := receiver?_eq_some h
  simp only [handover?, receive_fst now h, hconsumer, hsession, Option.bind_some, Option.map_some]
  cases broker.contents.next? now consumer <;> rfl

/-- Whatever a receive is answered with is handed over. -/
theorem receive_fst_eq_ok_iff_handover? (broker : Broker) (now : Int64) (handle : ConsumerHandle)
    (message : Message) : (broker.receive now handle).1 = .ok (some message) ↔
      ∃ handover, broker.handover? now (.request (.receive handle)) = some handover ∧
        handover.message = message := by
  cases hr : broker.receiver? handle with
  | none =>
    have hnone := (receive_of_receiver?_eq_none now hr).2 message
    simp only [hnone, handover?_receive_of_none hr, reduceCtorEq, false_and, exists_false]
  | some pair =>
    obtain ⟨consumer, session⟩ := pair
    rw [receive_fst now hr, handover?_receive hr]
    cases broker.contents.next? now consumer <;> simp

/-- A receive hands nothing over but to its own consumer. -/
theorem consumer_of_handover? {operation : Operation} {handover : Handover}
    (h : broker.handover? now operation = some handover) :
    operation = .request (.receive ⟨handover.consumer⟩) := by
  unfold handover? at h
  split at h
  · split at h
    · obtain ⟨consumer, -, hsession⟩ := Option.bind_eq_some_iff.1 h
      obtain ⟨session, -, rfl⟩ := Option.map_eq_some_iff.1 hsession
      rfl
    · cases h
  · cases h

/-- A consumer is handed over what its own receives are answered with. -/
theorem filter_handover? (broker : Broker) (now : Int64) (index : Nat) (operation : Operation) :
    (broker.handover? now operation).toList.filter (·.consumer = index) =
      if operation = .request (.receive ⟨index⟩) then (broker.handover? now operation).toList
      else [] := by
  cases h : broker.handover? now operation with
  | none => simp
  | some handover =>
    obtain rfl := consumer_of_handover? h
    simp [List.filter_cons]

/-- What departs in an operation without what is discarded is what is handed over. -/
theorem filter_departures (broker : Broker) (now : Int64) (operation : Operation) :
    (broker.departures now operation).filter (·.isReceipt) =
      (broker.handover? now operation).toList.map (·.departure) := by
  -- Nothing departs but in a receive.
  cases operation with
  | request request =>
    cases request with
    | receive handle =>
      cases hr : broker.receiver? handle with
      | none =>
        rw [departures_receive_of_none hr, handover?_receive_of_none hr]
        rfl
      | some pair =>
        obtain ⟨consumer, session⟩ := pair
        rw [departures_receive hr, handover?_receive hr, Contents.departing, List.filter_append]
        have hdiscards : (broker.contents.discards now consumer).filter (·.isReceipt) = [] := by
          refine List.filter_eq_nil_iff.2 fun departure hdeparture => ?_
          obtain ⟨message, -, rfl⟩ := List.mem_map.1 hdeparture
          exact Bool.false_ne_true
        rw [hdiscards, List.nil_append]
        cases broker.contents.next? now consumer <;> rfl
    | _ => rfl
  | _ => rfl

/-- A client is answered with a message exactly if the message departs to a consumer. -/
theorem receive_fst_eq_ok_iff (broker : Broker) (now : Int64) (consumer : ConsumerHandle)
    (message : Message) : (broker.receive now consumer).1 = .ok (some message) ↔
      ∃ session mode destination, .received session mode destination message ∈
        broker.departures now (.request (.receive consumer)) := by
  have hreceipts := broker.filter_departures now (.request (.receive consumer))
  rw [receive_fst_eq_ok_iff_handover?]
  constructor
  · rintro ⟨handover, hhandover, rfl⟩
    have hdeparts : handover.departure ∈
        (broker.departures now (.request (.receive consumer))).filter (·.isReceipt) := by
      rw [hreceipts, hhandover]
      exact List.mem_singleton.2 rfl
    exact ⟨handover.session, handover.mode, handover.destination, (List.mem_filter.1 hdeparts).1⟩
  · rintro ⟨session, mode, destination, hdeparts⟩
    have hreceipt := List.mem_filter.2 ⟨hdeparts, (rfl : Departure.isReceipt _ = true)⟩
    rw [hreceipts] at hreceipt
    obtain ⟨handover, hhandover, he⟩ := List.mem_map.1 hreceipt
    exact ⟨handover, Option.mem_toList.1 hhandover, (Departure.received.inj he).2.2.2⟩

/-! ## Every run -/

/-- What departs in operations without what is discarded is what is handed over. -/
theorem filter_departed (broker : Broker) (operations : List (Int64 × Operation)) :
    (broker.departed operations).filter (·.isReceipt) =
      (broker.handovers operations).map (·.departure) := by
  induction operations generalizing broker with
  | nil => rfl
  | cons entry rest ih =>
    obtain ⟨now, operation⟩ := entry
    rw [departed, handovers, List.filter_append, List.map_append, filter_departures, ih]

/-- What departed since a broker was opened without what was discarded is what was handed over. -/
theorem filter_departedAfter (credentials : Option Credentials)
    (operations : List (Int64 × Operation)) :
    (departedAfter credentials operations).filter (·.isReceipt) =
      (handoversAfter credentials operations).map (·.departure) :=
  filter_departed _ operations

/-- What is handed over in operations departs in them. -/
theorem departure_mem_departed {operations : List (Int64 × Operation)} {handover : Handover}
    (h : handover ∈ broker.handovers operations) :
    handover.departure ∈ broker.departed operations := by
  have hreceipt : handover.departure ∈ (broker.departed operations).filter (·.isReceipt) := by
    rw [filter_departed]
    exact List.mem_map_of_mem h
  exact (List.mem_filter.1 hreceipt).1

end Broker

end BrokerConnector
