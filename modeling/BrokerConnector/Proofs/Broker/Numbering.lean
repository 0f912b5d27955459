import BrokerConnector.Proofs.Broker.Register
import BrokerConnector.Proofs.Broker.Conservation
import Mathlib.Data.List.Nodup
import Mathlib.Data.List.Range

/-!
# Identifiers are given out once

A broker has two counters, one for the messages that it names and one for what clients open. Behind
a fixed text, the identifier of a message is its number, and the identifier of a session is the
number of its connection and its own number with a dash between them. `Broker.numbering` is what a
broker numbered so far. An operation changes it in one of five ways, the steps of `Numbering.Step`,
each of which raises at most one counter by one. So after every run the messages that the broker
named have the first numbers in order, and the sessions have numbers that grow
(`Numbering.Accounts`).

The counters have 64 bits. As long as a counter has not run over it shows the number itself
(`toNat_counterAfter`).
-/

namespace BrokerConnector

open List

/-! ## Numbers -/

/-- A counter of 64 bits that was raised some times. -/
def counterAfter : Nat → UInt64
  | 0 => 0
  | times + 1 => counterAfter times + 1

/-- A counter that did not run over shows how often it was raised. -/
theorem toNat_counterAfter {times : Nat} (h : times < UInt64.size) :
    (counterAfter times).toNat = times := by
  induction times with
  | zero => rfl
  | succ times ih =>
    rw [counterAfter, UInt64.toNat_add, ih (by omega)]
    exact Nat.mod_eq_of_lt h

/-- The digits of a number hold no dash. -/
theorem dash_notMem_toList_toString (number : Nat) : '-' ∉ (toString number).toList := by
  intro h
  rw [Nat.toString_eq_repr, Nat.toList_repr] at h
  exact absurd (Nat.isDigit_of_mem_toDigits (by decide) (by decide) h) (by decide)

/-- Numbers with the same digits are the same. -/
theorem eq_of_toList_toString_eq {first second : Nat}
    (h : (toString first).toList = (toString second).toList) : first = second := by
  refine Broker.messageIdOf_injective ?_
  rw [Broker.messageIdOf, Broker.messageIdOf, String.toList_injective h]

namespace Broker

/-- The identifier of a session tells the number of its connection and its own. -/
theorem sessionIdOf_inj {connection resource connection' resource' : Nat}
    (h : sessionIdOf connection resource = sessionIdOf connection' resource') :
    connection = connection' ∧ resource = resource' := by
  unfold sessionIdOf at h
  simp only [String.append_assoc] at h
  have hlist := congrArg String.toList ((String.append_right_inj _).1 h)
  have hdash : "-".toList = ['-'] := rfl
  simp only [String.toList_append, hdash, List.singleton_append] at hlist
  -- What stands before the first dash and what stands behind it are digits.
  obtain ⟨hconnection, -, hresource⟩ :=
    (append_cons_inj_of_notMem (dash_notMem_toList_toString connection)
      (dash_notMem_toList_toString resource)).1 hlist
  exact ⟨eq_of_toList_toString_eq hconnection, eq_of_toList_toString_eq hresource⟩

end Broker

/-! ## What is numbered -/

/-- What a broker numbered so far. -/
structure Numbering where
  /-- The numbers of the connections. -/
  connections : List Nat
  /-- The identifiers of the sessions. -/
  sessions : List String
  /-- How many identifiers of messages were given out. -/
  messages : Nat
  /-- How many numbers were given to what clients opened. -/
  resources : Nat

/-- The numbering of a broker. -/
def Broker.numbering (broker : Broker) : Numbering where
  connections := broker.connections.map (·.id)
  sessions := broker.sessions.map (·.id)
  messages := broker.messageCount
  resources := broker.resourceCount

namespace Numbering

/-- How an operation changes a numbering: with which identifier given to a message and which one
given to a session, if with any. -/
inductive Step (before : Numbering) : Option MessageId → Option String → Numbering → Prop where
  | still : Step before none none before
  | message :
    Step before (some (Broker.messageIdOf (before.messages + 1))) none
      { before with messages := before.messages + 1 }
  | connection :
    Step before none none
      { before with
        connections := before.connections ++ [before.resources + 1]
        resources := before.resources + 1 }
  | session (connection : Nat) (known : connection ∈ before.connections) :
    Step before none (some (Broker.sessionIdOf connection (before.resources + 1)))
      { before with
        sessions := before.sessions ++ [Broker.sessionIdOf connection (before.resources + 1)]
        resources := before.resources + 1 }
  | consumer : Step before none none { before with resources := before.resources + 1 }

/-- What leaves the numbering as it was is a step. -/
theorem Step.of_eq {before after : Numbering} (h : after = before) :
    before.Step none none after := by
  rw [h]
  exact .still

end Numbering

namespace Broker

/-- The identifier that a broker gives to a message in an operation. -/
def generatedId? (broker : Broker) (now : Int64) : Operation → Option MessageId
  | .publish destination message =>
    match message.id with
    | some _ => none
    | none => some (broker.publish now destination message).1
  | .request (.send producer destination message) =>
    match (broker.send now producer destination message).1 with
    | .ok id => some id
    | .error _ => none
  | _ => none

/-- The identifier of the session that a broker opens in an operation. -/
def openedId? (broker : Broker) : Operation → Option String
  | .request (.createSession connection mode) =>
    match (broker.createSession connection mode).1 with
    | .ok handle => some handle.id
    | .error _ => none
  | _ => none

/-- What operations give, in order. -/
def log {α : Type} (given? : Broker → Int64 → Operation → Option α) (broker : Broker) :
    List (Int64 × Operation) → List α
  | [] => []
  | (now, operation) :: rest =>
    (given? broker now operation).toList ++ (broker.operate now operation).log given? rest

theorem log_append {α : Type} (given? : Broker → Int64 → Operation → Option α) (broker : Broker)
    (first second : List (Int64 × Operation)) :
    broker.log given? (first ++ second) =
      broker.log given? first ++ (broker.operateAll first).log given? second := by
  induction first generalizing broker with
  | nil => rfl
  | cons entry rest ih =>
    obtain ⟨now, operation⟩ := entry
    rw [List.cons_append, log, ih, log, List.append_assoc]
    rfl

/-- The identifiers that a broker gave to messages since it was opened. -/
def generatedAfter (credentials : Option Credentials) (operations : List (Int64 × Operation)) :
    List MessageId :=
  log generatedId? { credentials := credentials } operations

/-- The identifiers of the sessions that were opened since a broker was opened. -/
def openedAfter (credentials : Option Credentials) (operations : List (Int64 × Operation)) :
    List String :=
  log (fun broker _ operation => broker.openedId? operation) { credentials := credentials }
    operations

theorem generatedAfter_append (credentials : Option Credentials)
    (first second : List (Int64 × Operation)) :
    generatedAfter credentials (first ++ second) =
      generatedAfter credentials first ++ (after credentials first).log generatedId? second :=
  log_append _ _ first second

theorem openedAfter_append (credentials : Option Credentials)
    (first second : List (Int64 × Operation)) :
    openedAfter credentials (first ++ second) =
      openedAfter credentials first ++
        (after credentials first).log (fun broker _ operation => broker.openedId? operation)
          second :=
  log_append _ _ first second

/-! ## What an operation numbers -/

/-- What is delivered gets no number. -/
theorem numbering_deliver (broker : Broker) (destination : Destination) (message : Message) :
    (broker.deliver destination message).numbering = broker.numbering := by
  cases destination <;> rfl

/-- A consumer that takes a message gives no number. -/
theorem numbering_take (broker : Broker) (now : Int64) (index : Nat) (consumer : Consumer) :
    (broker.take now index consumer).2.numbering = broker.numbering := by
  unfold take
  cases consumer.destination <;> rfl

/-- A session that keeps a message gives no number. -/
theorem numbering_keep {broker : Broker} {consumer : Consumer} {session : Session}
    (found : broker.sessions[consumer.session]? = some session) (next : Option Message) :
    (broker.keep consumer session next).numbering = broker.numbering := by
  rcases broker.keep_cases consumer session next with hkeep | ⟨delivery, hkeep⟩
  · rw [hkeep]
  · rw [hkeep]
    simp only [hold, numbering, map_set_of_same Session.id found]

/-- A send that is granted gives the message the next number, whatever identifier the message
carried, and accepts it under that number. -/
theorem send_eq_ok {broker : Broker} {now : Int64} {producer : ProducerHandle}
    {destination : Destination} {message : Message} {id : MessageId}
    (h : (broker.send now producer destination message).1 = .ok id) :
    id = messageIdOf (broker.messageCount + 1) ∧
      (broker.send now producer destination message).2 =
        { broker with messageCount := broker.messageCount + 1 }.deliver destination
          { message.stamped now with
            id := some id, destination := some destination, redelivered := false } := by
  have hgranted : broker.Granted now (.send producer destination message) id
      (broker.send now producer destination message).2 := granted_of_perform (Prod.ext h rfl)
  generalize (broker.send now producer destination message).2 = after at hgranted
  cases hgranted with
  | send => exact ⟨rfl, rfl⟩

/-- The identifier that a message carries changes nothing about how it is sent. -/
theorem send_with_id (broker : Broker) (now : Int64) (producer : ProducerHandle)
    (destination : Destination) (message : Message) (carried : Option MessageId) :
    broker.send now producer destination { message with id := carried } =
      broker.send now producer destination message := by
  have hstamped : ({ message with id := carried } : Message).stamped now =
      { message.stamped now with id := carried } := by
    unfold Message.stamped
    dsimp only
    split <;> rfl
  simp only [send, hstamped]

/-- A request that neither sends nor opens a session numbers a connection or a consumer, if it
numbers anything. -/
theorem numbering_perform (broker : Broker) (now : Int64) {request : BrokerRequest}
    (hsend : ∀ producer destination message, request ≠ .send producer destination message)
    (hsession : ∀ connection mode, request ≠ .createSession connection mode) :
    broker.numbering.Step none none (broker.perform now request).2.numbering := by
  refine perform_snd .still ?_
  intro _ _ hgranted
  cases hgranted with
  | connect =>
    simp only [numbering, List.map_append, List.map_cons, List.map_nil]
    exact .connection
  | createConsumer => exact .consumer
  | startConnection _ _ found | stopConnection _ _ found | closeConnection _ _ found =>
    exact .of_eq (by simp only [numbering, map_set_of_same Connection.id found])
  | acknowledge _ _ _ found | closeSession _ _ found =>
    exact .of_eq (by simp only [numbering, map_set_of_same Session.id found])
  | receive _ consumer session receiver =>
    refine .of_eq ((numbering_keep ?_ _).trans (broker.numbering_take now _ consumer))
    rw [sessions_take]
    exact (receiver?_eq_some receiver).2.2.1
  | send => exact (hsend _ _ _ rfl).elim
  | createSession => exact (hsession _ _ rfl).elim
  | resolve | createProducer | acknowledgeInAuto | receiveStopped | closeConsumer | closeProducer
  | queueDepth => exact .still

/-- An operation changes the numbering in one of five ways. -/
theorem numbering_step (broker : Broker) (now : Int64) (operation : Operation) :
    broker.numbering.Step (broker.generatedId? now operation) (broker.openedId? operation)
      (broker.operate now operation).numbering := by
  cases operation with
  | publish destination message =>
    simp only [operate, generatedId?, openedId?, publish]
    cases message.id with
    | some id => exact .of_eq (numbering_deliver _ _ _)
    | none =>
      rw [numbering_deliver]
      exact .message
  | reject destination => exact .still
  | turn switch on =>
    cases switch <;> exact .still
  -- Only these two requests tell a number to the client that made them.
  | request request =>
    cases request with
    | send producer destination message =>
      simp only [operate, perform, generatedId?, openedId?]
      cases hreply : (broker.send now producer destination message).1 with
      | error error =>
        have hrefused :
            (broker.perform now (.send producer destination message)).1 = .error error := hreply
        exact .of_eq (congrArg numbering (perform_of_refused hrefused))
      | ok id =>
        obtain ⟨rfl, hsent⟩ := send_eq_ok hreply
        rw [hsent, numbering_deliver]
        exact .message
    | createSession connection mode =>
      simp only [operate, perform, generatedId?, openedId?]
      cases hreply : (broker.createSession connection mode).1 with
      | error error =>
        have hrefused :
            (broker.perform now (.createSession connection mode)).1 = .error error := hreply
        exact .of_eq (congrArg numbering (perform_of_refused hrefused))
      | ok handle =>
        have hgranted : broker.Granted now (.createSession connection mode) handle
            (broker.createSession connection mode).2 := granted_of_perform (Prod.ext hreply rfl)
        generalize (broker.createSession connection mode).2 = after at hgranted
        cases hgranted with
        | createSession _ _ of found =>
          simp only [numbering, List.map_append, List.map_cons, List.map_nil]
          exact .session of.id (List.mem_map_of_mem (List.mem_of_getElem? found))
    | _ => exact broker.numbering_perform now (by simp) (by simp)

end Broker

/-! ## What a run numbers -/

namespace Numbering

/-- The identifiers of the first messages. -/
def firstIds (count : Nat) : List MessageId :=
  (List.range count).map fun index => Broker.messageIdOf (index + 1)

/-- The identifiers of sessions, each with the number of its connection and its own. -/
def sessionIds (numbers : List (Nat × Nat)) : List String :=
  numbers.map fun pair => Broker.sessionIdOf pair.1 pair.2

/-- A numbering tells which identifiers were given out. Sessions have numbers that grow, and no
number is above the count. -/
structure Accounts (numbering : Numbering) (generated : List MessageId) (opened : List String) :
    Prop where
  generated : generated = firstIds numbering.messages
  sessions : numbering.sessions = opened
  connections : ∀ connection ∈ numbering.connections, connection ≤ numbering.resources
  opened : ∃ numbers, opened = sessionIds numbers ∧ numbers.Pairwise (·.2 < ·.2) ∧
    ∀ pair ∈ numbers, pair.1 ≤ numbering.resources ∧ pair.2 ≤ numbering.resources

variable {before numbering : Numbering} {generated : List MessageId} {opened : List String}

/-- A step goes on with the account. -/
theorem Accounts.step (h : before.Accounts generated opened) {id : Option MessageId}
    {session : Option String} (hstep : before.Step id session numbering) :
    numbering.Accounts (generated ++ id.toList) (opened ++ session.toList) := by
  obtain ⟨hgenerated, hsessions, hconnections, numbers, hopened, hgrow, hbound⟩ := h
  -- What is not above the count is not above it when it is raised.
  have hraised : ∀ pair ∈ numbers, pair.1 ≤ before.resources + 1 ∧
      pair.2 ≤ before.resources + 1 := fun pair hpair =>
    ⟨(hbound pair hpair).1.trans (Nat.le_succ _), (hbound pair hpair).2.trans (Nat.le_succ _)⟩
  cases hstep with
  | still =>
    simp only [Option.toList_none, List.append_nil]
    exact ⟨hgenerated, hsessions, hconnections, numbers, hopened, hgrow, hbound⟩
  | message =>
    simp only [Option.toList_none, List.append_nil]
    refine ⟨?_, hsessions, hconnections, numbers, hopened, hgrow, hbound⟩
    rw [hgenerated, firstIds, firstIds, List.range_succ, List.map_append]
    rfl
  | connection =>
    simp only [Option.toList_none, List.append_nil]
    refine ⟨hgenerated, hsessions, fun connection hconnection => ?_, numbers, hopened, hgrow,
      hraised⟩
    rcases List.mem_append.1 hconnection with hold | hnew
    · exact (hconnections connection hold).trans (Nat.le_succ _)
    · exact Nat.le_of_eq (List.mem_singleton.1 hnew)
  | session connection known =>
    simp only [Option.toList_none, Option.toList_some, List.append_nil]
    refine ⟨hgenerated, by rw [hsessions],
      fun other hother => (hconnections other hother).trans (Nat.le_succ _),
      numbers ++ [(connection, before.resources + 1)], ?_, ?_, ?_⟩
    · rw [hopened, sessionIds, sessionIds, List.map_append]
      rfl
    · refine List.pairwise_append.2 ⟨hgrow, List.pairwise_singleton _ _, ?_⟩
      intro pair hpair new hnew
      obtain rfl := List.mem_singleton.1 hnew
      exact Nat.lt_succ_of_le (hbound pair hpair).2
    · intro pair hpair
      rcases List.mem_append.1 hpair with hold | hnew
      · exact hraised pair hold
      · obtain rfl := List.mem_singleton.1 hnew
        exact ⟨(hconnections connection known).trans (Nat.le_succ _), Nat.le_refl _⟩
  | consumer =>
    simp only [Option.toList_none, List.append_nil]
    exact ⟨hgenerated, hsessions,
      fun connection hconnection => (hconnections connection hconnection).trans (Nat.le_succ _),
      numbers, hopened, hgrow, hraised⟩

/-- No two messages have the same identifier. -/
theorem nodup_firstIds (count : Nat) : ((firstIds count).map (·.text)).Nodup := by
  rw [firstIds, List.map_map]
  refine List.nodup_range.map fun first second h => ?_
  exact Nat.succ_injective (Broker.messageIdOf_injective (congrArg MessageId.mk h))

/-- Sessions with numbers that grow have identifiers of their own, whatever their connections
are. -/
theorem nodup_sessionIds {numbers : List (Nat × Nat)} (h : numbers.Pairwise (·.2 < ·.2)) :
    (sessionIds numbers).Nodup := by
  refine List.pairwise_map.2 (h.imp fun hlt he => ?_)
  exact absurd (Broker.sessionIdOf_inj he).2 (Nat.ne_of_lt hlt)

end Numbering

namespace Broker

/-- What a broker numbered since it was opened. -/
theorem numbering_after (credentials : Option Credentials)
    (operations : List (Int64 × Operation)) :
    (after credentials operations).numbering.Accounts (generatedAfter credentials operations)
      (openedAfter credentials operations) := by
  -- The induction adds an operation at the end of the run.
  induction operations using List.reverseRecOn with
  | nil =>
    refine ⟨rfl, rfl, fun _ hconnection => ?_, [], rfl, .nil, fun _ hpair => ?_⟩
    · cases hconnection
    · cases hpair
  | append_singleton operations entry ih =>
    obtain ⟨now, operation⟩ := entry
    rw [after_append, operateAll_singleton, generatedAfter_append, openedAfter_append, log, log,
      log, log, List.append_nil, List.append_nil]
    exact ih.step (numbering_step _ now operation)

/-- A broker names a message that it is sent: what the message carried plays no part, and a message
that is accepted has the next identifier. -/
structure Renames (broker : Broker) (now : Int64) (producer : ProducerHandle)
    (destination : Destination) (message : Message) : Prop where
  carried : ∀ carried, broker.send now producer destination { message with id := carried } =
    broker.send now producer destination message
  accepted : ∀ id, (broker.send now producer destination message).1 = .ok id →
    id = messageIdOf (broker.messageCount + 1) ∧ ∃ stored, stored.id = some id ∧
      (broker.send now producer destination message).2.accepted =
        broker.accepted ++ [(destination, stored)]

/-- A broker names every message that it is sent. -/
theorem renames (broker : Broker) (now : Int64) (producer : ProducerHandle)
    (destination : Destination) (message : Message) :
    broker.Renames now producer destination message := by
  refine ⟨broker.send_with_id now producer destination message, fun id h => ?_⟩
  obtain ⟨hid, hsent⟩ := send_eq_ok h
  refine ⟨hid, _, ?_, by rw [hsent, accepted_deliver]⟩
  rfl

/-- The identifier of a message that was sent in a run is the next one of the run. -/
theorem generatedAfter_send (credentials : Option Credentials)
    (before later : List (Int64 × Operation)) {now : Int64} {producer : ProducerHandle}
    {destination : Destination} {message : Message} {id : MessageId}
    (h : ((after credentials before).send now producer destination message).1 = .ok id) :
    generatedAfter credentials
        (before ++ (now, .request (.send producer destination message)) :: later) =
      generatedAfter credentials before ++ id ::
        ((after credentials before).operate now
          (.request (.send producer destination message))).log generatedId? later := by
  rw [generatedAfter_append, log, generatedId?, h]
  rfl

/-- As long as fewer than `UInt64.size` identifiers of messages and of resources were given out,
none is given out twice. The identifiers of messages that a broker generated are distinct texts,
made of what a counter of 64 bits shows, and so are the identifiers of the sessions, made of what
two readings of another one show. Every message that is sent gets such an identifier whatever it
carried. -/
theorem identifiers_never_repeat (credentials : Option Credentials)
    (operations : List (Int64 × Operation))
    (messages : (after credentials operations).messageCount < UInt64.size)
    (resources : (after credentials operations).resourceCount < UInt64.size) :
    let broker := after credentials operations
    let generated := generatedAfter credentials operations
    let opened := openedAfter credentials operations
    (generated.map (·.text)).Nodup ∧ opened.Nodup ∧ broker.sessions.map (·.id) = opened ∧
      (generated = (List.range broker.messageCount).map fun index =>
        messageIdOf (counterAfter (index + 1)).toNat) ∧
      (∃ numbers : List (Nat × Nat), opened = numbers.map fun pair =>
        sessionIdOf (counterAfter pair.1).toNat (counterAfter pair.2).toNat) ∧
      ∀ before later now producer destination message,
        operations = before ++ (now, .request (.send producer destination message)) :: later →
        (after credentials before).Renames now producer destination message ∧
          ∀ id, ((after credentials before).send now producer destination message).1 = .ok id →
            ∃ following, generated = generatedAfter credentials before ++ id :: following := by
  intro broker generated opened
  have haccounts : broker.numbering.Accounts generated opened :=
    numbering_after credentials operations
  obtain ⟨numbers, hopened, hgrow, hbound⟩ := haccounts.opened
  have hmessages : broker.messageCount < UInt64.size := messages
  have hresources : broker.numbering.resources < UInt64.size := resources
  refine ⟨?_, ?_, haccounts.sessions, ?_, ⟨numbers, ?_⟩, ?_⟩
  · rw [haccounts.generated]
    exact Numbering.nodup_firstIds _
  · rw [hopened]
    exact Numbering.nodup_sessionIds hgrow
  · refine haccounts.generated.trans (List.map_congr_left fun index hindex => ?_)
    have hlt : index < broker.messageCount := List.mem_range.1 hindex
    rw [toNat_counterAfter (by omega)]
  · refine hopened.trans (List.map_congr_left fun pair hpair => ?_)
    obtain ⟨hconnection, hresource⟩ := hbound pair hpair
    rw [toNat_counterAfter (by omega), toNat_counterAfter (by omega)]
  · rintro before later now producer destination message rfl
    exact ⟨renames _ now producer destination message,
      fun id h => ⟨_, generatedAfter_send credentials before later h⟩⟩

/-- Two clients open sessions, one of them on a connection that is closed, which fails. A remote
client publishes a message with an identifier and one without. A client sends a message that
carries the identifier that the broker gave last, once to a destination that is rejected. -/
def namingRun : List (Int64 × Operation) :=
  [(1, .request (.connect none)),
   (2, .request (.createSession ⟨0⟩ .client)),
   (3, .request (.connect none)),
   (4, .request (.createSession ⟨1⟩ .auto)),
   (5, .request (.closeConnection ⟨1⟩)),
   (6, .request (.createSession ⟨1⟩ .auto)),
   (7, .request (.createSession ⟨0⟩ .auto)),
   (8, .publish (.queue "orders") { id := some ⟨"A"⟩, body := .text "a" }),
   (9, .publish (.queue "orders") { body := .text "b" }),
   (10, .request (.createProducer ⟨0, "session-1-2", .client⟩ none)),
   (11, .reject (.queue "refused")),
   (12, .request (.send ⟨0⟩ (.queue "refused") { id := some (messageIdOf 1), body := .text "c" })),
   (13, .request (.send ⟨0⟩ (.queue "orders") { id := some (messageIdOf 1), body := .text "d" }))]

/-- The message that was sent has the second identifier, and the three sessions have theirs. -/
theorem identifiers_of_namingRun :
    generatedAfter none namingRun = [⟨"ID:danube-mq-1"⟩, ⟨"ID:danube-mq-2"⟩] ∧
      openedAfter none namingRun = ["session-1-2", "session-3-4", "session-1-5"] ∧
      (openedAfter none namingRun).Nodup ∧
      ∃ following, generatedAfter none namingRun =
        generatedAfter none (namingRun.take 12) ++ ⟨"ID:danube-mq-2"⟩ :: following := by
  obtain ⟨-, hopened, -, -, -, hsends⟩ :=
    identifiers_never_repeat none namingRun (by decide +kernel) (by decide +kernel)
  obtain ⟨-, hsent⟩ := hsends (namingRun.take 12) [] 13 ⟨0⟩ (.queue "orders")
    { id := some (messageIdOf 1), body := .text "d" } rfl
  exact ⟨by decide +kernel, by decide +kernel, hopened, hsent _ (by decide +kernel)⟩

end Broker

end BrokerConnector
