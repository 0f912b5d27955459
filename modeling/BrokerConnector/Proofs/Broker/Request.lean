import BrokerConnector.Proofs.Broker.Operation

/-!
# What a request does

A broker refuses a request and stays as it is, or grants it. `Broker.Granted` says once for every
request when it is granted, what the answer is and what the broker is like afterwards, and
`perform_replies` that there is nothing else. What is shown here of all requests, that each is a
step of the contents and that it changes no books but its own, goes through its cases.
-/

namespace BrokerConnector

/-! ## Taking -/

namespace Broker

/-- Taking from a buffer discards the expired messages at its head and gives the next one. -/
theorem takeBuffered_eq (now : Int64) (buffer : List Message) :
    takeBuffered now buffer =
      ((buffer.dropWhile (·.isExpired now)).head?, (buffer.dropWhile (·.isExpired now)).tail) := by
  induction buffer with
  | nil => rfl
  | cons first rest ih =>
    by_cases h : first.isExpired now = true
    · simp [takeBuffered, h, ih]
    · simp [takeBuffered, h]

/-- Taking from a queue discards its expired messages at the head and gives the next one. -/
theorem takeWaiting_fst (queue : String) (now : Int64) (waiting : List Waiting) :
    (takeWaiting queue now waiting).1 =
      (((waiting.filter (·.queue = queue)).map (·.message)).dropWhile
        (·.isExpired now)).head? := by
  induction waiting with
  | nil => rfl
  | cons first rest ih =>
    by_cases hq : first.queue = queue
    · by_cases h : first.message.isExpired now = true
      · simp [takeWaiting, hq, h, ih]
      · simp [takeWaiting, hq, h]
    · simp [takeWaiting, hq, ih]

/-- What remains of a queue when its expired messages at the head and the next one are gone. -/
theorem takeWaiting_filter_self (queue : String) (now : Int64) (waiting : List Waiting) :
    ((takeWaiting queue now waiting).2.filter (·.queue = queue)).map (·.message) =
      (((waiting.filter (·.queue = queue)).map (·.message)).dropWhile
        (·.isExpired now)).tail := by
  induction waiting with
  | nil => rfl
  | cons first rest ih =>
    by_cases hq : first.queue = queue
    · by_cases h : first.message.isExpired now = true
      · simp [takeWaiting, hq, h, ih]
      · simp [takeWaiting, hq, h]
    · simp [takeWaiting, hq, ih]

/-- Taking from a queue leaves the other queues alone. -/
theorem takeWaiting_filter_of_ne {queue other : String} (now : Int64) (waiting : List Waiting)
    (h : other ≠ queue) :
    (takeWaiting queue now waiting).2.filter (·.queue = other) =
      waiting.filter (·.queue = other) := by
  induction waiting with
  | nil => rfl
  | cons first rest ih =>
    by_cases hq : first.queue = queue
    · have ho : ¬ first.queue = other := fun e => h (e.symm.trans hq)
      by_cases he : first.message.isExpired now = true
      · simp only [takeWaiting, hq, he, if_true, ih]
        rw [List.filter_cons_of_neg (by simpa using ho)]
      · simp only [takeWaiting, hq, he, if_true, if_false, Bool.false_eq_true]
        rw [List.filter_cons_of_neg (by simpa using ho)]
    · simp [takeWaiting, hq, List.filter_cons, ih]

/-! ## What is open -/

/-- A connection that is open, by its position. -/
theorem openConnection?_eq_ok {broker : Broker} {handle : ConnectionHandle} {found : Connection}
    (h : broker.openConnection? handle = .ok found) :
    broker.connections[handle.index]? = some found ∧ found.closed = false := by
  grind [openConnection?]

/-- A session that is open, by its position. -/
theorem openSession?_eq_ok {broker : Broker} {index : Nat} {found : Session}
    (h : broker.openSession? index = .ok found) :
    broker.sessions[index]? = some found ∧ found.closed = false := by
  grind [openSession?]

/-- A consumer that is open, by its position. -/
theorem openConsumer?_eq_ok {broker : Broker} {consumer : ConsumerHandle} {found : Consumer}
    (h : broker.openConsumer? consumer = .ok found) :
    broker.consumers[consumer.index]? = some found ∧ found.closed = false := by
  grind [openConsumer?]

/-- A producer that is open, by its position. -/
theorem openProducer?_eq_ok {broker : Broker} {handle : ProducerHandle} {found : Producer}
    (h : broker.openProducer? handle = .ok found) :
    broker.producers[handle.index]? = some found ∧ found.closed = false := by
  grind [openProducer?]

/-! ## Receiving -/

/-- The consumer of a receive and its session are open. -/
theorem receiver?_eq_some {broker : Broker} {consumer : ConsumerHandle} {found : Consumer}
    {session : Session} (h : broker.receiver? consumer = some (found, session)) :
    broker.consumers[consumer.index]? = some found ∧ found.closed = false ∧
      broker.sessions[found.session]? = some session ∧ session.closed = false := by
  unfold receiver? at h
  cases hc : broker.openConsumer? consumer with
  | error => simp [hc] at h
  | ok other =>
    cases hs : broker.openSession? other.session with
    | error => simp [hc, hs] at h
    | ok another =>
      simp only [hc, hs] at h
      split at h
      · cases h
      · split at h
        · obtain ⟨rfl, rfl⟩ : other = found ∧ another = session := by simpa using h
          obtain ⟨hconsumer, hopen⟩ := openConsumer?_eq_ok hc
          exact ⟨hconsumer, hopen, openSession?_eq_ok hs⟩
        · cases h

/-- A consumer takes messages only on a connection that is started. -/
theorem isStarted_of_receiver? {broker : Broker} {consumer : ConsumerHandle} {found : Consumer}
    {session : Session} (h : broker.receiver? consumer = some (found, session)) :
    broker.isStarted session.connection = true := by
  unfold receiver? at h
  split at h
  · cases h
  · split at h
    · cases h
    · split at h
      · cases h
      · split at h
        · rename_i hstarted
          obtain ⟨-, rfl⟩ := Prod.mk.inj (Option.some.inj h)
          exact hstarted
        · cases h

/-- What a consumer takes is the next message of its queue or buffer. -/
theorem take_fst (broker : Broker) (now : Int64) (index : Nat) (consumer : Consumer) :
    (broker.take now index consumer).1 = broker.contents.next? now consumer := by
  unfold take Contents.next? Contents.source
  cases consumer.destination with
  | queue name => exact takeWaiting_fst name now broker.waiting
  | topic name => simp [takeBuffered_eq]

theorem contents_take (broker : Broker) (now : Int64) (index : Nat) (consumer : Consumer) :
    (broker.take now index consumer).2.contents =
      broker.contents.withoutTaken now index consumer := by
  unfold take Contents.withoutTaken
  cases consumer.destination <;> rfl

/-- What a consumer takes leaves the sessions as they are. -/
theorem sessions_take (broker : Broker) (now : Int64) (index : Nat) (consumer : Consumer) :
    (broker.take now index consumer).2.sessions = broker.sessions := by
  unfold take
  cases consumer.destination <;> rfl

/-- The broker when a session was given a message of a consumer, if there is one: in client mode it
holds what has an identifier. -/
def keep (broker : Broker) (consumer : Consumer) (session : Session) : Option Message → Broker
  | some message =>
    match session.mode, message.id with
    | .client, some id =>
      broker.hold consumer.session session ⟨id, consumer.destination, message⟩
    | _, _ => broker
  | none => broker

/-- A session is given nothing, or holds one more delivery. -/
theorem keep_cases (broker : Broker) (consumer : Consumer) (session : Session)
    (next : Option Message) : broker.keep consumer session next = broker ∨
      ∃ delivery, broker.keep consumer session next =
        broker.hold consumer.session session delivery := by
  unfold keep
  split
  · split
    · exact .inr ⟨_, rfl⟩
    · exact .inl rfl
  · exact .inl rfl

/-- A session keeps nothing of a message without an identifier. -/
theorem keep_of_anonymous {broker : Broker} {consumer : Consumer} {session : Session}
    {next : Option Message} (anonymous : next.bind (·.id) = none) :
    broker.keep consumer session next = broker := by
  cases next with
  | none => rfl
  | some message =>
    have hid : message.id = none := anonymous
    cases hmode : session.mode <;> simp only [keep, hmode, hid]

@[simp]
theorem contents_hold (broker : Broker) (index : Nat) (session : Session) (delivery : Delivery) :
    (broker.hold index session delivery).contents =
      broker.contents.hold index session delivery := rfl

theorem contents_keep (broker : Broker) (consumer : Consumer) (session : Session)
    (next : Option Message) : (broker.keep consumer session next).contents =
      broker.contents.keep consumer session next := by
  cases next with
  | none => rfl
  | some message =>
    cases hmode : session.mode <;> cases hid : message.id <;>
      simp only [keep, Contents.keep, hmode, hid, contents_hold]

/-- A receive that may take a message answers with the next one, which the session keeps. -/
theorem receive_of_receiver?_eq_some {broker : Broker} (now : Int64) {consumer : ConsumerHandle}
    {found : Consumer} {session : Session}
    (h : broker.receiver? consumer = some (found, session)) :
    broker.receive now consumer =
      (.ok (broker.contents.next? now found),
        (broker.take now consumer.index found).2.keep found session
          (broker.contents.next? now found)) := by
  rw [← take_fst broker now consumer.index found]
  unfold receiver? at h
  unfold receive
  cases hc : broker.openConsumer? consumer with
  | error => simp [hc] at h
  | ok other =>
    cases hs : broker.openSession? other.session with
    | error => simp [hc, hs] at h
    | ok another =>
      simp only [hc, hs] at h ⊢
      split at h
      · cases h
      · rename_i hdelivers
        split at h
        · rename_i hstarted
          obtain ⟨rfl, rfl⟩ : other = found ∧ another = session := by simpa using h
          rw [if_neg hdelivers, if_pos hstarted]
          generalize broker.take now consumer.index other = result
          obtain ⟨next, rest⟩ := result
          cases next with
          | none => rfl
          | some message =>
            cases hmode : another.mode <;> cases hid : message.id <;>
              simp only [keep, hmode, hid] <;> rfl
        · cases h

/-- A receive that may not take a message is refused or finds its connection not started. -/
theorem receive_refused_or_stopped {broker : Broker} (now : Int64) {consumer : ConsumerHandle}
    (h : broker.receiver? consumer = none) :
    (∃ error, broker.receive now consumer = (.error error, broker)) ∨
      broker.receive now consumer = (.ok none, broker) ∧
        ∃ found session, broker.consumers[consumer.index]? = some found ∧
          broker.sessions[found.session]? = some session ∧
          broker.isStarted session.connection = false := by
  unfold receiver? at h
  unfold receive
  cases hc : broker.openConsumer? consumer with
  | error => exact .inl ⟨_, rfl⟩
  | ok found =>
    cases hs : broker.openSession? found.session with
    | error => exact .inl ⟨_, by simp only [hs]; rfl⟩
    | ok session =>
      simp only [hc, hs] at h ⊢
      split
      · exact .inl ⟨_, rfl⟩
      · rename_i hdelivers
        rw [if_neg hdelivers] at h
        split at h
        · cases h
        · rename_i hstarted
          rw [if_neg hstarted]
          exact .inr ⟨rfl, found, session, (openConsumer?_eq_ok hc).1, (openSession?_eq_ok hs).1,
            by simpa using hstarted⟩

/-- A receive that may not take a message changes nothing and gives none. -/
theorem receive_of_receiver?_eq_none {broker : Broker} (now : Int64) {consumer : ConsumerHandle}
    (h : broker.receiver? consumer = none) : (broker.receive now consumer).2 = broker ∧
      ∀ message, (broker.receive now consumer).1 ≠ .ok (some message) := by
  rcases receive_refused_or_stopped now h with ⟨error, hrefused⟩ | ⟨hstopped, -⟩
  · rw [hrefused]
    exact ⟨rfl, fun _ => nofun⟩
  · rw [hstopped]
    exact ⟨rfl, fun _ => nofun⟩

/-- A receive that may take a message answers with the next one. -/
theorem receive_fst {broker : Broker} (now : Int64) {consumer : ConsumerHandle} {found : Consumer}
    {session : Session} (h : broker.receiver? consumer = some (found, session)) :
    (broker.receive now consumer).1 = .ok (broker.contents.next? now found) := by
  rw [receive_of_receiver?_eq_some now h]

/-- A receive that may take a message takes the next one, which the session keeps. -/
theorem contents_receive {broker : Broker} (now : Int64) {handle : ConsumerHandle}
    {consumer : Consumer} {session : Session}
    (h : broker.receiver? handle = some (consumer, session)) :
    (broker.receive now handle).2.contents =
      (broker.contents.withoutTaken now handle.index consumer).keep consumer session
        (broker.contents.next? now consumer) := by
  rw [receive_of_receiver?_eq_some now h, contents_keep, contents_take]

/-- What departs in a receive that may take a message. -/
theorem departures_receive {broker : Broker} {now : Int64} {handle : ConsumerHandle}
    {consumer : Consumer} {session : Session}
    (h : broker.receiver? handle = some (consumer, session)) :
    broker.departures now (.request (.receive handle)) =
      broker.contents.departing now consumer session := by
  simp only [departures, h]
  rfl

/-- Nothing departs in a receive that may not take a message. -/
theorem departures_receive_of_none {broker : Broker} {now : Int64} {handle : ConsumerHandle}
    (h : broker.receiver? handle = none) :
    broker.departures now (.request (.receive handle)) = [] := by
  simp only [departures, h]

/-! ## What is granted -/

/-- What a broker grants, with its answer and what it is like afterwards. There is one case for each
request, and another one for an acknowledgment in auto mode and for a receive on a connection that
is not started, which leave the broker as it is. -/
inductive Granted (now : Int64) (broker : Broker) :
    (request : BrokerRequest) → request.Answer → Broker → Prop where
  | connect (credentials : Option Credentials) (welcome : broker.admission credentials = .ok ())
    (available : broker.unavailable = false) :
    Granted now broker (.connect credentials) ⟨broker.connections.length⟩
      { broker with
        resourceCount := broker.resourceCount + 1
        connections := broker.connections ++ [{ id := broker.resourceCount + 1 }] }
  | startConnection (handle : ConnectionHandle) (connection : Connection)
    (found : broker.connections[handle.index]? = some connection)
    (isOpen : connection.closed = false) :
    Granted now broker (.startConnection handle) ()
      { broker with
        connections := broker.connections.set handle.index { connection with started := true } }
  | stopConnection (handle : ConnectionHandle) (connection : Connection)
    (found : broker.connections[handle.index]? = some connection)
    (isOpen : connection.closed = false) :
    Granted now broker (.stopConnection handle) ()
      { broker with
        connections := broker.connections.set handle.index { connection with started := false } }
  | closeConnection (handle : ConnectionHandle) (connection : Connection)
    (found : broker.connections[handle.index]? = some connection)
    (isOpen : connection.closed = false) :
    Granted now broker (.closeConnection handle) ()
      { broker with
        connections := broker.connections.set handle.index
          { connection with started := false, closed := true }
        releases := broker.releases ++ [.connection] }
  | createSession (handle : ConnectionHandle) (mode : AcknowledgeMode) (connection : Connection)
    (found : broker.connections[handle.index]? = some connection)
    (isOpen : connection.closed = false) :
    Granted now broker (.createSession handle mode)
      ⟨broker.sessions.length, sessionIdOf connection.id (broker.resourceCount + 1), mode⟩
      { broker with
        resourceCount := broker.resourceCount + 1
        sessions := broker.sessions ++
          [{ id := sessionIdOf connection.id (broker.resourceCount + 1)
             connection := handle.index
             mode := mode }] }
  | resolve (handle : SessionHandle) (destination : Destination)
    (named : Text.isBlank destination.name = false) :
    Granted now broker (.resolve handle destination) destination broker
  | createConsumer (handle : SessionHandle) (destination : Destination) (session : Session)
    (found : broker.sessions[handle.index]? = some session) (isOpen : session.closed = false) :
    Granted now broker (.createConsumer handle destination) ⟨broker.consumers.length⟩
      { broker with
        resourceCount := broker.resourceCount + 1
        consumers := broker.consumers ++
          [{ destination := destination, session := handle.index }] }
  | createProducer (handle : SessionHandle) (bound : Option Destination) (session : Session)
    (found : broker.sessions[handle.index]? = some session) (isOpen : session.closed = false) :
    Granted now broker (.createProducer handle bound) ⟨broker.producers.length⟩
      { broker with
        producers := broker.producers ++ [{ bound := bound, session := handle.index }] }
  | acknowledgeInAuto (handle : SessionHandle) (id : MessageId) (session : Session)
    (found : broker.sessions[handle.index]? = some session) (isOpen : session.closed = false)
    (auto : session.mode = .auto) : Granted now broker (.acknowledge handle id) () broker
  | acknowledge (handle : SessionHandle) (id : MessageId) (session : Session)
    (found : broker.sessions[handle.index]? = some session) (isOpen : session.closed = false)
    (client : session.mode = .client) (held : ∃ delivery ∈ session.held, delivery.id = id) :
    Granted now broker (.acknowledge handle id) ()
      { broker with
        sessions := broker.sessions.set handle.index
          { session with held := session.held.filter (·.id ≠ id) }
        acknowledged := broker.acknowledged ++ [id] }
  | closeSession (handle : SessionHandle) (session : Session)
    (found : broker.sessions[handle.index]? = some session) (isOpen : session.closed = false) :
    Granted now broker (.closeSession handle) ()
      { broker with
        waiting := session.held.filterMap Delivery.requeued ++ broker.waiting
        sessions := broker.sessions.set handle.index { session with closed := true, held := [] }
        releases := broker.releases ++ [.session] }
  | receiveStopped (handle : ConsumerHandle) (consumer : Consumer) (session : Session)
    (found : broker.consumers[handle.index]? = some consumer)
    (of : broker.sessions[consumer.session]? = some session)
    (stopped : broker.isStarted session.connection = false) :
    Granted now broker (.receive handle) none broker
  | receive (handle : ConsumerHandle) (consumer : Consumer) (session : Session)
    (receiver : broker.receiver? handle = some (consumer, session)) :
    Granted now broker (.receive handle) (broker.contents.next? now consumer)
      ((broker.take now handle.index consumer).2.keep consumer session
        (broker.contents.next? now consumer))
  | closeConsumer (handle : ConsumerHandle) (consumer : Consumer)
    (found : broker.consumers[handle.index]? = some consumer) (isOpen : consumer.closed = false) :
    Granted now broker (.closeConsumer handle) ()
      { broker with
        consumers := broker.consumers.set handle.index
          { consumer with closed := true, buffer := [] }
        releases := broker.releases ++ [.consumer] }
  | send (handle : ProducerHandle) (destination : Destination) (message : Message)
    (producer : Producer) (found : broker.producers[handle.index]? = some producer)
    (isOpen : producer.closed = false) :
    Granted now broker (.send handle destination message) (messageIdOf (broker.messageCount + 1))
      ({ broker with messageCount := broker.messageCount + 1 }.deliver destination
        { message.stamped now with
          id := some (messageIdOf (broker.messageCount + 1))
          destination := some destination
          redelivered := false })
  | closeProducer (handle : ProducerHandle) (producer : Producer)
    (found : broker.producers[handle.index]? = some producer) (isOpen : producer.closed = false) :
    Granted now broker (.closeProducer handle) ()
      { broker with
        producers := broker.producers.set handle.index { producer with closed := true }
        releases := broker.releases ++ [.producer] }
  | queueDepth (queue : String) (available : broker.unavailable = false) :
    Granted now broker (.queueDepth queue) (broker.depth queue) broker

/-- How a broker replies: it refuses a request and stays as it is, or grants it. -/
inductive Replies (now : Int64) (broker : Broker) (request : BrokerRequest) :
    Reply request.Answer → Prop where
  | refused (error : BrokerError) : Replies now broker request (.error error, broker)
  | granted {answer : request.Answer} {after : Broker}
    (h : broker.Granted now request answer after) :
    Replies now broker request (.ok answer, after)

/-- A connection is given to a client that is welcome, if the broker is available. -/
theorem replies_connect (broker : Broker) (now : Int64) (credentials : Option Credentials) :
    broker.Replies now (.connect credentials) (broker.connect credentials) := by
  unfold connect
  split
  · exact .refused _
  · rename_i welcome
    split
    · exact .refused _
    · rename_i available
      exact .granted (.connect _ welcome (by simpa using available))

/-- A connection that is open is started. -/
theorem replies_startConnection (broker : Broker) (now : Int64) (handle : ConnectionHandle) :
    broker.Replies now (.startConnection handle) (broker.startConnection handle) := by
  unfold startConnection changeConnection
  split
  · exact .refused _
  · rename_i found hfound
    obtain ⟨hat, hopen⟩ := openConnection?_eq_ok hfound
    exact .granted (.startConnection _ found hat hopen)

/-- A connection that is open is stopped. -/
theorem replies_stopConnection (broker : Broker) (now : Int64) (handle : ConnectionHandle) :
    broker.Replies now (.stopConnection handle) (broker.stopConnection handle) := by
  unfold stopConnection changeConnection
  split
  · exact .refused _
  · rename_i found hfound
    obtain ⟨hat, hopen⟩ := openConnection?_eq_ok hfound
    exact .granted (.stopConnection _ found hat hopen)

/-- A connection that is open is closed. -/
theorem replies_closeConnection (broker : Broker) (now : Int64) (handle : ConnectionHandle) :
    broker.Replies now (.closeConnection handle) (broker.closeConnection handle) := by
  unfold closeConnection
  split
  · exact .refused _
  · rename_i found hfound
    obtain ⟨hat, hopen⟩ := openConnection?_eq_ok hfound
    exact .granted (.closeConnection _ found hat hopen)

/-- A session is opened on a connection that is open. -/
theorem replies_createSession (broker : Broker) (now : Int64) (handle : ConnectionHandle)
    (mode : AcknowledgeMode) :
    broker.Replies now (.createSession handle mode) (broker.createSession handle mode) := by
  unfold createSession
  split
  · exact .refused _
  · rename_i found hfound
    obtain ⟨hat, hopen⟩ := openConnection?_eq_ok hfound
    exact .granted (.createSession _ mode found hat hopen)

/-- A destination is resolved if it has a name. -/
theorem replies_resolve (broker : Broker) (now : Int64) (handle : SessionHandle)
    (destination : Destination) :
    broker.Replies now (.resolve handle destination) (broker.resolve destination) := by
  unfold resolve
  split
  · exact .refused _
  · rename_i named
    exact .granted (.resolve _ _ (by simpa using named))

/-- A consumer is created in a session that is open. -/
theorem replies_createConsumer (broker : Broker) (now : Int64) (handle : SessionHandle)
    (destination : Destination) :
    broker.Replies now (.createConsumer handle destination) (broker.createConsumer handle destination) := by
  unfold createConsumer
  split
  · exact .refused _
  · rename_i found hfound
    obtain ⟨hat, hopen⟩ := openSession?_eq_ok hfound
    exact .granted (.createConsumer _ destination found hat hopen)

/-- A producer is created in a session that is open. -/
theorem replies_createProducer (broker : Broker) (now : Int64) (handle : SessionHandle)
    (bound : Option Destination) :
    broker.Replies now (.createProducer handle bound) (broker.createProducer handle bound) := by
  unfold createProducer
  split
  · exact .refused _
  · rename_i found hfound
    obtain ⟨hat, hopen⟩ := openSession?_eq_ok hfound
    exact .granted (.createProducer _ bound found hat hopen)

/-- A session in client mode acknowledges what it holds, and one in auto mode anything. -/
theorem replies_acknowledge (broker : Broker) (now : Int64) (handle : SessionHandle)
    (id : MessageId) :
    broker.Replies now (.acknowledge handle id) (broker.acknowledge handle id) := by
  unfold acknowledge
  split
  · exact .refused _
  · rename_i found hfound
    obtain ⟨hat, hopen⟩ := openSession?_eq_ok hfound
    split
    · rename_i auto
      exact .granted (.acknowledgeInAuto _ id found hat hopen auto)
    · rename_i client
      split
      · rename_i held
        exact .granted (.acknowledge _ id found hat hopen client (by simpa using held))
      · exact .refused _

/-- A session that is open is closed, unless the broker fails to. -/
theorem replies_closeSession (broker : Broker) (now : Int64) (handle : SessionHandle) :
    broker.Replies now (.closeSession handle) (broker.closeSession handle) := by
  unfold closeSession
  split
  · exact .refused _
  · split
    · exact .refused _
    · rename_i found hfound
      obtain ⟨hat, hopen⟩ := openSession?_eq_ok hfound
      exact .granted (.closeSession _ found hat hopen)

/-- A consumer takes its next message, or nothing while its connection is not started. -/
theorem replies_receive (broker : Broker) (now : Int64) (handle : ConsumerHandle) :
    broker.Replies now (.receive handle) (broker.receive now handle) := by
  cases hreceiver : broker.receiver? handle with
  | none =>
    rcases receive_refused_or_stopped now hreceiver with
      ⟨error, hrefused⟩ | ⟨hnothing, consumer, session, hconsumer, hsession, hstopped⟩
    · rw [hrefused]
      exact .refused error
    · rw [hnothing]
      exact .granted (.receiveStopped _ consumer session hconsumer hsession hstopped)
  | some pair =>
    rw [receive_of_receiver?_eq_some now hreceiver]
    exact .granted (.receive _ pair.1 pair.2 hreceiver)

/-- A consumer that is open is closed. -/
theorem replies_closeConsumer (broker : Broker) (now : Int64) (handle : ConsumerHandle) :
    broker.Replies now (.closeConsumer handle) (broker.closeConsumer handle) := by
  unfold closeConsumer
  split
  · exact .refused _
  · rename_i found hfound
    obtain ⟨hat, hopen⟩ := openConsumer?_eq_ok hfound
    exact .granted (.closeConsumer _ found hat hopen)

/-- A message that is sent by an open producer is accepted, unless the broker rejects it. -/
theorem replies_send (broker : Broker) (now : Int64) (handle : ProducerHandle)
    (destination : Destination) (message : Message) :
    broker.Replies now (.send handle destination message)
      (broker.send now handle destination message) := by
  unfold send
  split
  · exact .refused _
  · rename_i found hfound
    obtain ⟨hat, hopen⟩ := openProducer?_eq_ok hfound
    split
    · exact .refused _
    · split
      · exact .refused _
      · exact .granted (.send _ destination message found hat hopen)

/-- A producer that is open is closed. -/
theorem replies_closeProducer (broker : Broker) (now : Int64) (handle : ProducerHandle) :
    broker.Replies now (.closeProducer handle) (broker.closeProducer handle) := by
  unfold closeProducer
  split
  · exact .refused _
  · rename_i found hfound
    obtain ⟨hat, hopen⟩ := openProducer?_eq_ok hfound
    exact .granted (.closeProducer _ found hat hopen)

/-- The messages on a queue are counted if the broker is available. -/
theorem replies_queueDepth (broker : Broker) (now : Int64) (queue : String) :
    broker.Replies now (.queueDepth queue) (broker.queueDepth queue) := by
  unfold queueDepth
  split
  · exact .refused _
  · rename_i available
    exact .granted (.queueDepth queue (by simpa using available))

/-- Every request is refused without a trace, or granted. -/
theorem perform_replies (broker : Broker) (now : Int64) (request : BrokerRequest) :
    broker.Replies now request (broker.perform now request) := by
  cases request with
  | connect credentials => exact broker.replies_connect now credentials
  | startConnection handle => exact broker.replies_startConnection now handle
  | stopConnection handle => exact broker.replies_stopConnection now handle
  | closeConnection handle => exact broker.replies_closeConnection now handle
  | createSession handle mode => exact broker.replies_createSession now handle mode
  | resolve handle destination => exact broker.replies_resolve now handle destination
  | createConsumer handle destination => exact broker.replies_createConsumer now handle destination
  | createProducer handle bound => exact broker.replies_createProducer now handle bound
  | acknowledge handle id => exact broker.replies_acknowledge now handle id
  | closeSession handle => exact broker.replies_closeSession now handle
  | receive handle => exact broker.replies_receive now handle
  | closeConsumer handle => exact broker.replies_closeConsumer now handle
  | send handle destination message => exact broker.replies_send now handle destination message
  | closeProducer handle => exact broker.replies_closeProducer now handle
  | queueDepth queue => exact broker.replies_queueDepth now queue

/-- What is so of a broker, and of what it is like after it granted a request, is so after the
request. -/
@[elab_as_elim]
theorem perform_snd {broker : Broker} {now : Int64} {request : BrokerRequest}
    {motive : Broker → Prop} (refused : motive broker)
    (granted : ∀ answer after, broker.Granted now request answer after → motive after) :
    motive (broker.perform now request).2 := by
  have hreplies := broker.perform_replies now request
  generalize broker.perform now request = reply at hreplies
  cases hreplies with
  | refused => exact refused
  | granted h => exact granted _ _ h

/-- A broker that refuses a request is as it was. -/
theorem perform_of_refused {broker : Broker} {now : Int64} {request : BrokerRequest}
    {error : BrokerError} (h : (broker.perform now request).1 = .error error) :
    (broker.perform now request).2 = broker := by
  have hreplies := broker.perform_replies now request
  generalize broker.perform now request = reply at h hreplies
  cases hreplies with
  | refused => rfl
  | granted => cases h

/-- What is answered was granted. -/
theorem granted_of_perform {broker after : Broker} {now : Int64} {request : BrokerRequest}
    {answer : request.Answer} (h : broker.perform now request = (.ok answer, after)) :
    broker.Granted now request answer after := by
  have hreplies := broker.perform_replies now request
  rw [h] at hreplies
  cases hreplies with
  | granted hgranted => exact hgranted

/-! ## Contents after an operation -/

@[simp]
theorem contents_deliver (broker : Broker) (destination : Destination) (message : Message) :
    (broker.deliver destination message).contents =
      broker.contents.accept destination message := by
  cases destination with
  | queue name =>
    simp [deliver, contents, Contents.accept, Message.queuedFor, Consumer.offered,
      Destination.isTopic]
  | topic name =>
    simp [deliver, contents, Contents.accept, Message.queuedFor, Consumer.offered,
      Destination.isTopic]

/-- A request that concerns no messages leaves the contents alone. -/
theorem contents_perform_of_quiet (broker : Broker) (now : Int64) {request : BrokerRequest}
    (h : match request with
      | .createSession _ _ | .createConsumer _ _ | .acknowledge _ _ | .closeSession _
      | .receive _ | .closeConsumer _ | .send _ _ _ => False
      | _ => True) :
    (broker.perform now request).2.contents = broker.contents := by
  refine perform_snd rfl ?_
  intro _ _ hgranted
  cases hgranted <;> first | rfl | exact h.elim

/-- A receive that may take a message is a step through its session. -/
theorem step_receive {broker : Broker} (now : Int64) {consumer : ConsumerHandle} {found : Consumer}
    {session : Session} (h : broker.receiver? consumer = some (found, session)) :
    Contents.Step now broker.contents (some found.session) (broker.taken now found session)
      (broker.receive now consumer).2.contents := by
  obtain ⟨hc, -, hs, hopen⟩ := receiver?_eq_some h
  rw [contents_receive now h]
  exact .take hc hs hopen

/-- A request other than a receive is a step without departures. -/
theorem step_perform (broker : Broker) (now : Int64) {request : BrokerRequest}
    (h : ∀ consumer, request ≠ .receive consumer) :
    ∃ through, (∀ index, through = some index → broker.touched? (.request request) = some index) ∧
      Contents.Step now broker.contents through [] (broker.perform now request).2.contents := by
  refine perform_snd ⟨none, nofun, .still⟩ ?_
  intro _ _ hgranted
  cases hgranted with
  | connect | startConnection | stopConnection | closeConnection | resolve | createProducer
  | acknowledgeInAuto | closeProducer | queueDepth => exact ⟨none, nofun, .still⟩
  | createSession => exact ⟨none, nofun, .openSession _ rfl⟩
  | createConsumer => exact ⟨none, nofun, .openConsumer _ rfl⟩
  | closeConsumer handle consumer found =>
    exact ⟨none, nofun, .closeConsumer handle.index consumer found⟩
  | send =>
    refine ⟨none, nofun, ?_⟩
    rw [contents_deliver]
    exact .accept _ _ rfl
  | acknowledge handle id session found isOpen client held =>
    exact ⟨some handle.index, fun _ h => h,
      .acknowledge handle.index session id found client isOpen held⟩
  | closeSession handle session found =>
    exact ⟨some handle.index, fun _ h => h, .closeSession handle.index session found⟩
  | receive | receiveStopped => exact absurd rfl (h _)

/-- An operation is a step, through the session whose deliveries it changes if through any. -/
theorem operate_step (broker : Broker) (now : Int64) (operation : Operation) :
    ∃ through, (∀ index, through = some index → broker.touched? operation = some index) ∧
      Contents.Step now broker.contents through (broker.departures now operation)
        (broker.operate now operation).contents := by
  cases operation with
  | publish destination message =>
    refine ⟨none, by simp, ?_⟩
    cases hid : message.id with
    | some id =>
      simp only [operate, publish, hid, contents_deliver]
      exact .accept _ _ rfl
    | none =>
      simp only [operate, publish, hid, contents_deliver]
      exact .accept _ _ rfl
  | reject destination => exact ⟨none, by simp, .still⟩
  | turn switch on =>
    refine ⟨none, by simp, ?_⟩
    cases switch <;> exact .still
  | request request =>
    cases request with
    | receive consumer =>
      simp only [operate, perform, departures]
      cases hr : broker.receiver? consumer with
      | none =>
        rw [(receive_of_receiver?_eq_none now hr).1]
        exact ⟨none, by simp, .still⟩
      | some pair =>
        obtain ⟨found, session⟩ := pair
        obtain ⟨hc, -, -, -⟩ := receiver?_eq_some hr
        refine ⟨some found.session, fun _ h => by simpa [touched?, hc] using h, ?_⟩
        exact step_receive now hr
    | _ => exact step_perform broker now (fun _ => nofun)

/-! ## Books after a request -/

/-- What a broker keeps besides the sessions, the consumers and what waits. -/
structure Books where
  connections : List Connection
  producers : List Producer
  rejected : List Destination
  accepted : List (Destination × Message)
  messageCount : Nat
  acknowledged : List MessageId

/-- The books of a broker. -/
def books (broker : Broker) : Books where
  connections := broker.connections
  producers := broker.producers
  rejected := broker.rejected
  accepted := broker.accepted
  messageCount := broker.messageCount
  acknowledged := broker.acknowledged

/-- The books as they were before a request, with what the request may change as it is after. -/
def Books.changedBy (before after : Books) : BrokerRequest → Books
  | .connect _ | .startConnection _ | .stopConnection _ | .closeConnection _ =>
    { before with connections := after.connections }
  | .createProducer _ _ | .closeProducer _ => { before with producers := after.producers }
  | .send _ _ _ =>
    { before with accepted := after.accepted, messageCount := after.messageCount }
  | .acknowledge _ _ => { before with acknowledged := after.acknowledged }
  | _ => before

/-- What is delivered is accepted, and the other books stay as they are. -/
theorem books_deliver (broker : Broker) (destination : Destination) (message : Message) :
    (broker.deliver destination message).books =
      { broker.books with accepted := broker.accepted ++ [(destination, message)] } := by
  cases destination <;> rfl

/-- What a consumer takes is in no book. -/
theorem books_take (broker : Broker) (now : Int64) (index : Nat) (consumer : Consumer) :
    (broker.take now index consumer).2.books = broker.books := by
  unfold take
  cases consumer.destination <;> rfl

/-- What a session keeps is in no book. -/
theorem books_keep (broker : Broker) (consumer : Consumer) (session : Session)
    (next : Option Message) : (broker.keep consumer session next).books = broker.books := by
  rcases broker.keep_cases consumer session next with hkeep | ⟨delivery, hkeep⟩
  · rw [hkeep]
  · rw [hkeep]
    rfl

/-- Books that stay as they are change as any request changes them. -/
theorem Books.changedBy_self (books : Books) (request : BrokerRequest) :
    books.changedBy books request = books := by
  cases request <;> rfl

/-- A request changes no books but its own. -/
theorem books_perform (broker : Broker) (now : Int64) (request : BrokerRequest) :
    (broker.perform now request).2.books =
      broker.books.changedBy (broker.perform now request).2.books request := by
  refine perform_snd (broker.books.changedBy_self request).symm ?_
  intro _ _ hgranted
  cases hgranted with
  | send =>
    rw [books_deliver]
    rfl
  | receive => rw [books_keep, books_take, Books.changedBy_self]
  | _ => rfl

end Broker

end BrokerConnector
