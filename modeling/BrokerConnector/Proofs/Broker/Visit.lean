import BrokerConnector.Proofs.Broker.Request

/-!
# A client's visit to a queue

A client opens a connection, a session and a consumer of a queue, takes messages from the queue,
acknowledges them and releases what it opened, while others do nothing but publish. `Visit` is what
it opened and what it has done so far, and `Broker.Shows` says that a broker is as it was before,
but for the visit and for what was accepted since. What is published is no part of a visit, so it
leaves what a broker shows as it is (`Shows.publish`).

Every request of such a client is granted by a broker that serves it (`Broker.Welcomes`), except for
the acknowledgment of a message that its session does not hold. There is one lemma for each request.
-/

namespace BrokerConnector

/-- What a client opened at a broker, and what it has done to a queue there. -/
structure Visit where
  connections : List Connection := []
  sessions : List Session := []
  consumers : List Consumer := []
  /-- The messages that left the queue, in order. -/
  gone : List Message := []
  /-- The messages that were put back in front of the queue. -/
  back : List Message := []
  acknowledged : List MessageId := []
  released : List ResourceKind := []

/-- What a client at work has opened: a connection that is started, a session on it that holds
deliveries, and a consumer of the queue. -/
structure Visit.Works (before : Broker) (name : String) (held : List Delivery) (visit : Visit) :
    Prop where
  connections : ∃ id, visit.connections = [{ id := id, started := true }]
  sessions : ∃ id, visit.sessions =
    [{ id := id, connection := before.connections.length, mode := .client, held := held }]
  consumers : visit.consumers = [{ destination := .queue name, session := before.sessions.length }]

namespace Broker

/-- All messages that waited on a queue since a broker was as `before`: what waited then, and what
was accepted for it after that. -/
def stock (before broker : Broker) (name : String) : List Message :=
  before.queue name ++
    (broker.published (.queue name)).drop (before.published (.queue name)).length

@[simp]
theorem stock_self (broker : Broker) (name : String) :
    broker.stock broker name = broker.queue name := by
  rw [stock, List.drop_length, List.append_nil]

/-- Nothing keeps a broker from granting what a client with these credentials asks for. -/
structure Welcomes (credentials : Option Credentials) (broker : Broker) : Prop where
  admits : broker.admission credentials = .ok ()
  isAvailable : broker.unavailable = false
  delivers : broker.failingReceive = false
  closesSessions : broker.failingSessionClose = false

/-- What decides whether a broker serves a client. -/
def terms (broker : Broker) : Option Credentials × Bool × Bool × Bool :=
  (broker.credentials, broker.unavailable, broker.failingReceive, broker.failingSessionClose)

/-- A broker serves a client on the same terms. -/
theorem Welcomes.of_terms {credentials : Option Credentials} {broker after : Broker}
    (h : broker.Welcomes credentials) (hterms : after.terms = broker.terms) :
    after.Welcomes credentials := by
  simp only [terms, Prod.mk.injEq] at hterms
  obtain ⟨hcredentials, hunavailable, hreceive, hclose⟩ := hterms
  constructor
  · have hwelcomes := h.admits
    unfold admission at hwelcomes ⊢
    rwa [hcredentials]
  · exact hunavailable.trans h.isAvailable
  · exact hreceive.trans h.delivers
  · exact hclose.trans h.closesSessions

/-- A broker is as it was before, but for what a client did in its visit to a queue and for what was
accepted since. What waits on the queue is what was put back and the rest of its stock. -/
structure Shows (before : Broker) (name : String) (visit : Visit) (broker : Broker) : Prop where
  connections : broker.connections = before.connections ++ visit.connections
  sessions : broker.sessions = before.sessions ++ visit.sessions
  consumers : ∃ others, others.length = before.consumers.length ∧
    broker.consumers = others ++ visit.consumers
  bound : ∀ consumer ∈ visit.consumers, consumer.destination = .queue name
  published : before.published (.queue name) <+: broker.published (.queue name)
  queue : ∃ rest, broker.queue name = visit.back ++ rest ∧
    before.stock broker name = visit.gone ++ rest
  identified : ∀ message ∈ before.stock broker name, message.id.isSome
  acknowledged : broker.acknowledged = before.acknowledged ++ visit.acknowledged
  releases : broker.releases = before.releases ++ visit.released
  terms : broker.terms = before.terms

variable {before broker : Broker} {name : String} {visit : Visit} {now : Int64}

/-- A broker that was not visited shows nothing. -/
theorem shows_self (hidentified : ∀ message ∈ before.queue name, message.id.isSome) :
    before.Shows name {} before where
  connections := (List.append_nil _).symm
  sessions := (List.append_nil _).symm
  consumers := ⟨before.consumers, rfl, (List.append_nil _).symm⟩
  bound := by simp
  published := List.prefix_rfl
  queue := ⟨before.queue name, rfl, by simp⟩
  identified := by simpa using hidentified
  acknowledged := (List.append_nil _).symm
  releases := (List.append_nil _).symm
  terms := rfl

/-! ## What others publish -/

/-- A message that is published is accepted under an identifier. -/
theorem exists_deliver_of_publish (broker : Broker) (now : Int64) (destination : Destination)
    (message : Message) : ∃ (count : Nat) (accepted : Message), accepted.id.isSome ∧
      (broker.publish now destination message).2 =
        { broker with messageCount := count }.deliver destination accepted := by
  unfold publish
  cases message.id with
  | some id => exact ⟨broker.messageCount, _, rfl, rfl⟩
  | none => exact ⟨_, _, rfl, rfl⟩

/-- What is accepted for a queue is published for it and waits on it. -/
theorem queue_deliver (broker : Broker) (destination : Destination) (message : Message)
    (name : String) :
    let new := if destination = .queue name then [message] else []
    (broker.deliver destination message).published (.queue name) =
        broker.published (.queue name) ++ new ∧
      (broker.deliver destination message).queue name = broker.queue name ++ new := by
  cases destination with
  | topic other => simp [deliver, published, queue]
  | queue other =>
    by_cases ho : other = name
    · simp [deliver, published, queue, ho]
    · simp [deliver, published, queue, ho]

/-- What is published joins the stock. -/
theorem stock_of_published {after : Broker} {new : List Message}
    (hearlier : before.published (.queue name) <+: broker.published (.queue name))
    (hpublished : after.published (.queue name) = broker.published (.queue name) ++ new) :
    before.stock after name = before.stock broker name ++ new := by
  rw [stock, hpublished, List.drop_append_of_le_length hearlier.length_le, stock, List.append_assoc]

/-- Nobody publishes to the buffer of a consumer of a queue. -/
theorem exists_consumers_deliver {others mine : List Consumer} (broker : Broker)
    (destination : Destination) (message : Message)
    (consumers : broker.consumers = others ++ mine)
    (bound : ∀ consumer ∈ mine, consumer.destination = .queue name) :
    ∃ others', others'.length = others.length ∧
      (broker.deliver destination message).consumers = others' ++ mine := by
  cases destination with
  | queue other => exact ⟨others, rfl, consumers⟩
  | topic other =>
    simp only [deliver, consumers, List.map_append]
    refine ⟨_, List.length_map _, congrArg _ ?_⟩
    refine (List.map_congr_left fun consumer hconsumer => ?_).trans (List.map_id mine)
    simp [bound consumer hconsumer]

/-- What is accepted concerns neither connections nor sessions. -/
theorem steady_deliver (broker : Broker) (destination : Destination) (message : Message) :
    let after := broker.deliver destination message
    after.connections = broker.connections ∧ after.sessions = broker.sessions ∧
      after.acknowledged = broker.acknowledged ∧ after.releases = broker.releases ∧
      after.terms = broker.terms := by
  cases destination <;> exact ⟨rfl, rfl, rfl, rfl, rfl⟩

/-- What is published joins the stock of its queue and waits on it. -/
theorem Shows.publish (h : before.Shows name visit broker) (now : Int64)
    (destination : Destination) (message : Message) :
    before.Shows name visit (broker.publish now destination message).2 := by
  obtain ⟨count, accepted, hid, hpublish⟩ :=
    broker.exists_deliver_of_publish now destination message
  rw [hpublish]
  let stamped : Broker := { broker with messageCount := count }
  obtain ⟨hpublished, hqueue⟩ := stamped.queue_deliver destination accepted name
  obtain ⟨hconnections, hsessions, hacknowledged, hreleases, hterms⟩ :=
    stamped.steady_deliver destination accepted
  obtain ⟨others, hlength, hconsumers⟩ := h.consumers
  obtain ⟨others', hlength', hconsumers'⟩ :=
    stamped.exists_consumers_deliver destination accepted hconsumers h.bound
  obtain ⟨rest, hwaits, hstock⟩ := h.queue
  have hstock' := stock_of_published h.published hpublished
  have hnew : ∀ other ∈ if destination = .queue name then [accepted] else [], other.id.isSome := by
    split <;> simp [hid]
  generalize (if destination = .queue name then [accepted] else []) = new at *
  exact {
    connections := hconnections.trans h.connections
    sessions := hsessions.trans h.sessions
    consumers := ⟨others', hlength'.trans hlength, hconsumers'⟩
    bound := h.bound
    published := hpublished ▸ h.published.trans (List.prefix_append _ _)
    queue := ⟨rest ++ new, by rw [hqueue, ← List.append_assoc, ← hwaits]; rfl,
      by rw [hstock', hstock, List.append_assoc]⟩
    identified := by
      rw [hstock']
      exact fun other hother => (List.mem_append.1 hother).elim (h.identified other) (hnew other)
    acknowledged := hacknowledged.trans h.acknowledged
    releases := hreleases.trans h.releases
    terms := hterms.trans h.terms }

/-! ## What a client opens -/

/-- The last of a list is replaced. -/
theorem set_concat {β : Type} (earlier : List β) (old new : β) :
    (earlier ++ [old]).set earlier.length new = earlier ++ [new] := by
  simp

/-- A client that is welcome is given a connection. -/
theorem Shows.connect (h : before.Shows name visit broker) {credentials : Option Credentials}
    (hwelcomes : before.Welcomes credentials) (now : Int64)
    (hconnections : visit.connections = []) :
    ∃ (id : Nat) (after : Broker), broker.perform now (.connect credentials) =
        (.ok ⟨before.connections.length⟩, after) ∧
      before.Shows name { visit with connections := [{ id := id }] } after := by
  have hbroker := hwelcomes.of_terms h.terms
  have hlist : broker.connections = before.connections := by
    rw [h.connections, hconnections, List.append_nil]
  let id := broker.resourceCount + 1
  let after : Broker := { broker with
    resourceCount := id
    connections := broker.connections ++ [{ id := id }] }
  refine ⟨id, after, ?_, { h with connections := by rw [← hlist] }⟩
  rw [← hlist, perform, Broker.connect, hbroker.admits]
  exact if_neg (by simp [hbroker.isAvailable])

variable {connection : Connection} {session : Session} {consumer : Consumer}

/-- The connection of a client is open. -/
theorem Shows.openConnection? (h : before.Shows name visit broker)
    (hconnections : visit.connections = [connection]) (hopen : connection.closed = false) :
    broker.openConnection? ⟨before.connections.length⟩ = .ok connection := by
  have hlist := h.connections
  rw [hconnections] at hlist
  simp [Broker.openConnection?, hlist, hopen]

/-- The session of a client is open. -/
theorem Shows.openSession? (h : before.Shows name visit broker)
    (hsessions : visit.sessions = [session]) (hopen : session.closed = false) :
    broker.openSession? before.sessions.length = .ok session := by
  have hlist := h.sessions
  rw [hsessions] at hlist
  simp [Broker.openSession?, hlist, hopen]

/-- The consumer of a client is open. -/
theorem Shows.openConsumer? (h : before.Shows name visit broker)
    (hconsumers : visit.consumers = [consumer]) (hopen : consumer.closed = false) :
    broker.openConsumer? ⟨before.consumers.length⟩ = .ok consumer := by
  obtain ⟨others, hlength, hlist⟩ := h.consumers
  rw [hconsumers] at hlist
  simp [Broker.openConsumer?, hlist, ← hlength, hopen]

/-- The connection of a client changes. -/
theorem Shows.setConnection (h : before.Shows name visit broker)
    (hconnections : visit.connections = [connection]) (changed : Connection) :
    before.Shows name { visit with connections := [changed] }
      { broker with
        connections := broker.connections.set before.connections.length changed } where
  __ := h
  connections := by
    change broker.connections.set _ changed = _
    rw [h.connections, hconnections, set_concat]

/-- The session of a client changes. -/
theorem Shows.setSession (h : before.Shows name visit broker)
    (hsessions : visit.sessions = [session]) (changed : Session) :
    before.Shows name { visit with sessions := [changed] }
      { broker with sessions := broker.sessions.set before.sessions.length changed } where
  __ := h
  sessions := by
    change broker.sessions.set _ changed = _
    rw [h.sessions, hsessions, set_concat]

/-- The consumer of a client changes. -/
theorem Shows.setConsumer (h : before.Shows name visit broker)
    (hconsumers : visit.consumers = [consumer]) (changed : Consumer)
    (hqueue : changed.destination = .queue name) :
    before.Shows name { visit with consumers := [changed] }
      { broker with consumers := broker.consumers.set before.consumers.length changed } where
  __ := h
  consumers := by
    obtain ⟨others, hlength, hlist⟩ := h.consumers
    refine ⟨others, hlength, ?_⟩
    change broker.consumers.set _ changed = _
    rw [hlist, hconsumers, ← hlength, set_concat]
  bound := by
    intro other hother
    rw [List.mem_singleton.1 hother, hqueue]

/-- A client released something. -/
theorem Shows.release (h : before.Shows name visit broker) (kind : ResourceKind) :
    before.Shows name { visit with released := visit.released ++ [kind] }
      { broker with releases := broker.releases ++ [kind] } where
  __ := h
  releases := by
    change broker.releases ++ [kind] = _
    rw [h.releases, List.append_assoc]

/-- A client changes its connection. -/
theorem Shows.changeConnection (h : before.Shows name visit broker)
    (hconnections : visit.connections = [connection]) (hopen : connection.closed = false)
    (change : Connection → Connection) :
    ∃ after, broker.changeConnection ⟨before.connections.length⟩ change = (.ok (), after) ∧
      before.Shows name { visit with connections := [change connection] } after := by
  refine ⟨_, ?_, h.setConnection hconnections (change connection)⟩
  rw [Broker.changeConnection, h.openConnection? hconnections hopen]
  rfl

/-- A client starts its connection. -/
theorem Shows.startConnection (h : before.Shows name visit broker) (now : Int64)
    (hconnections : visit.connections = [connection]) (hopen : connection.closed = false) :
    ∃ after, broker.perform now (.startConnection ⟨before.connections.length⟩) = (.ok (), after) ∧
      before.Shows name { visit with connections := [{ connection with started := true }] }
        after :=
  h.changeConnection hconnections hopen _

/-- A client is given a session. -/
theorem Shows.createSession (h : before.Shows name visit broker) (now : Int64)
    (hconnections : visit.connections = [connection]) (hopen : connection.closed = false)
    (hsessions : visit.sessions = []) (mode : AcknowledgeMode) :
    ∃ (id : String) (after : Broker),
      broker.perform now (.createSession ⟨before.connections.length⟩ mode) =
        (.ok ⟨before.sessions.length, id, mode⟩, after) ∧
      before.Shows name { visit with
        sessions := [{ id := id, connection := before.connections.length, mode := mode }] }
        after := by
  have hlist : broker.sessions = before.sessions := by
    rw [h.sessions, hsessions, List.append_nil]
  let id := sessionIdOf connection.id (broker.resourceCount + 1)
  let after : Broker := { broker with
    resourceCount := broker.resourceCount + 1
    sessions := broker.sessions ++
      [{ id := id, connection := before.connections.length, mode := mode }] }
  refine ⟨id, after, ?_, { h with sessions := by rw [← hlist] }⟩
  rw [perform, Broker.createSession, h.openConnection? hconnections hopen, ← hlist]
  rfl

/-- A client is given a consumer of the queue. -/
theorem Shows.createConsumer (h : before.Shows name visit broker) (now : Int64)
    (hsessions : visit.sessions = [session]) (hopen : session.closed = false)
    (hconsumers : visit.consumers = []) {handle : SessionHandle}
    (hhandle : handle.index = before.sessions.length) :
    ∃ after, broker.perform now (.createConsumer handle (.queue name)) =
        (.ok ⟨before.consumers.length⟩, after) ∧
      before.Shows name
        { visit with consumers := [{ destination := .queue name, session := handle.index }] }
        after := by
  obtain ⟨others, hlength, hlist⟩ := h.consumers
  rw [hconsumers, List.append_nil] at hlist
  let after : Broker := { broker with
    resourceCount := broker.resourceCount + 1
    consumers := broker.consumers ++ [{ destination := .queue name, session := handle.index }] }
  refine ⟨after, ?_, { h with
    consumers := ⟨others, hlength, by rw [← hlist]⟩
    bound := by simp }⟩
  rw [perform, Broker.createConsumer, hhandle, h.openSession? hsessions hopen, ← hlength, ← hlist]
  simp only [after, hhandle]
  rfl

/-- The name of a destination is resolved unless it is blank. -/
theorem resolve_eq_ok (broker : Broker) (now : Int64) (session : SessionHandle)
    {destination : Destination} (hnamed : Text.isBlank destination.name = false) :
    broker.perform now (.resolve session destination) = (.ok destination, broker) := by
  rw [perform, resolve]
  exact if_neg (by simp [hnamed])

/-! ## What a client takes -/

/-- What a session holds when it was given a message of a queue under an identifier. -/
def heldWith (name : String) (held : List Delivery) (message : Message) (id : MessageId) :
    List Delivery :=
  held.filter (·.id ≠ id) ++ [⟨id, .queue name, message⟩]

/-- A session that was given a message holds its identifier besides those that it held. -/
theorem mem_map_heldWith {held : List Delivery} {message : Message} {id other : MessageId} :
    other ∈ (heldWith name held message id).map (·.id) ↔
      other ∈ held.map (·.id) ∨ other = id := by
  by_cases heq : other = id
  · simp [heldWith, heq]
  · simp only [heldWith, List.map_append, List.mem_append, List.mem_map, List.mem_filter,
      decide_eq_true_eq, List.map_cons, List.map_nil, List.mem_singleton, heq, or_false]
    exact exists_congr fun delivery => and_congr_left fun hid =>
      and_iff_left_of_imp fun _ => hid ▸ heq

/-- What waits on the queue is in its stock, unless it was put back. -/
theorem Shows.mem_stock (h : before.Shows name visit broker) (hback : visit.back = [])
    {message : Message} (hmem : message ∈ broker.queue name) :
    message ∈ before.stock broker name := by
  obtain ⟨rest, hwaits, hstock⟩ := h.queue
  rw [hwaits, hback, List.nil_append] at hmem
  rw [hstock]
  exact List.mem_append_right _ hmem

/-- Messages leave the head of the queue. -/
theorem Shows.takeOff (h : before.Shows name visit broker) (hback : visit.back = [])
    {waiting : List Waiting} {out rest : List Message} (hsplit : broker.queue name = out ++ rest)
    (hrest : (waiting.filter (·.queue = name)).map (·.message) = rest) :
    before.Shows name { visit with gone := visit.gone ++ out }
      { broker with waiting := waiting } where
  __ := h
  queue := by
    obtain ⟨whole, hwaits, hstock⟩ := h.queue
    rw [hback, List.nil_append] at hwaits
    refine ⟨rest, by rw [hback]; exact hrest, ?_⟩
    change before.stock broker name = _
    rw [hstock, ← hwaits, hsplit, List.append_assoc]

/-- What a client is told when it asks for a message, and what is different then. Expired messages
left the queue, and behind them the one that it was given, if there was one. -/
structure Receives (before broker : Broker) (name : String) (now : Int64) (visit : Visit)
    (held : List Delivery) (answer : Option Message) (expired : List Message) (visit' : Visit)
    (after : Broker) : Prop where
  granted : broker.perform now (.receive ⟨before.consumers.length⟩) = (.ok answer, after)
  outdated : ∀ message ∈ expired, message ∈ broker.queue name ∧ message.isExpired now = true
  given : ∀ message, answer = some message → message ∈ broker.queue name ∧
    message.isExpired now = false ∧ ∃ id, message.id = some id ∧
      visit'.Works before name (heldWith name held message id)
  nothing : answer = none → visit'.Works before name held
  changed : visit' = { visit with
    sessions := visit'.sessions, gone := visit.gone ++ (expired ++ answer.toList) }
  shows : before.Shows name visit' after

/-- A broker that delivers lets a client at work take a message. -/
theorem Shows.receiver? {held : List Delivery} (h : before.Shows name visit broker)
    (hworks : visit.Works before name held) (hdelivers : broker.failingReceive = false) :
    ∃ id, let session : Session :=
        { id := id, connection := before.connections.length, mode := .client, held := held }
      visit.sessions = [session] ∧ broker.receiver? ⟨before.consumers.length⟩ =
        some ({ destination := .queue name, session := before.sessions.length }, session) := by
  obtain ⟨_, hconnections⟩ := hworks.connections
  obtain ⟨id, hsessions⟩ := hworks.sessions
  have hdelivering : broker.isStarted before.connections.length = true := by
    have hlist := h.connections
    rw [hconnections] at hlist
    simp [isStarted, hlist]
  refine ⟨id, hsessions, ?_⟩
  simp only [Broker.receiver?, h.openConsumer? hworks.consumers rfl, h.openSession? hsessions rfl,
    hdelivers, hdelivering]
  rfl

/-- A client at work is given the next message that is not expired, if there is one. -/
theorem Shows.receive {held : List Delivery} (h : before.Shows name visit broker)
    (hworks : visit.Works before name held) (hback : visit.back = [])
    (hdelivers : broker.failingReceive = false) (now : Int64) :
    ∃ answer expired visit' after,
      Receives before broker name now visit held answer expired visit' after := by
  obtain ⟨sessionId, hsessions, hreceiver⟩ := h.receiver? hworks hdelivers
  let taken := takeWaiting name now broker.waiting
  have hfirst : taken.1 = ((broker.queue name).dropWhile (·.isExpired now)).head? :=
    takeWaiting_fst name now broker.waiting
  have hrest : (taken.2.filter (·.queue = name)).map (·.message) =
      ((broker.queue name).dropWhile (·.isExpired now)).tail :=
    takeWaiting_filter_self name now broker.waiting
  let expired := (broker.queue name).takeWhile (·.isExpired now)
  have houtdated : ∀ message ∈ expired,
      message ∈ broker.queue name ∧ message.isExpired now = true :=
    fun message hmem => ⟨(List.takeWhile_sublist _).subset hmem,
      List.all_eq_true.1 List.all_takeWhile message hmem⟩
  have hsplit : broker.queue name = expired ++ (broker.queue name).dropWhile (·.isExpired now) :=
    List.takeWhile_append_dropWhile.symm
  -- A client at work consumes from the queue, so what it takes leaves what waits and nothing else.
  have hperform := receive_of_receiver?_eq_some now hreceiver
  have htake : broker.take now before.consumers.length
      { destination := .queue name, session := before.sessions.length } =
      (taken.1, { broker with waiting := taken.2 }) := rfl
  rw [← take_fst broker now before.consumers.length, htake] at hperform
  cases hleft : (broker.queue name).dropWhile (·.isExpired now) with
  | nil =>
    rw [hleft] at hfirst hrest hsplit
    refine ⟨none, expired, { visit with gone := visit.gone ++ expired },
      { broker with waiting := taken.2 }, ?_⟩
    exact {
      granted := by
        rw [perform, hperform, hfirst]
        rfl
      outdated := houtdated
      given := fun message hmessage => by cases hmessage
      nothing := fun _ => ⟨hworks.connections, hworks.sessions, hworks.consumers⟩
      changed := by rw [Option.toList_none, List.append_nil]
      shows := h.takeOff hback hsplit hrest }
  | cons message others =>
    have hmem : message ∈ broker.queue name :=
      (List.dropWhile_sublist _).subset (hleft ▸ List.mem_cons_self)
    have hlasts : message.isExpired now = false := by
      have hnot := List.head?_dropWhile_not (fun other : Message => other.isExpired now)
        (broker.queue name)
      simpa [hleft] using hnot
    -- Everything in the stock has an identifier, so the session holds the message that it is given.
    obtain ⟨id, hid⟩ := Option.isSome_iff_exists.1 (h.identified message (h.mem_stock hback hmem))
    rw [hleft] at hfirst hrest hsplit
    rw [List.tail_cons] at hrest
    rw [← List.singleton_append, ← List.append_assoc] at hsplit
    let changed : Session := {
      id := sessionId
      connection := before.connections.length
      mode := .client
      held := heldWith name held message id }
    refine ⟨some message, expired,
      { visit with gone := visit.gone ++ (expired ++ [message]), sessions := [changed] },
      { broker with
        waiting := taken.2
        sessions := broker.sessions.set before.sessions.length changed }, ?_⟩
    exact {
      granted := by
        rw [perform, hperform, hfirst]
        simp only [List.head?_cons, keep, hid]
        rfl
      outdated := houtdated
      given := by
        rintro other ⟨⟩
        exact ⟨hmem, hlasts, id, hid, hworks.connections, ⟨sessionId, rfl⟩, hworks.consumers⟩
      nothing := fun hnone => by cases hnone
      changed := rfl
      shows := (h.takeOff hback hsplit hrest).setSession hsessions changed }

/-! ## What a client acknowledges -/

variable {held : List Delivery} {handle : SessionHandle}

/-- A client acknowledges a message that its session holds. -/
theorem Shows.acknowledge (h : before.Shows name visit broker)
    (hworks : visit.Works before name held) (hhandle : handle.index = before.sessions.length)
    {id : MessageId} (hheld : id ∈ held.map (·.id)) (now : Int64) :
    ∃ visit' after, broker.perform now (.acknowledge handle id) = (.ok (), after) ∧
      visit'.Works before name (held.filter (·.id ≠ id)) ∧
      visit' = { visit with
        sessions := visit'.sessions, acknowledged := visit.acknowledged ++ [id] } ∧
      before.Shows name visit' after := by
  obtain ⟨sessionId, hsessions⟩ := hworks.sessions
  let changed : Session := {
    id := sessionId
    connection := before.connections.length
    mode := .client
    held := held.filter (·.id ≠ id) }
  have hshows := h.setSession hsessions changed
  refine ⟨{ visit with sessions := [changed], acknowledged := visit.acknowledged ++ [id] },
    { broker with
      sessions := broker.sessions.set before.sessions.length changed
      acknowledged := broker.acknowledged ++ [id] },
    ?_, ⟨hworks.connections, ⟨sessionId, rfl⟩, hworks.consumers⟩, rfl,
    { hshows with acknowledged := ?_ }⟩
  · have hany : held.any (·.id = id) = true := by simpa using hheld
    rw [perform, Broker.acknowledge, hhandle, h.openSession? hsessions rfl]
    exact if_pos hany
  · rw [h.acknowledged, List.append_assoc]

/-- A client is told when its session does not hold what it acknowledges. -/
theorem Shows.acknowledge_of_not_mem (h : before.Shows name visit broker)
    (hworks : visit.Works before name held) (hhandle : handle.index = before.sessions.length)
    {id : MessageId} (hheld : id ∉ held.map (·.id)) (now : Int64) :
    broker.perform now (.acknowledge handle id) = (.error (.notPending id.text), broker) := by
  obtain ⟨sessionId, hsessions⟩ := hworks.sessions
  have hnone : ¬ held.any (·.id = id) = true := by simpa using hheld
  rw [perform, Broker.acknowledge, hhandle, h.openSession? hsessions rfl]
  exact if_neg hnone

/-! ## What a client releases -/

/-- A client closes its consumer. -/
theorem Shows.closeConsumer (h : before.Shows name visit broker) (now : Int64)
    (hconsumers : visit.consumers = [consumer]) (hopen : consumer.closed = false) :
    ∃ after, broker.perform now (.closeConsumer ⟨before.consumers.length⟩) = (.ok (), after) ∧
      before.Shows name { visit with
        consumers := [{ consumer with closed := true, buffer := [] }]
        released := visit.released ++ [.consumer] } after := by
  have hqueue : consumer.destination = .queue name := h.bound consumer (by simp [hconsumers])
  let closed : Consumer := { consumer with closed := true, buffer := [] }
  refine ⟨_, ?_, (h.setConsumer hconsumers closed hqueue).release .consumer⟩
  rw [perform, Broker.closeConsumer, h.openConsumer? hconsumers hopen]
  rfl

/-- A client closes its session. What the session holds of the queue is put back. -/
theorem Shows.closeSession (h : before.Shows name visit broker) (now : Int64)
    (hsessions : visit.sessions = [session]) (hopen : session.closed = false)
    (hcloses : broker.failingSessionClose = false)
    (hhandle : handle.index = before.sessions.length) :
    ∃ after, broker.perform now (.closeSession handle) = (.ok (), after) ∧
      before.Shows name { visit with
        sessions := [{ session with closed := true, held := [] }]
        back := ((session.held.filterMap Delivery.requeued).filter (·.queue = name)).map
          (·.message) ++ visit.back
        released := visit.released ++ [.session] } after := by
  let closed : Session := { session with closed := true, held := [] }
  have hshows := (h.setSession hsessions closed).release .session
  let after : Broker := { broker with
    waiting := session.held.filterMap Delivery.requeued ++ broker.waiting
    sessions := broker.sessions.set before.sessions.length closed
    releases := broker.releases ++ [.session] }
  refine ⟨after, ?_, { hshows with queue := ?_ }⟩
  · rw [perform, Broker.closeSession, if_neg (by simp [hcloses]), hhandle,
      h.openSession? hsessions hopen]
    rfl
  · obtain ⟨rest, hwaits, hstock⟩ := h.queue
    refine ⟨rest, ?_, hstock⟩
    rw [Broker.queue, List.filter_append, List.map_append, List.append_assoc, ← hwaits]
    rfl

/-- A client stops its connection. -/
theorem Shows.stopConnection (h : before.Shows name visit broker) (now : Int64)
    (hconnections : visit.connections = [connection]) (hopen : connection.closed = false) :
    ∃ after, broker.perform now (.stopConnection ⟨before.connections.length⟩) = (.ok (), after) ∧
      before.Shows name { visit with connections := [{ connection with started := false }] }
        after :=
  h.changeConnection hconnections hopen _

/-- A client closes its connection. -/
theorem Shows.closeConnection (h : before.Shows name visit broker) (now : Int64)
    (hconnections : visit.connections = [connection]) (hopen : connection.closed = false) :
    ∃ after, broker.perform now (.closeConnection ⟨before.connections.length⟩) = (.ok (), after) ∧
      before.Shows name { visit with
        connections := [{ connection with started := false, closed := true }]
        released := visit.released ++ [.connection] } after := by
  let closed : Connection := { connection with started := false, closed := true }
  refine ⟨_, ?_, (h.setConnection hconnections closed).release .connection⟩
  rw [perform, Broker.closeConnection, h.openConnection? hconnections hopen]
  rfl

end Broker

end BrokerConnector
