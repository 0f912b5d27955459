import BrokerConnector.Proofs.Broker.Circulation

/-!
# What a granted request did

For the requests that readers make of a broker: what the broker was like if it granted the request,
and what it is like afterwards. A session that is fresh holds nothing. A delivery enters a session
when it is received, and leaves it when it is acknowledged or when the session is closed.
-/

namespace BrokerConnector.Broker

variable {broker after : Broker} {now : Int64}

/-- A connection that was started delivers. -/
theorem isStarted_of_startConnection {connection : ConnectionHandle}
    (h : broker.perform now (.startConnection connection) = (.ok (), after)) :
    after.isStarted connection.index = true := by
  cases granted_of_perform h with
  | startConnection _ old found =>
    simp only [isStarted, List.getElem?_set_self (List.getElem?_eq_some_iff.1 found).1]

/-- A new session is the last one. It holds nothing. -/
theorem sessions_of_createSession {connection : ConnectionHandle} {mode : AcknowledgeMode}
    {handle : SessionHandle}
    (h : broker.perform now (.createSession connection mode) = (.ok handle, after)) :
    after.sessions[handle.index]? =
        some { id := handle.id, connection := connection.index, mode := mode } ∧
      handle.index = broker.sessions.length := by
  cases granted_of_perform h with
  | createSession => exact ⟨List.getElem?_concat_length, rfl⟩

/-- What is resolved has a name, and is what was asked for. -/
theorem named_of_resolve {session : SessionHandle} {destination resolved : Destination}
    (h : broker.perform now (.resolve session destination) = (.ok resolved, after)) :
    Text.isBlank destination.name = false ∧ resolved = destination ∧ after = broker := by
  cases granted_of_perform h with
  | resolve _ _ named => exact ⟨named, rfl, rfl⟩

/-- A new consumer is one of its session and destination. -/
theorem consumers_of_createConsumer {session : SessionHandle} {destination : Destination}
    {handle : ConsumerHandle}
    (h : broker.perform now (.createConsumer session destination) = (.ok handle, after)) :
    ∃ consumer, after.consumers[handle.index]? = some consumer ∧
      consumer.destination = destination ∧ consumer.session = session.index := by
  cases granted_of_perform h with
  | createConsumer => exact ⟨_, List.getElem?_concat_length, rfl, rfl⟩

/-! ## Deliveries -/

variable {handle : SessionHandle} {session : Session} {id : MessageId}

/-- An acknowledgment is granted through a session that is open. In auto mode it changes nothing. -/
theorem exists_session_of_acknowledge
    (h : broker.perform now (.acknowledge handle id) = (.ok (), after)) :
    ∃ session, broker.sessions[handle.index]? = some session ∧ session.closed = false ∧
      (session.mode = .auto → after = broker) := by
  cases granted_of_perform h with
  | acknowledgeInAuto _ _ session found isOpen => exact ⟨session, found, isOpen, fun _ => rfl⟩
  | acknowledge _ _ session found isOpen client =>
    exact ⟨session, found, isOpen, fun auto => nomatch client.symm.trans auto⟩

/-- An acknowledged delivery leaves its session. -/
theorem contents_of_acknowledge
    (h : broker.perform now (.acknowledge handle id) = (.ok (), after))
    (found : broker.sessions[handle.index]? = some session) (client : session.mode = .client) :
    (∃ delivery ∈ session.held, delivery.id = id) ∧
      after.contents = { broker.contents with
        sessions := broker.sessions.set handle.index
          { session with held := session.held.filter (·.id ≠ id) }
        acknowledged := broker.acknowledged ++ [id] } := by
  cases granted_of_perform h with
  | acknowledgeInAuto _ _ other hother _ auto =>
    obtain rfl := Option.some.inj (hother.symm.trans found)
    cases auto.symm.trans client
  | acknowledge _ _ other hother _ _ held =>
    obtain rfl := Option.some.inj (hother.symm.trans found)
    exact ⟨held, rfl⟩

/-- A session that acknowledges a message lets go of every delivery of it. -/
theorem session_of_acknowledge
    (h : broker.perform now (.acknowledge handle id) = (.ok (), after))
    (found : broker.sessions[handle.index]? = some session) (client : session.mode = .client) :
    after.sessions[handle.index]? =
      some { session with held := session.held.filter (·.id ≠ id) } := by
  obtain ⟨-, hcontents⟩ := contents_of_acknowledge h found client
  have hsessions : after.sessions = _ := congrArg Contents.sessions hcontents
  rw [hsessions]
  exact List.getElem?_set_self (List.getElem?_eq_some_iff.1 found).1

/-- An acknowledgment is refused through a session that is not open, or that does not hold the
message. -/
theorem error_of_acknowledge {error : BrokerError}
    (h : (broker.perform now (.acknowledge handle id)).1 = .error error) :
    (error = .alreadyClosed .session ∧ ∀ session,
        broker.sessions[handle.index]? = some session → session.closed = true) ∨
      error = .notPending id.text ∧ ∃ session,
        broker.sessions[handle.index]? = some session ∧
          ∀ delivery ∈ session.held, delivery.id ≠ id := by
  simp only [perform, acknowledge] at h
  cases hs : broker.openSession? handle.index with
  | error other =>
    simp only [hs, refuse, Except.error.injEq] at h
    subst h
    exact .inl (by grind [openSession?])
  | ok session =>
    simp only [hs] at h
    split at h
    · cases h
    · split at h
      · cases h
      · rename_i hheld
        obtain rfl := Except.error.inj h
        exact .inr ⟨rfl, session, (openSession?_eq_ok hs).1, by simpa using hheld⟩

/-- A session that holds a delivery does not deny it. -/
theorem isNotPending_of_acknowledge {error : BrokerError}
    (h : (broker.perform now (.acknowledge handle id)).1 = .error error)
    (found : broker.sessions[handle.index]? = some session)
    (held : ∃ delivery ∈ session.held, delivery.id = id) : error.isNotPending = false := by
  rcases error_of_acknowledge h with ⟨rfl, -⟩ | ⟨-, other, hother, hnot⟩
  · rfl
  · obtain rfl := Option.some.inj (hother.symm.trans found)
    obtain ⟨delivery, hdelivery, hid⟩ := held
    exact (hnot delivery hdelivery hid).elim

/-- A session that is open refuses to acknowledge only what it does not hold. -/
theorem isNotPending_of_isOpen {error : BrokerError}
    (h : (broker.perform now (.acknowledge handle id)).1 = .error error)
    (found : broker.sessions[handle.index]? = some session) (isOpen : session.closed = false) :
    error.isNotPending = true := by
  rcases error_of_acknowledge h with ⟨-, hclosed⟩ | ⟨rfl, -⟩
  · cases isOpen.symm.trans (hclosed session found)
  · rfl

/-- A session that is closed was open. -/
theorem exists_session_of_closeSession
    (h : broker.perform now (.closeSession handle) = (.ok (), after)) :
    ∃ session, broker.sessions[handle.index]? = some session ∧ session.closed = false := by
  cases granted_of_perform h with
  | closeSession _ session found isOpen => exact ⟨session, found, isOpen⟩

/-- What a closed session held of queues is at the head again. -/
theorem contents_of_closeSession
    (h : broker.perform now (.closeSession handle) = (.ok (), after))
    (found : broker.sessions[handle.index]? = some session) :
    after.contents = { broker.contents with
      waiting := session.held.filterMap Delivery.requeued ++ broker.waiting
      sessions :=
        broker.sessions.set handle.index { session with closed := true, held := [] } } := by
  cases granted_of_perform h with
  | closeSession _ other hother =>
    obtain rfl := Option.some.inj (hother.symm.trans found)
    rfl

/-- A consumer that is given a message takes the next one. -/
theorem next?_of_receive {consumer : ConsumerHandle} {of : Consumer} {message : Message}
    (h : broker.perform now (.receive consumer) = (.ok (some message), after))
    (bound : broker.consumers[consumer.index]? = some of) :
    broker.contents.next? now of = some message := by
  generalize hanswer : some message = answer at h
  cases granted_of_perform h with
  | receiveStopped => cases hanswer
  | receive _ other _ receiver =>
    obtain rfl := Option.some.inj ((receiver?_eq_some receiver).1.symm.trans bound)
    rfl

/-- The session of a consumer that is given a message holds the delivery. -/
theorem contents_of_receive {consumer : ConsumerHandle} {of : Consumer} {message : Message}
    (h : broker.perform now (.receive consumer) = (.ok (some message), after))
    (bound : broker.consumers[consumer.index]? = some of)
    (found : broker.sessions[of.session]? = some session) (client : session.mode = .client)
    (identified : message.id = some id) :
    session.closed = false ∧
      after.contents = (broker.contents.withoutTaken now consumer.index of).hold of.session session
        ⟨id, of.destination, message⟩ := by
  have hnext := next?_of_receive h bound
  generalize hanswer : some message = answer at h
  cases granted_of_perform h with
  | receiveStopped => cases hanswer
  | receive _ consumer' session' receiver =>
    obtain ⟨hconsumer, -, hsession, hopen⟩ := receiver?_eq_some receiver
    obtain rfl := Option.some.inj (hconsumer.symm.trans bound)
    obtain rfl := Option.some.inj (hsession.symm.trans found)
    refine ⟨hopen, ?_⟩
    rw [contents_keep, contents_take, hnext]
    simp only [Contents.keep, client, identified]

/-- A session that is given a message holds it last, and no earlier delivery of it. -/
theorem session_of_receive {consumer : ConsumerHandle} {of : Consumer} {message : Message}
    (h : broker.perform now (.receive consumer) = (.ok (some message), after))
    (bound : broker.consumers[consumer.index]? = some of)
    (found : broker.sessions[of.session]? = some session) (client : session.mode = .client)
    (identified : message.id = some id) :
    after.sessions[of.session]? = some { session with
      held := session.held.filter (·.id ≠ id) ++ [⟨id, of.destination, message⟩] } := by
  obtain ⟨-, hcontents⟩ := contents_of_receive h bound found client identified
  have hsessions : after.sessions = _ := congrArg Contents.sessions hcontents
  rw [hsessions, Contents.hold, Contents.sessions_withoutTaken]
  exact List.getElem?_set_self (List.getElem?_eq_some_iff.1 found).1

/-- A consumer that is given nothing found nothing, or its connection is not started. No session
changes. -/
theorem contents_of_receive_none {consumer : ConsumerHandle} {of : Consumer}
    (h : broker.perform now (.receive consumer) = (.ok none, after))
    (bound : broker.consumers[consumer.index]? = some of)
    (found : broker.sessions[of.session]? = some session) :
    (after.contents = broker.contents ∧ broker.isStarted session.connection = false) ∨
      (broker.contents.next? now of = none ∧
        after.contents = broker.contents.withoutTaken now consumer.index of) := by
  generalize hanswer : none = answer at h
  cases granted_of_perform h with
  | receiveStopped _ consumer' session' hconsumer hsession stopped =>
    obtain rfl := Option.some.inj (hconsumer.symm.trans bound)
    obtain rfl := Option.some.inj (hsession.symm.trans found)
    exact .inl ⟨rfl, stopped⟩
  | receive _ consumer' session' receiver =>
    obtain rfl := Option.some.inj ((receiver?_eq_some receiver).1.symm.trans bound)
    refine .inr ⟨rfl, ?_⟩
    rw [contents_keep, contents_take, ← hanswer]
    rfl

end BrokerConnector.Broker
