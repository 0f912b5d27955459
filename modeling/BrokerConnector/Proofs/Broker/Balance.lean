import BrokerConnector.Proofs.Broker.Circulation
import Mathlib.Data.List.Count

/-!
# The balance of a message

A step of a broker moves a message from one place to another: it waits, a session holds it, it is
acknowledged, a session in auto mode was given it, or it was discarded because it had expired. The
sum of its counts in these places grows only with what is accepted (`Step.balance`).

A step may lose count only if a session receives a message twice, or if a message of a topic goes
under the same identifier. `Contents.Traced` records where everything that a broker holds came from,
which is what excludes the second. The first is a hypothesis here.
-/

namespace BrokerConnector

open List

namespace Departure

/-- The message that departs. -/
def message : Departure → Message
  | received _ _ _ message => message
  | discarded _ message => message

/-- Whether a message with an identifier was handed to a session that confirms nothing. -/
def isHanded (id : MessageId) : Departure → Bool
  | received _ .auto _ message => message.id = some id
  | _ => false

/-- Whether a message with an identifier was discarded. -/
def isDiscarded (id : MessageId) : Departure → Bool
  | discarded _ message => message.id = some id
  | _ => false

end Departure

/-! ## Where everything came from -/

namespace Contents

/-- A delivery is held by a session that received it and may still acknowledge it. -/
structure Owed (accepted : List (Destination × Message)) (departed : List Departure) (index : Nat)
    (session : Session) (delivery : Delivery) : Prop where
  client : session.mode = .client
  isOpen : session.closed = false
  identified : delivery.message.id = some delivery.id
  received : .received index .client delivery.destination delivery.message ∈ departed
  origin : ∃ message, (delivery.destination, message) ∈ accepted ∧ message.id = some delivery.id

/-- Everything that a broker holds was accepted before. -/
structure Traced (contents : Contents) (departed : List Departure) : Prop where
  waiting : ∀ waiting ∈ contents.waiting, ∃ message,
    (.queue waiting.queue, message) ∈ contents.accepted ∧ message.id = waiting.message.id
  buffered : ∀ consumer ∈ contents.consumers, ∀ message ∈ consumer.buffer,
    (consumer.destination, message) ∈ contents.accepted
  held : ∀ (index : Nat) (session : Session), contents.sessions[index]? = some session →
    ∀ delivery ∈ session.held, Owed contents.accepted departed index session delivery

/-- A delivery stays owed when more happens. -/
theorem Owed.mono {accepted more : List (Destination × Message)} {departed others : List Departure}
    {index : Nat} {session : Session} {delivery : Delivery}
    (h : Owed accepted departed index session delivery) (haccepted : accepted ⊆ more)
    (hdeparted : departed ⊆ others) : Owed more others index session delivery where
  client := h.client
  isOpen := h.isOpen
  identified := h.identified
  received := hdeparted h.received
  origin := h.origin.imp fun _ hm => ⟨haccepted hm.1, hm.2⟩

namespace Traced

variable {contents : Contents} {departed : List Departure}

/-- What a consumer takes its messages from was accepted for its destination. -/
theorem source (h : contents.Traced departed) {index : Nat} {consumer : Consumer}
    (found : contents.consumers[index]? = some consumer) {message : Message}
    (hsource : message ∈ contents.source consumer) :
    ∃ original, (consumer.destination, original) ∈ contents.accepted ∧
      original.id = message.id := by
  unfold Contents.source at hsource
  split at hsource
  · rename_i name hname
    obtain ⟨waiting, hwaiting, rfl⟩ := List.mem_map.1 hsource
    obtain ⟨hmem, hqueue⟩ := List.mem_filter.1 hwaiting
    obtain rfl : waiting.queue = name := by simpa using hqueue
    rw [hname]
    exact h.waiting waiting hmem
  · exact ⟨message, h.buffered consumer (List.mem_of_getElem? found) message hsource, rfl⟩

/-- The next message of a consumer was accepted for its destination. -/
theorem next (h : contents.Traced departed) {now : Int64} {index : Nat} {consumer : Consumer}
    (found : contents.consumers[index]? = some consumer) {message : Message}
    (hnext : contents.next? now consumer = some message) :
    ∃ original, (consumer.destination, original) ∈ contents.accepted ∧
      original.id = message.id :=
  h.source found ((List.dropWhile_suffix _).subset (List.mem_of_mem_head? hnext))

/-- No consumer of a topic takes a message with an identifier that topics do not have. -/
theorem ne_of_topic (h : contents.Traced departed) {index : Nat} {consumer : Consumer}
    {id : MessageId} (found : contents.consumers[index]? = some consumer)
    (htopic : ∀ name message, (.topic name, message) ∈ contents.accepted →
      message.id ≠ some id)
    (hdestination : consumer.destination.isTopic) (message : Message)
    (hsource : message ∈ contents.source consumer) : message.id ≠ some id := by
  obtain ⟨original, horiginal, hid⟩ := h.source found hsource
  cases hd : consumer.destination with
  | queue name => simp [hd, Destination.isTopic] at hdestination
  | topic name =>
    rw [hd] at horiginal
    rw [← hid]
    exact htopic name original horiginal

/-- Departures that are added later matter to nothing. -/
theorem mono {others : List Departure} (h : contents.Traced departed) (hsub : departed ⊆ others) :
    contents.Traced others where
  waiting := h.waiting
  buffered := h.buffered
  held := fun index session found delivery hd =>
    (h.held index session found delivery hd).mono (List.Subset.refl _) hsub

/-- What one session holds may change to other owed deliveries. -/
theorem setSession (h : contents.Traced departed) (index : Nat) (other : Session)
    (howed : ∀ delivery ∈ other.held, Owed contents.accepted departed index other delivery) :
    Traced { contents with sessions := contents.sessions.set index other } departed where
  waiting := h.waiting
  buffered := h.buffered
  held := by
    intro i session found delivery hd
    rw [List.getElem?_set] at found
    split at found
    · rename_i hi
      subst hi
      split at found
      · obtain rfl := Option.some.inj found
        exact howed delivery hd
      · cases found
    · exact h.held i session found delivery hd

/-- What one consumer buffers may become less. -/
theorem setConsumer (h : contents.Traced departed) {index : Nat} {consumer other : Consumer}
    (found : contents.consumers[index]? = some consumer)
    (hdestination : other.destination = consumer.destination)
    (hbuffer : other.buffer ⊆ consumer.buffer) :
    Traced { contents with consumers := contents.consumers.set index other } departed where
  waiting := h.waiting
  buffered := by
    intro c hc message hm
    rcases List.mem_or_eq_of_mem_set hc with hold | rfl
    · exact h.buffered c hold message hm
    · rw [hdestination]
      exact h.buffered consumer (List.mem_of_getElem? found) message (hbuffer hm)
  held := h.held

/-- What waits may become less. -/
theorem setWaiting (h : contents.Traced departed) {waiting : List Waiting}
    (hsub : waiting ⊆ contents.waiting) :
    Traced { contents with waiting := waiting } departed :=
  ⟨fun w hw => h.waiting w (hsub hw), h.buffered, h.held⟩

/-- A consumer that takes its next message leaves less. -/
theorem withoutTaken (h : contents.Traced departed) (now : Int64) {index : Nat}
    {consumer : Consumer} (found : contents.consumers[index]? = some consumer) :
    Traced (contents.withoutTaken now index consumer) departed := by
  have hwaiting := (contents.waiting_withoutTaken_subperm now index consumer).subset
  unfold Contents.withoutTaken at hwaiting ⊢
  split at hwaiting
  · exact h.setWaiting hwaiting
  · refine h.setConsumer found rfl ?_
    rw [Broker.takeBuffered_eq]
    exact fun m hm => (List.dropWhile_suffix _).subset (List.mem_of_mem_tail hm)

/-- What is accepted waits or is buffered for its destination. -/
theorem accept (h : contents.Traced departed) (destination : Destination) (message : Message) :
    (contents.accept destination message).Traced departed := by
  have haccepted : contents.accepted ⊆ contents.accepted ++ [(destination, message)] :=
    List.subset_append_left _ _
  have hnew : (destination, message) ∈ contents.accepted ++ [(destination, message)] :=
    List.mem_append_right _ (List.mem_singleton_self _)
  refine ⟨?_, ?_, fun index session found delivery hd =>
    (h.held index session found delivery hd).mono haccepted (List.Subset.refl _)⟩
  · intro waiting hw
    rcases List.mem_append.1 hw with hold | hqueued
    · exact (h.waiting waiting hold).imp fun _ hm => ⟨haccepted hm.1, hm.2⟩
    · unfold Message.queuedFor at hqueued
      split at hqueued
      · obtain rfl := List.mem_singleton.1 hqueued
        exact ⟨message, hnew, rfl⟩
      · cases hqueued
  · intro other hother m hm
    obtain ⟨consumer, hconsumer, rfl⟩ := List.mem_map.1 hother
    unfold Consumer.offered at hm ⊢
    split at hm
    · rename_i hoffered
      rw [if_pos hoffered]
      rcases List.mem_append.1 hm with hold | hlast
      · exact haccepted (h.buffered consumer hconsumer m hold)
      · obtain rfl := List.mem_singleton.1 hlast
        change (consumer.destination, m) ∈ _
        rw [hoffered.2.1]
        exact hnew
    · rename_i hoffered
      rw [if_neg hoffered]
      exact haccepted (h.buffered consumer hconsumer m hm)

/-- What a closed session puts back was accepted for the queue that it goes to. -/
theorem closeSession (h : contents.Traced departed) {index : Nat} {session : Session}
    (found : contents.sessions[index]? = some session) :
    Traced { contents with
      waiting := session.held.filterMap Delivery.requeued ++ contents.waiting
      sessions := contents.sessions.set index { session with closed := true, held := [] } }
      departed := by
  have hset := h.setSession index { session with closed := true, held := [] } (by simp)
  refine ⟨?_, hset.buffered, hset.held⟩
  intro waiting hw
  rcases List.mem_append.1 hw with hback | hold
  · obtain ⟨delivery, hd, hrequeued⟩ := List.mem_filterMap.1 hback
    have howed := h.held index session found delivery hd
    obtain ⟨message, hm, hid⟩ := howed.origin
    unfold Delivery.requeued at hrequeued
    split at hrequeued
    · rename_i name hname
      obtain rfl := Option.some.inj hrequeued
      rw [hname] at hm
      exact ⟨message, hm, hid.trans howed.identified.symm⟩
    · cases hrequeued
  · exact h.waiting waiting hold

end Traced

/-- Everything that a broker holds after a step was accepted before. -/
theorem Step.traced {now : Int64} {before after : Contents} {through : Option Nat}
    {departures departed : List Departure} (h : Step now before through departures after)
    (ht : before.Traced departed) : after.Traced (departed ++ departures) := by
  -- More departures never make a trace false, so each case is about what the step changes.
  have hmore : departed ⊆ departed ++ departures := List.subset_append_left _ _
  cases h with
  | still => exact ht.mono hmore
  | openSession session empty =>
    refine ⟨ht.waiting, ht.buffered, ?_⟩
    intro index other found delivery hd
    rcases List.mem_append.1 (List.mem_of_getElem? found) with hold | hnew
    · rw [List.getElem?_append] at found
      split at found
      · exact (ht.held index other found delivery hd).mono (List.Subset.refl _) hmore
      · obtain rfl := List.mem_singleton.1 (List.mem_of_getElem? found)
        simp [empty] at hd
    · obtain rfl := List.mem_singleton.1 hnew
      simp [empty] at hd
  | openConsumer consumer empty =>
    refine ⟨ht.waiting, ?_, (ht.mono hmore).held⟩
    intro other hother message hm
    rcases List.mem_append.1 hother with hold | hnew
    · exact ht.buffered other hold message hm
    · obtain rfl := List.mem_singleton.1 hnew
      simp [empty] at hm
  | closeConsumer index consumer found =>
    exact (ht.mono hmore).setConsumer found rfl (by simp)
  | accept destination message identified =>
    exact (ht.mono hmore).accept destination message
  | acknowledge index session id found client isOpen isHeld =>
    have hset := (ht.mono hmore).setSession index
      { session with held := session.held.filter (·.id ≠ id) } fun delivery hd => by
        have ho := (ht.mono hmore).held index session found delivery (List.mem_filter.1 hd).1
        exact ⟨ho.client, ho.isOpen, ho.identified, ho.received, ho.origin⟩
    exact ⟨hset.waiting, hset.buffered, hset.held⟩
  | closeSession index session found =>
    exact (ht.mono hmore).closeSession found
  | takeOver index consumer session found of unheld => exact (ht.mono hmore).withoutTaken now found
  | takeHeld index consumer session message id found of client isOpen next identified =>
    have hrest := (ht.mono hmore).withoutTaken now found
    refine hrest.setSession _ _ fun delivery hd => ?_
    rw [accepted_withoutTaken]
    rcases List.mem_append.1 hd with hold | hnew
    · have ho := (ht.mono hmore).held consumer.session session of delivery
        (List.mem_filter.1 hold).1
      exact ⟨ho.client, ho.isOpen, ho.identified, ho.received, ho.origin⟩
    · obtain rfl := List.mem_singleton.1 hnew
      obtain ⟨original, horiginal, hid⟩ := ht.next found next
      refine ⟨client, isOpen, identified, ?_, original, horiginal, hid.trans identified⟩
      rw [client]
      simp

/-! ## The balance of one message -/

/-- How often messages with an identifier wait. -/
def waitingCount (contents : Contents) (id : MessageId) : Nat :=
  contents.waiting.countP (·.message.id = some id)

/-- How often deliveries with an identifier are held. -/
def heldCount (contents : Contents) (id : MessageId) : Nat :=
  (contents.sessions.flatMap (·.held)).countP (·.id = id)

/-- Changing what one session holds changes the count by as much. -/
theorem heldCount_set {contents : Contents} {index : Nat} {session : Session} (other : Session)
    (id : MessageId) (found : contents.sessions[index]? = some session) :
    heldCount { contents with sessions := contents.sessions.set index other } id +
        session.held.countP (·.id = id) =
      contents.heldCount id + other.held.countP (·.id = id) := by
  have h := (flatMap_set_perm (·.held) other found).countP_eq (·.id = id)
  rw [List.countP_append, List.countP_append] at h
  exact h

/-- No deliveries of a message are left when they are removed. -/
theorem countP_filter_self (held : List Delivery) (id : MessageId) :
    (held.filter (·.id ≠ id)).countP (·.id = id) = 0 := by
  rw [List.countP_eq_zero]
  intro delivery hd
  simpa using (List.mem_filter.1 hd).2

/-- Deliveries of one message are not touched when those of another are removed. -/
theorem countP_filter_ne {other id : MessageId} (held : List Delivery) (h : other ≠ id) :
    (held.filter (·.id ≠ other)).countP (·.id = id) = held.countP (·.id = id) := by
  rw [List.countP_filter]
  refine List.countP_congr fun delivery _ => ?_
  have : delivery.id = id → delivery.id ≠ other := fun e he => h (he.symm.trans e)
  simpa using this

/-- What a session holds counts. -/
theorem countP_held_le (contents : Contents) {index : Nat} {session : Session} (id : MessageId)
    (found : contents.sessions[index]? = some session) :
    session.held.countP (·.id = id) ≤ contents.heldCount id := by
  have h := contents.heldCount_set { session with held := [] } id found
  simp only [List.countP_nil] at h
  omega

/-- A session that holds one more delivery counts it once, whatever it held of the message. -/
theorem heldCount_hold {contents : Contents} {index : Nat} {session : Session}
    (delivery : Delivery) (id : MessageId) (found : contents.sessions[index]? = some session) :
    (contents.hold index session delivery).heldCount id + session.held.countP (·.id = id) =
      contents.heldCount id +
        if delivery.id = id then 1 else session.held.countP (·.id = id) := by
  have hset := heldCount_set
    { session with held := session.held.filter (·.id ≠ delivery.id) ++ [delivery] } id found
  have hheld : (session.held.filter (·.id ≠ delivery.id) ++ [delivery]).countP (·.id = id) =
      if delivery.id = id then 1 else session.held.countP (·.id = id) := by
    rw [List.countP_append]
    by_cases he : delivery.id = id
    · subst he
      rw [countP_filter_self, if_pos rfl]
      simp
    · rw [countP_filter_ne _ he, if_neg he]
      simp [he]
  rw [hheld] at hset
  exact hset

/-- The message that a consumer of a queue takes, and those that it discards, no longer wait. A
consumer of a topic takes none that wait. -/
theorem waitingCount_withoutTaken (contents : Contents) (now : Int64) (index : Nat)
    {consumer : Consumer} (id : MessageId)
    (htopic : consumer.destination.isTopic → ∀ message ∈ contents.source consumer,
      message.id ≠ some id) :
    ((contents.source consumer).takeWhile (·.isExpired now)).countP (·.id = some id) +
        (contents.next? now consumer).toList.countP (·.id = some id) +
        (contents.withoutTaken now index consumer).waitingCount id =
      contents.waitingCount id := by
  unfold next? withoutTaken waitingCount
  cases hd : consumer.destination with
  | queue name =>
    have h := (Broker.takeWaiting_perm name now contents.waiting).countP_eq
      (·.message.id = some id)
    simp only [List.countP_append, List.countP_map, List.map_append] at h
    rw [source, hd]
    exact h
  | topic name =>
    -- What a consumer of a topic has buffered waits on no queue, and has another identifier.
    have hnone := htopic (by rw [hd]; rfl)
    have htaken : ((contents.source consumer).takeWhile (·.isExpired now)).countP
        (·.id = some id) = 0 := by
      rw [List.countP_eq_zero]
      intro message hm
      simpa using hnone message ((List.takeWhile_prefix _).subset hm)
    have hnext : ((contents.source consumer).dropWhile (·.isExpired now)).head?.toList.countP
        (·.id = some id) = 0 := by
      rw [List.countP_eq_zero]
      intro message hm
      simpa using hnone message
        ((List.dropWhile_suffix _).subset (List.mem_of_mem_head? (Option.mem_toList.1 hm)))
    rw [htaken, hnext]
    simp

/-- What a session puts back is what it held of queues. -/
theorem countP_requeued {accepted : List (Destination × Message)} {departed : List Departure}
    {index : Nat} {session : Session} (id : MessageId)
    (howed : ∀ delivery ∈ session.held, Owed accepted departed index session delivery)
    (htopic : ∀ name message, (.topic name, message) ∈ accepted → message.id ≠ some id) :
    (session.held.filterMap Delivery.requeued).countP (·.message.id = some id) =
      session.held.countP (·.id = id) := by
  rw [List.countP_filterMap]
  refine List.countP_congr fun delivery hd => ?_
  have ho := howed delivery hd
  unfold Delivery.requeued
  cases hdestination : delivery.destination with
  | queue name => simp [ho.identified]
  | topic name =>
    obtain ⟨message, hm, hid⟩ := ho.origin
    rw [hdestination] at hm
    have hne : delivery.id ≠ id := fun e => htopic name message hm (hid.trans (congrArg some e))
    simp [hne]

variable {now : Int64} {before after : Contents} {through : Option Nat}
  {departures departed : List Departure}

/-- The departures of a take, counted. -/
theorem countP_discards (contents : Contents) (now : Int64) (consumer : Consumer)
    (id : MessageId) :
    (contents.discards now consumer).countP (·.isDiscarded id) =
        ((contents.source consumer).takeWhile (·.isExpired now)).countP (·.id = some id) ∧
      (contents.discards now consumer).countP (·.isHanded id) = 0 := by
  constructor
  · rw [discards, List.countP_map]
    rfl
  · rw [discards, List.countP_map, List.countP_eq_zero]
    simp [Departure.isHanded]

/-- The departure of a message that is received, counted. -/
theorem countP_received (consumer : Consumer) (mode : AcknowledgeMode) (next : Option Message)
    (id : MessageId) :
    ((next.map (Departure.received consumer.session mode consumer.destination)).toList).countP
          (·.isHanded id) = (if mode = .auto then next.toList.countP (·.id = some id) else 0) ∧
      ((next.map (Departure.received consumer.session mode consumer.destination)).toList).countP
        (·.isDiscarded id) = 0 := by
  cases next with
  | none => simp
  | some message => cases mode <;> simp [Departure.isHanded, Departure.isDiscarded]

/-- Messages with an identifier went from one place to another, and there are as many more as were
accepted. -/
def Moves (id : MessageId) (before after : Contents) (departures : List Departure) : Prop :=
  after.waitingCount id + after.heldCount id + after.acknowledged.count id +
      departures.countP (·.isHanded id) + departures.countP (·.isDiscarded id) +
      before.accepted.countP (·.2.id = some id) =
    before.waitingCount id + before.heldCount id + before.acknowledged.count id +
      after.accepted.countP (·.2.id = some id)

/-- What is accepted for a queue waits there. -/
theorem moves_accept (contents : Contents) (id : MessageId) (destination : Destination)
    (message : Message)
    (htopic : ∀ name, destination = .topic name → message.id ≠ some id) :
    Moves id contents (contents.accept destination message) [] := by
  have hqueued : (message.queuedFor destination).countP (·.message.id = some id) =
      [(destination, message)].countP (·.2.id = some id) := by
    cases destination with
    | queue name => simp [Message.queuedFor]
    | topic name => simp [Message.queuedFor, htopic name rfl]
  simp only [Moves, Contents.accept, waitingCount, heldCount, List.countP_append, hqueued,
    List.countP_nil]
  omega

/-- A session that acknowledges a message lets go of its one delivery. -/
theorem moves_acknowledge {contents : Contents} {index : Nat} {session : Session}
    {other : MessageId} (id : MessageId) (found : contents.sessions[index]? = some session)
    (isHeld : ∃ delivery ∈ session.held, delivery.id = other)
    (hfew : contents.heldCount id ≤ 1) :
    Moves id contents
      { contents with
        sessions := contents.sessions.set index
          { session with held := session.held.filter (·.id ≠ other) }
        acknowledged := contents.acknowledged ++ [other] } [] := by
  have hset := contents.heldCount_set
    { session with held := session.held.filter (·.id ≠ other) } id found
  have hle := contents.countP_held_le id found
  simp only [Moves, waitingCount, List.count_append, List.countP_nil] at hset ⊢
  simp only [heldCount] at hset hle hfew ⊢
  by_cases he : other = id
  · -- There is at most one delivery of the message, so letting go of all is letting go of it.
    subst he
    have hpos : 0 < session.held.countP (·.id = other) := by
      obtain ⟨delivery, hd, hid⟩ := isHeld
      exact List.countP_pos_iff.2 ⟨delivery, hd, by simpa using hid⟩
    have hgone := countP_filter_self session.held other
    simp only [List.count_singleton_self]
    omega
  · have hsame := countP_filter_ne session.held he
    have hcount : [other].count id = 0 := List.count_eq_zero.2 (by simpa using Ne.symm he)
    omega

/-- A session that is closed puts back what it held. -/
theorem moves_closeSession {contents : Contents} {index : Nat} {session : Session} (id : MessageId)
    (found : contents.sessions[index]? = some session)
    (hback : (session.held.filterMap Delivery.requeued).countP (·.message.id = some id) =
      session.held.countP (·.id = id)) :
    Moves id contents
      { contents with
        waiting := session.held.filterMap Delivery.requeued ++ contents.waiting
        sessions := contents.sessions.set index { session with closed := true, held := [] } }
      [] := by
  have hset := contents.heldCount_set { session with closed := true, held := [] } id found
  simp only [Moves, waitingCount, List.countP_append, List.countP_nil, heldCount] at hset hback ⊢
  omega

/-- What a consumer takes for a session that holds nothing of it is handed over. -/
theorem moves_takeOver {contents : Contents} {index : Nat} {consumer : Consumer}
    {session : Session} (id : MessageId)
    (htopic : consumer.destination.isTopic → ∀ message ∈ contents.source consumer,
      message.id ≠ some id)
    (unheld : ∀ message, contents.next? now consumer = some message →
      session.mode = .auto ∨ message.id = none) :
    Moves id contents (contents.withoutTaken now index consumer)
      (contents.departing now consumer session) := by
  have hwaiting := contents.waitingCount_withoutTaken now index id htopic
  obtain ⟨hdiscarded, hnot⟩ := contents.countP_discards now consumer id
  obtain ⟨hhanded, hnone⟩ :=
    countP_received consumer session.mode (contents.next? now consumer) id
  have htaken : (if session.mode = .auto then (contents.next? now consumer).toList.countP
      (·.id = some id) else 0) =
      (contents.next? now consumer).toList.countP (·.id = some id) := by
    split
    · rfl
    · rename_i hclient
      cases hn : contents.next? now consumer with
      | none => rfl
      | some message => simp [(unheld message hn).resolve_left hclient]
  rw [htaken] at hhanded
  rw [Moves, departing, List.countP_append, List.countP_append, hdiscarded, hnot, hhanded, hnone,
    accepted_withoutTaken, acknowledged_withoutTaken, heldCount, sessions_withoutTaken]
  rw [heldCount]
  omega

/-- What a consumer takes for a session in client mode is held. -/
theorem moves_takeHeld {contents : Contents} {index : Nat} {consumer : Consumer}
    {session : Session} {message : Message} {other : MessageId} (id : MessageId)
    (htopic : consumer.destination.isTopic → ∀ message ∈ contents.source consumer,
      message.id ≠ some id)
    (of : contents.sessions[consumer.session]? = some session) (client : session.mode = .client)
    (next : contents.next? now consumer = some message) (identified : message.id = some other)
    (hfew : contents.waitingCount id + contents.heldCount id ≤ 1) :
    Moves id contents
      ((contents.withoutTaken now index consumer).hold consumer.session session
        ⟨other, consumer.destination, message⟩)
      (contents.discards now consumer ++
        [.received consumer.session session.mode consumer.destination message]) := by
  have hwaiting := contents.waitingCount_withoutTaken now index id htopic
  obtain ⟨hdiscarded, hnot⟩ := contents.countP_discards now consumer id
  obtain ⟨hreceived, hkept⟩ := countP_received consumer session.mode (some message) id
  rw [client, if_neg (by simp), ← client] at hreceived
  rw [Option.map_some, Option.toList_some] at hreceived hkept
  have hnext : (contents.next? now consumer).toList.countP (·.id = some id) =
      if other = id then 1 else 0 := by
    rw [next]
    by_cases he : other = id <;> simp [identified, he]
  rw [hnext] at hwaiting
  have hle := contents.countP_held_le id of
  have hrest : (contents.withoutTaken now index consumer).heldCount id = contents.heldCount id := by
    rw [heldCount, sessions_withoutTaken, heldCount]
  have hsession : (contents.withoutTaken now index consumer).sessions[consumer.session]? =
      some session := by rw [sessions_withoutTaken, of]
  have haccepted := contents.accepted_withoutTaken now index consumer
  have hacknowledged := contents.acknowledged_withoutTaken now index consumer
  generalize contents.withoutTaken now index consumer = rest at *
  let kept := rest.hold consumer.session session ⟨other, consumer.destination, message⟩
  have hhold : kept.heldCount id + session.held.countP (·.id = id) =
      rest.heldCount id + if other = id then 1 else session.held.countP (·.id = id) :=
    heldCount_hold _ id hsession
  have hwaits : kept.waitingCount id = rest.waitingCount id := rfl
  have hkeptAccepted : kept.accepted = contents.accepted := haccepted
  have hkeptAcknowledged : kept.acknowledged = contents.acknowledged := hacknowledged
  change Moves id contents kept _
  rw [Moves, List.countP_append, List.countP_append, hdiscarded, hnot, hreceived, hkept, hwaits,
    hkeptAccepted, hkeptAcknowledged]
  -- The message was the only one with its identifier, so the session did not hold it before.
  split at hhold <;> rename_i he <;> simp only [he, if_true, if_false] at hwaiting <;> omega

/-- A step moves a message from one place to another. The balance grows with what is accepted. -/
theorem Step.balance (h : Step now before through departures after) (id : MessageId)
    (ht : before.Traced departed)
    (htopic : ∀ name message, (.topic name, message) ∈ after.accepted → message.id ≠ some id)
    (hfew : before.waitingCount id + before.heldCount id ≤ 1) :
    Moves id before after departures := by
  cases h with
  | still => simp [Moves]
  | openSession session empty => simp [Moves, heldCount, waitingCount, empty]
  | openConsumer consumer empty => simp [Moves, heldCount, waitingCount]
  | closeConsumer index consumer found => simp [Moves, heldCount, waitingCount]
  | accept destination message identified =>
    refine before.moves_accept id destination message fun name hname => ?_
    subst hname
    exact htopic name message (List.mem_append_right _ (List.mem_singleton_self _))
  | acknowledge index session other found client isOpen isHeld =>
    exact moves_acknowledge id found isHeld (Nat.le_trans (Nat.le_add_left _ _) hfew)
  | closeSession index session found =>
    exact moves_closeSession id found (countP_requeued id (ht.held index session found) htopic)
  | takeOver index consumer session found of unheld =>
    refine moves_takeOver id (ht.ne_of_topic found fun name message hm => ?_) unheld
    exact htopic name message (by rw [accepted_withoutTaken]; exact hm)
  | takeHeld index consumer session message other found of client isOpen next identified =>
    refine moves_takeHeld id (ht.ne_of_topic found fun name message hm => ?_) of client next
      identified hfew
    exact htopic name message (by rw [Contents.hold, accepted_withoutTaken]; exact hm)

end Contents

end BrokerConnector
