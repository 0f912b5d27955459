import BrokerConnector.Proofs.Broker.Turns

/-!
# What a subscriber is given

A consumer of a topic draws from a buffer of its own. What it has drawn and what its buffer still
holds are, together and in order, what was accepted for the topic since the consumer was created.
Nobody else takes part: an operation of another client adds to the buffer what it sends to the
topic, and does nothing to it otherwise.

The other way round, `Separates` says what an operation puts on a queue or in a buffer: what it
accepts for that destination, and what a session that it closes held of that queue.
-/

namespace BrokerConnector

open List

namespace Broker

/-! ## What comes in and what goes out -/

/-- What is accepted for a destination in an operation. -/
def arrivals (broker : Broker) (now : Int64) (operation : Operation) (destination : Destination) :
    List Message :=
  (((broker.submission? now operation).map (·.entry)).toList.filter (·.1 = destination)).map (·.2)

/-- What was accepted for a destination is followed by what is accepted for it. -/
theorem published_operate (broker : Broker) (now : Int64) (operation : Operation)
    (destination : Destination) :
    (broker.operate now operation).published destination =
      broker.published destination ++ broker.arrivals now operation destination := by
  rw [published, accepted_operate, List.filter_append, List.map_append]
  rfl

/-- The messages that a consumer, by its position, takes in an operation, received or discarded. -/
def drawn (broker : Broker) (now : Int64) (index : Nat) (operation : Operation) : List Message :=
  if operation = .request (.receive ⟨index⟩) then
    (broker.departures now operation).map (·.message)
  else []

/-- The messages that a consumer, by its position, takes in operations, in order. -/
def drawnAll (broker : Broker) (index : Nat) : List (Int64 × Operation) → List Message
  | [] => []
  | (now, operation) :: rest =>
    broker.drawn now index operation ++ (broker.operate now operation).drawnAll index rest

/-- The messages that a consumer, by its position, took since a broker was opened. -/
def drawnAfter (credentials : Option Credentials) (operations : List (Int64 × Operation))
    (index : Nat) : List Message :=
  drawnAll { credentials := credentials } index operations

theorem drawnAll_append (broker : Broker) (index : Nat) (first second : List (Int64 × Operation)) :
    broker.drawnAll index (first ++ second) =
      broker.drawnAll index first ++ (broker.operateAll first).drawnAll index second := by
  induction first generalizing broker with
  | nil => rfl
  | cons entry rest ih =>
    obtain ⟨now, operation⟩ := entry
    rw [List.cons_append, drawnAll, ih, drawnAll, List.append_assoc]
    rfl

/-- What is taken in the last operation is taken last. -/
theorem drawnAfter_concat (credentials : Option Credentials) (operations : List (Int64 × Operation))
    (now : Int64) (operation : Operation) (index : Nat) :
    drawnAfter credentials (operations ++ [(now, operation)]) index =
      drawnAfter credentials operations index ++
        (after credentials operations).drawn now index operation := by
  rw [drawnAfter, drawnAll_append, drawnAll, drawnAll, List.append_nil]
  rfl

/-- What a consumer takes departs, and what it receives of that is handed over to it. -/
theorem exists_departures_drawnAll (broker : Broker) (index : Nat)
    (operations : List (Int64 × Operation)) :
    ∃ departures : List Departure,
      broker.drawnAll index operations = departures.map (·.message) ∧
      departures.filter (·.isReceipt) =
        ((broker.handovers operations).filter (·.consumer = index)).map (·.departure) := by
  induction operations generalizing broker with
  | nil => exact ⟨[], rfl, rfl⟩
  | cons entry rest ih =>
    obtain ⟨now, operation⟩ := entry
    obtain ⟨departures, hdrawn, hreceived⟩ := ih (broker.operate now operation)
    rw [drawnAll, handovers, List.filter_append, List.map_append, filter_handover?, drawn, hdrawn,
      ← hreceived]
    split
    · exact ⟨broker.departures now operation ++ departures, by rw [List.map_append],
        by rw [List.filter_append, filter_departures]⟩
    · exact ⟨departures, rfl, rfl⟩

end Broker

/-! ## The consumers after an operation -/

/-- A consumer after what is accepted in an operation, if anything is. -/
def Consumer.given (consumer : Consumer) : Option (Destination × Message) → Consumer
  | some (destination, message) => consumer.offered destination message
  | none => consumer

/-- A subscriber is given what is accepted for its topic. -/
theorem Consumer.given_of_topic {consumer : Consumer} {name : String}
    (topic : consumer.destination = .topic name) (isOpen : consumer.closed = false)
    (new : Option (Destination × Message)) :
    consumer.given new = { consumer with
      buffer := consumer.buffer ++ (new.toList.filter (·.1 = .topic name)).map (·.2) } := by
  cases new with
  | none => simp [given]
  | some entry =>
    obtain ⟨destination, message⟩ := entry
    by_cases hd : destination = .topic name
    · simp [given, offered, hd, topic, isOpen, Destination.isTopic]
    · have hother : ¬ consumer.destination = destination := fun he => hd (he.symm.trans topic)
      simp [given, offered, hother, hd]

namespace Broker

variable {broker : Broker} {now : Int64}

/-- What is delivered is given to every consumer. -/
theorem consumers_deliver (broker : Broker) (destination : Destination) (message : Message) :
    (broker.deliver destination message).consumers =
      broker.consumers.map (·.given (some (destination, message))) :=
  congrArg Contents.consumers (broker.contents_deliver destination message)

/-- An operation that is about no consumer delivers one message, or changes no consumer and accepts
nothing. -/
theorem delivers_or_spares (broker : Broker) (now : Int64) (operation : Operation)
    (h : ∀ session destination, operation ≠ .request (.createConsumer session destination))
    (h' : ∀ consumer, operation ≠ .request (.receive consumer))
    (h'' : ∀ consumer, operation ≠ .request (.closeConsumer consumer)) :
    (∃ (base : Broker) (destination : Destination) (message : Message),
        base.consumers = broker.consumers ∧
        base.accepted = broker.accepted ∧
        broker.operate now operation = base.deliver destination message) ∨
      (broker.operate now operation).consumers = broker.consumers ∧
        (broker.operate now operation).accepted = broker.accepted := by
  cases operation with
  | publish destination message =>
    left
    simp only [operate, publish]
    split <;> refine ⟨_, destination, _, ?_, ?_, rfl⟩ <;> rfl
  | reject destination => exact .inr ⟨rfl, rfl⟩
  | turn switch on => cases switch <;> exact .inr ⟨rfl, rfl⟩
  | request request =>
    rw [operate]
    refine perform_snd (.inr ⟨rfl, rfl⟩) ?_
    intro _ _ hgranted
    cases hgranted with
    | send _ destination =>
      refine .inl ⟨_, destination, _, ?_, ?_, rfl⟩ <;> rfl
    | createConsumer => exact (h _ _ rfl).elim
    | receive | receiveStopped => exact (h' _ rfl).elim
    | closeConsumer => exact (h'' _ rfl).elim
    | _ => exact .inr ⟨rfl, rfl⟩

/-- An operation that is about no consumer gives every consumer what is accepted in it. -/
theorem consumers_operate (broker : Broker) (now : Int64) (operation : Operation)
    (h : ∀ session destination, operation ≠ .request (.createConsumer session destination))
    (h' : ∀ consumer, operation ≠ .request (.receive consumer))
    (h'' : ∀ consumer, operation ≠ .request (.closeConsumer consumer)) :
    (broker.operate now operation).consumers =
      broker.consumers.map (·.given ((broker.submission? now operation).map (·.entry))) := by
  have hnew := broker.accepted_operate now operation
  rcases broker.delivers_or_spares now operation h h' h'' with
    ⟨base, destination, message, hconsumers, haccepted, heq⟩ | ⟨hconsumers, haccepted⟩
  · rw [heq, accepted_deliver, haccepted, List.append_cancel_left_eq] at hnew
    rw [heq, consumers_deliver, hconsumers, Option.toList_eq_singleton_iff.1 hnew.symm]
  · rw [hconsumers, Contents.eq_none_of_append (haccepted.symm.trans hnew)]
    exact (List.map_id _).symm

/-- A receive changes at most the buffer that it takes from. -/
theorem consumers_receive {handle : ConsumerHandle} {consumer : Consumer} {session : Session}
    (now : Int64) (h : broker.receiver? handle = some (consumer, session)) :
    (broker.receive now handle).2.consumers =
      (broker.contents.withoutTaken now handle.index consumer).consumers := by
  refine (congrArg Contents.consumers (contents_receive now h)).trans ?_
  unfold Contents.keep
  split
  · split <;> rfl
  · rfl

/-- What an operation does to the consumers: it adds a new one, it is about one of them, or all of
them are given what is accepted in it. -/
theorem consumers_cases (broker : Broker) (now : Int64) (operation : Operation) :
    (∃ session destination consumer,
      operation = .request (.createConsumer session destination) ∧
      (broker.createConsumer session destination).1 = .ok ⟨broker.consumers.length⟩ ∧
      consumer.destination = destination ∧ consumer.buffer = [] ∧
      (broker.operate now operation).consumers = broker.consumers ++ [consumer]) ∨
    (∃ handle consumer,
      (operation = .request (.receive handle) ∨ operation = .request (.closeConsumer handle)) ∧
      (broker.operate now operation).consumers =
        broker.consumers.set handle.index consumer) ∨
    (broker.operate now operation).consumers =
      broker.consumers.map (·.given ((broker.submission? now operation).map (·.entry))) := by
  have hothers := broker.consumers_operate now operation
  -- A consumer that is given nothing is as it was.
  have hsame : broker.consumers = broker.consumers.map (·.given none) := (List.map_id _).symm
  cases operation with
  | request request =>
    cases request with
    | createConsumer session destination =>
      simp only [operate, perform, createConsumer]
      cases hs : broker.openSession? session.index with
      | error error => exact .inr (.inr hsame)
      | ok found => exact .inl ⟨session, destination, _, rfl, by simp [hs, grant], rfl, rfl, rfl⟩
    | receive handle =>
      right
      change (∃ _, _) ∨ (broker.receive now handle).2.consumers = _
      cases hr : broker.receiver? handle with
      | none =>
        right
        rw [(receive_of_receiver?_eq_none now hr).1]
        exact hsame
      | some pair =>
        obtain ⟨consumer, session⟩ := pair
        have hreceive := consumers_receive now hr
        unfold Contents.withoutTaken at hreceive
        split at hreceive
        · exact .inr (hreceive.trans hsame)
        · exact .inl ⟨handle, _, .inl rfl, hreceive⟩
    | closeConsumer handle =>
      rw [operate]
      refine perform_snd (.inr (.inr hsame)) ?_
      rintro _ _ ⟨⟩
      exact .inr (.inl ⟨handle, _, .inr rfl, rfl⟩)
    | _ => exact .inr (.inr (hothers (by simp) (by simp) (by simp)))
  | _ => exact .inr (.inr (hothers (by simp) (by simp) (by simp)))

/-- A consumer is given what is accepted in an operation, unless the operation is one of its own. -/
theorem consumer_operate {index : Nat} {consumer : Consumer}
    (found : broker.consumers[index]? = some consumer) (now : Int64) {operation : Operation}
    (hreceive : operation ≠ .request (.receive ⟨index⟩))
    (hclose : operation ≠ .request (.closeConsumer ⟨index⟩)) :
    (broker.operate now operation).consumers[index]? =
      some (consumer.given ((broker.submission? now operation).map (·.entry))) := by
  rcases broker.consumers_cases now operation with
    ⟨session, destination, created, rfl, -, -, -, hcreated⟩ | ⟨handle, changed, hown, hset⟩ |
      hgiven
  · rw [hcreated, List.getElem?_append_left (List.getElem?_eq_some_iff.1 found).1, found]
    rfl
  · have hne : handle.index ≠ index := by
      rintro rfl
      exact hown.elim hreceive hclose
    rw [hset, List.getElem?_set_ne hne, found]
    rcases hown with rfl | rfl <;> rfl
  · rw [hgiven, List.getElem?_map, found, Option.map_some]

/-! ## The stream of a subscriber -/

variable {index : Nat} {consumer later : Consumer} {name : String}

/-- What a receive takes for a subscriber and what remains in its buffer was in its buffer. -/
theorem buffer_receive (found : broker.consumers[index]? = some consumer)
    (topic : consumer.destination = .topic name) (now : Int64) :
    ∃ rest, (broker.receive now ⟨index⟩).2.consumers[index]? =
        some { consumer with buffer := rest } ∧
      (broker.departures now (.request (.receive ⟨index⟩))).map (·.message) ++ rest =
        consumer.buffer := by
  cases hr : broker.receiver? ⟨index⟩ with
  | none =>
    refine ⟨consumer.buffer, ?_, ?_⟩
    · rw [(receive_of_receiver?_eq_none now hr).1, found]
    · rw [departures_receive_of_none hr, List.map_nil, List.nil_append]
  | some pair =>
    obtain ⟨other, session⟩ := pair
    obtain rfl := Option.some.inj ((receiver?_eq_some hr).1.symm.trans found)
    refine ⟨(takeBuffered now other.buffer).2, ?_, ?_⟩
    · rw [consumers_receive now hr]
      simp only [Contents.withoutTaken, topic]
      exact List.getElem?_set_self (List.getElem?_eq_some_iff.1 found).1
    · have hsource : broker.source other = other.buffer := by
        simp only [source, topic]
      simp only [departures, hr, taken, hsource, takeBuffered_eq, List.map_append, List.map_map]
      have hsplit := List.takeWhile_append_dropWhile (p := (·.isExpired now)) (l := other.buffer)
      cases hrest : other.buffer.dropWhile (·.isExpired now) with
      | nil =>
        rw [hrest, List.append_nil] at hsplit
        simpa [Function.comp_def, Departure.message] using hsplit
      | cons message rest =>
        rw [hrest] at hsplit
        simpa [Function.comp_def, Departure.message] using hsplit

/-- Nothing is taken for a consumer by an operation that is not its receive. -/
theorem drawn_of_ne {operation : Operation} (h : operation ≠ .request (.receive ⟨index⟩)) :
    broker.drawn now index operation = [] :=
  if_neg h

/-- A consumer that is closed stays closed, and an open one stays at its topic. What it takes in an
operation, followed by its buffer afterwards, is its buffer followed by what is accepted for the
topic. -/
theorem stream_operate (found : broker.consumers[index]? = some consumer)
    (topic : consumer.destination = .topic name) {operation : Operation}
    (hlater : (broker.operate now operation).consumers[index]? = some later)
    (isOpen : later.closed = false) :
    consumer.closed = false ∧ broker.drawn now index operation ++ later.buffer =
      consumer.buffer ++ broker.arrivals now operation (.topic name) := by
  by_cases hreceive : operation = .request (.receive ⟨index⟩)
  · subst hreceive
    obtain ⟨rest, hrest, hdrawn⟩ := buffer_receive found topic now
    obtain rfl := Option.some.inj (hlater.symm.trans hrest)
    refine ⟨isOpen, ?_⟩
    rw [drawn, if_pos rfl, hdrawn]
    exact (List.append_nil _).symm
  by_cases hclose : operation = .request (.closeConsumer ⟨index⟩)
  · -- The consumer is closed now, whether this closed it or was refused because it was closed.
    subst hclose
    exfalso
    simp only [operate, perform, closeConsumer] at hlater
    cases hc : broker.openConsumer? ⟨index⟩ with
    | error error =>
      simp only [hc] at hlater
      obtain rfl := Option.some.inj (hlater.symm.trans found)
      simp [openConsumer?, found, isOpen] at hc
    | ok other =>
      simp only [hc, grant] at hlater
      rw [List.getElem?_set_self (List.getElem?_eq_some_iff.1 found).1] at hlater
      obtain rfl := Option.some.inj hlater
      cases isOpen
  · have hgiven := consumer_operate found now hreceive hclose
    obtain rfl := Option.some.inj (hlater.symm.trans hgiven)
    have hopen : consumer.closed = false := by
      rw [← isOpen]
      unfold Consumer.given Consumer.offered
      split
      · split <;> rfl
      · rfl
    rw [drawn_of_ne hreceive, Consumer.given_of_topic topic hopen]
    exact ⟨hopen, rfl⟩

/-- A consumer that was not there before an operation was created in it, with an empty buffer. -/
theorem created_of_absent {operation : Operation} (absent : broker.consumers.length ≤ index)
    (hlater : (broker.operate now operation).consumers[index]? = some later) :
    ∃ session, operation = .request (.createConsumer session later.destination) ∧
      (broker.createConsumer session later.destination).1 = .ok ⟨index⟩ ∧ later.buffer = [] := by
  have hlt := (List.getElem?_eq_some_iff.1 hlater).1
  rcases broker.consumers_cases now operation with
    ⟨session, destination, created, rfl, hanswer, rfl, hempty, hcreated⟩ |
      ⟨handle, changed, -, hset⟩ | hgiven
  · rw [hcreated] at hlater hlt
    rw [List.length_append, List.length_singleton] at hlt
    obtain rfl : index = broker.consumers.length := by omega
    rw [List.getElem?_concat_length] at hlater
    obtain rfl := Option.some.inj hlater
    exact ⟨session, rfl, hanswer, hempty⟩
  · rw [hset, List.length_set] at hlt
    omega
  · rw [hgiven, List.length_map] at hlt
    omega

/-- Consumers stay. -/
theorem length_consumers_le (broker : Broker) (now : Int64) (operation : Operation) :
    broker.consumers.length ≤ (broker.operate now operation).consumers.length := by
  rcases broker.consumers_cases now operation with
    ⟨_, _, _, -, -, -, -, hcreated⟩ | ⟨_, _, -, hset⟩ | hgiven
  · simp [hcreated]
  · simp [hset]
  · simp [hgiven]

/-- A consumer takes nothing before it is created. -/
theorem drawnAfter_of_absent {credentials : Option Credentials}
    {operations : List (Int64 × Operation)}
    (absent : (after credentials operations).consumers.length ≤ index) :
    drawnAfter credentials operations index = [] := by
  induction operations using List.reverseRecOn with
  | nil => rfl
  | append_singleton operations entry ih =>
    obtain ⟨now, operation⟩ := entry
    rw [after_append, operateAll_singleton] at absent
    have hbefore := Nat.le_trans (length_consumers_le _ now operation) absent
    rw [drawnAfter_concat, ih hbefore, List.nil_append]
    by_cases hreceive : operation = .request (.receive ⟨index⟩)
    · subst hreceive
      have hnone : (after credentials operations).receiver? ⟨index⟩ = none := by
        simp only [receiver?, openConsumer?, List.getElem?_eq_none hbefore]
      rw [drawn, if_pos rfl]
      simp only [departures, hnone, List.map_nil]
    · exact drawn_of_ne hreceive

/-- The stream of a subscriber starts when it is created: what it has taken since, followed by its
buffer, is what was accepted for its topic since. -/
theorem exists_creation {credentials : Option Credentials} {operations : List (Int64 × Operation)}
    (found : (after credentials operations).consumers[index]? = some consumer)
    (topic : consumer.destination = .topic name) (isOpen : consumer.closed = false) :
    ∃ earlier now session later,
      operations = earlier ++ (now, .request (.createConsumer session (.topic name))) :: later ∧
      ((after credentials earlier).createConsumer session (.topic name)).1 = .ok ⟨index⟩ ∧
      (after credentials operations).published (.topic name) =
        (after credentials earlier).published (.topic name) ++
          (drawnAfter credentials operations index ++ consumer.buffer) := by
  induction operations using List.reverseRecOn generalizing consumer with
  | nil => simp [after, operateAll] at found
  | append_singleton operations entry ih =>
    obtain ⟨now, operation⟩ := entry
    rw [after_append, operateAll_singleton] at found ⊢
    rw [published_operate, drawnAfter_concat]
    -- The stream is empty at the creation, and later operations append the same to both sides.
    cases hbefore : (after credentials operations).consumers[index]? with
    | none =>
      have habsent := List.getElem?_eq_none_iff.1 hbefore
      obtain ⟨session, rfl, hanswer, hempty⟩ := created_of_absent habsent found
      rw [topic] at hanswer
      refine ⟨operations, now, session, [], by rw [topic], hanswer, ?_⟩
      rw [drawnAfter_of_absent habsent, drawn_of_ne (by simp), hempty]
      rfl
    | some before =>
      have hdestination : before.destination = .topic name := by
        obtain ⟨through, -, hstep⟩ := (after credentials operations).operate_step now operation
        obtain ⟨same, hsame, hd, -⟩ := hstep.consumers hbefore
        obtain rfl := Option.some.inj (hsame.symm.trans found)
        exact hd.symm.trans topic
      obtain ⟨hopen, hstream⟩ := stream_operate hbefore hdestination found isOpen
      obtain ⟨earlier, moment, session, later, hoperations, hanswer, hpublished⟩ :=
        ih hbefore hdestination hopen
      refine ⟨earlier, moment, session, later ++ [(now, operation)], by simp [hoperations],
        hanswer, ?_⟩
      rw [hpublished]
      simp only [List.append_assoc, hstream]

end Broker

/-! ## Where messages do not go -/

namespace Contents

/-- What goes back to a queue when something happens: what a session that is closed held from it. -/
def GoesBack (before after : Contents) (name : String) (back : List Message) : Prop :=
  back = [] ∨ ∃ (index : Nat) (session : Session), before.sessions[index]? = some session ∧
    after.sessions[index]? = some { session with closed := true, held := [] } ∧
    back = (messagesFrom name session.held).map
      fun message => { message with redelivered := true }

/-- What a consumer, by its position, buffers for a destination. -/
def bufferedFor (contents : Contents) (index : Nat) (destination : Destination) : List Message :=
  match contents.consumers[index]? with
  | some consumer => if consumer.destination = destination then consumer.buffer else []
  | none => []

/-- A consumer buffers messages for its destination. -/
theorem bufferedFor_self (contents : Contents) {index : Nat} {consumer : Consumer}
    (found : contents.consumers[index]? = some consumer) :
    contents.bufferedFor index consumer.destination = consumer.buffer := by
  simp only [bufferedFor, found, if_true]

namespace Step

variable {now : Int64} {before after : Contents} {through : Option Nat}
  {departures : List Departure} {new : Option (Destination × Message)}

/-- A step puts on a queue what is accepted for it, and what goes back to it. -/
theorem queue (h : Step now before through departures after)
    (hnew : after.accepted = before.accepted ++ new.toList) (name : String) :
    ∃ back rest, rest <:+ (before.view name).waiting ∧
      (after.view name).waiting =
        back ++ rest ++ (new.toList.filter (·.1 = .queue name)).map (·.2) ∧
      before.GoesBack after name back := by
  -- A step that accepts nothing and puts nothing back can only shorten the queue.
  have hsame : after.accepted = before.accepted →
      (after.view name).waiting <:+ (before.view name).waiting →
      ∃ back rest, rest <:+ (before.view name).waiting ∧ (after.view name).waiting =
        back ++ rest ++ (new.toList.filter (·.1 = .queue name)).map (·.2) ∧
        before.GoesBack after name back := by
    intro he hsuffix
    refine ⟨[], _, hsuffix, ?_, .inl rfl⟩
    rw [eq_none_of_append (he.symm.trans hnew)]
    exact (List.append_nil _).symm
  have htaken : ∀ (index : Nat) (consumer : Consumer),
      ((before.withoutTaken now index consumer).view name).waiting <:+
        (before.view name).waiting := by
    intro index consumer
    rw [view_withoutTaken]
    split
    · rename_i hd
      have hsource : before.source consumer = (before.view name).waiting := by
        simp [Contents.source, hd, view]
      rw [← hsource]
      exact (List.tail_suffix _).trans (List.dropWhile_suffix _)
    · exact List.suffix_rfl
  cases h with
  | accept destination message identified =>
    obtain rfl := Option.toList_eq_singleton_iff.1 (List.append_cancel_left hnew).symm
    refine ⟨[], _, List.suffix_rfl, ?_, .inl rfl⟩
    rw [view_accept]
    by_cases hd : destination = .queue name <;> simp [hd, View.accept]
  | closeSession index session found =>
    refine ⟨_, _, List.suffix_rfl, ?_, .inr ⟨index, session, found, ?_, rfl⟩⟩
    · rw [view_closeSession name rfl found, eq_none_of_append hnew, ← view_held name found]
      exact (List.append_nil _).symm
    · exact List.getElem?_set_self (List.getElem?_eq_some_iff.1 found).1
  | takeOver index consumer session found of unheld =>
    exact hsame (accepted_withoutTaken _ _ _ _) (htaken index consumer)
  | takeHeld index consumer session message id found of client isOpen next identified =>
    exact hsame (accepted_withoutTaken _ _ _ _) (htaken index consumer)
  | _ => exact hsame rfl List.suffix_rfl

/-- A step puts in a buffer what is accepted for its destination. -/
theorem buffer (h : Step now before through departures after)
    (hnew : after.accepted = before.accepted ++ new.toList) {index : Nat} {consumer : Consumer}
    (hconsumer : after.consumers[index]? = some consumer) :
    ∃ rest more, consumer.buffer = rest ++ more ∧
      rest <:+ before.bufferedFor index consumer.destination ∧
      more <+ (new.toList.filter (·.1 = consumer.destination)).map (·.2) := by
  -- In every case but one, the buffer is what is left of what it was.
  suffices hcases : consumer.buffer <:+ before.bufferedFor index consumer.destination ∨
      ∃ destination message, new = some (destination, message) ∧
        ∃ earlier, before.consumers[index]? = some earlier ∧
          consumer = earlier.offered destination message by
    rcases hcases with hless | ⟨destination, message, rfl, earlier, hearlier, rfl⟩
    · exact ⟨_, [], (List.append_nil _).symm, hless, List.nil_sublist _⟩
    · unfold Consumer.offered
      split
      · rename_i hoffered
        refine ⟨earlier.buffer, [message], rfl, ?_, by simp [hoffered.2.1]⟩
        exact (before.bufferedFor_self hearlier).symm ▸ List.suffix_rfl
      · refine ⟨earlier.buffer, [], (List.append_nil _).symm, ?_, List.nil_sublist _⟩
        exact (before.bufferedFor_self hearlier).symm ▸ List.suffix_rfl
  have hkept : before.consumers[index]? = some consumer →
      consumer.buffer <:+ before.bufferedFor index consumer.destination :=
    fun hbefore => (before.bufferedFor_self hbefore).symm ▸ List.suffix_rfl
  have hset : ∀ (i : Nat) (old changed : Consumer), before.consumers[i]? = some old →
      changed.destination = old.destination → changed.buffer <:+ old.buffer →
      (before.consumers.set i changed)[index]? = some consumer →
      consumer.buffer <:+ before.bufferedFor index consumer.destination := by
    intro i old changed hold hdestination hbuffer hlater
    by_cases hi : i = index
    · subst hi
      rw [List.getElem?_set_self (List.getElem?_eq_some_iff.1 hold).1] at hlater
      obtain rfl := Option.some.inj hlater
      rw [hdestination, before.bufferedFor_self hold]
      exact hbuffer
    · rw [List.getElem?_set_ne hi] at hlater
      exact hkept hlater
  have htaken : ∀ (i : Nat) (old : Consumer), before.consumers[i]? = some old →
      (before.withoutTaken now i old).consumers[index]? = some consumer →
      consumer.buffer <:+ before.bufferedFor index consumer.destination := by
    intro i old hold hlater
    unfold withoutTaken at hlater
    split at hlater
    · exact hkept hlater
    · refine hset i old { old with buffer := (Broker.takeBuffered now old.buffer).2 } hold rfl ?_
        hlater
      rw [Broker.takeBuffered_eq]
      exact (List.tail_suffix _).trans (List.dropWhile_suffix _)
  cases h with
  | openConsumer opened empty =>
    left
    rw [List.getElem?_append] at hconsumer
    split at hconsumer
    · exact hkept hconsumer
    · obtain rfl := List.mem_singleton.1 (List.mem_of_getElem? hconsumer)
      rw [empty]
      exact List.nil_suffix
  | closeConsumer i old hold =>
    exact .inl (hset i old { old with closed := true, buffer := [] } hold rfl List.nil_suffix
      hconsumer)
  | accept destination message identified =>
    right
    change (before.consumers.map _)[index]? = some consumer at hconsumer
    rw [List.getElem?_map, Option.map_eq_some_iff] at hconsumer
    obtain ⟨earlier, hearlier, rfl⟩ := hconsumer
    have hone := List.append_cancel_left hnew
    exact ⟨_, _, Option.toList_eq_singleton_iff.1 hone.symm, earlier, hearlier, rfl⟩
  | takeOver i old session hold => exact .inl (htaken i old hold hconsumer)
  | takeHeld i old session message id hold => exact .inl (htaken i old hold hconsumer)
  | _ => exact .inl (hkept hconsumer)

end Step

end Contents

namespace Broker

/-- An operation keeps destinations apart. A queue holds what is left of what it held, what goes
back to it in front and what is accepted for it behind, and a buffer holds what is left of what it
held, with nothing behind but what is accepted for its destination. -/
structure Separates (broker : Broker) (now : Int64) (operation : Operation) : Prop where
  queue : ∀ name, ∃ back rest, rest <:+ broker.queue name ∧
    (broker.operate now operation).queue name =
      back ++ rest ++ broker.arrivals now operation (.queue name) ∧
    broker.contents.GoesBack (broker.operate now operation).contents name back
  buffer : ∀ (index : Nat) (consumer : Consumer),
    (broker.operate now operation).consumers[index]? = some consumer →
    ∃ rest more, consumer.buffer = rest ++ more ∧
      rest <:+ broker.contents.bufferedFor index consumer.destination ∧
      more <+ broker.arrivals now operation consumer.destination

/-- Every operation keeps destinations apart. -/
theorem separates (broker : Broker) (now : Int64) (operation : Operation) :
    broker.Separates now operation := by
  obtain ⟨through, -, hstep⟩ := broker.operate_step now operation
  have hnew := broker.accepted_operate now operation
  exact ⟨hstep.queue hnew, fun _ _ hlater => hstep.buffer hnew hlater⟩

/-- Messages for a destination arrive when somebody publishes or sends them to it. -/
theorem arrivals_eq_nil_or (broker : Broker) (now : Int64) (operation : Operation)
    (destination : Destination) : broker.arrivals now operation destination = [] ∨
      (∃ message, operation = .publish destination message) ∨
      ∃ producer message, operation = .request (.send producer destination message) := by
  rw [or_iff_not_imp_left, arrivals]
  intro harrives
  unfold submission? at harrives
  split at harrives
  · rename_i other message
    by_cases hd : other = destination
    · exact .inl ⟨message, by rw [hd]⟩
    · simp [Submission.entry, hd] at harrives
  · rename_i producer other message
    by_cases hd : other = destination
    · exact .inr ⟨producer, message, by rw [hd]⟩
    · split at harrives <;> simp [Submission.entry, hd] at harrives
  · simp at harrives

/-- Every subscriber is given the whole of its topic and nothing else. In every run, what an open
consumer of a topic took so far, received or discarded, followed by its buffer, is what was accepted
for the topic since the consumer was created, and what it received of that is what its receives were
answered with. An operation that is not a receive or a close of its own adds to its buffer what it
publishes or sends to the topic, and changes nothing of it. And no message goes to another
destination than its own: neither when it is accepted, nor when a session puts back what it holds,
because it holds every delivery for the destination that it received it from. What was received
according to the log of the run is what receives were answered with. -/
theorem subscribers_share_topic (credentials : Option Credentials)
    (operations : List (Int64 × Operation)) :
    let broker := after credentials operations
    (∀ index consumer name, broker.consumers[index]? = some consumer →
      consumer.destination = .topic name → consumer.closed = false →
      (∃ earlier now session later,
        operations = earlier ++ (now, .request (.createConsumer session (.topic name))) :: later ∧
        ((after credentials earlier).createConsumer session (.topic name)).1 = .ok ⟨index⟩ ∧
        broker.published (.topic name) = (after credentials earlier).published (.topic name) ++
          (drawnAfter credentials operations index ++ consumer.buffer)) ∧
      (∃ departures : List Departure,
        drawnAfter credentials operations index = departures.map (·.message) ∧
        departures.filter (·.isReceipt) =
          ((handoversAfter credentials operations).filter (·.consumer = index)).map
            (·.departure)) ∧
      ∀ now operation, operation ≠ .request (.receive ⟨index⟩) →
        operation ≠ .request (.closeConsumer ⟨index⟩) →
        (broker.operate now operation).consumers[index]? = some { consumer with
          buffer := consumer.buffer ++ broker.arrivals now operation (.topic name) } ∧
        (broker.arrivals now operation (.topic name) = [] ∨
          (∃ message, operation = .publish (.topic name) message) ∨
          ∃ producer message, operation = .request (.send producer (.topic name) message))) ∧
    (∀ now operation, broker.Separates now operation) ∧
    (∀ (index : Nat) (session : Session), broker.sessions[index]? = some session →
      ∀ delivery ∈ session.held, .received index .client delivery.destination delivery.message ∈
        departedAfter credentials operations) ∧
    (departedAfter credentials operations).filter (·.isReceipt) =
      (handoversAfter credentials operations).map (·.departure) := by
  intro broker
  refine ⟨?_, broker.separates, ?_, filter_departedAfter credentials operations⟩
  · intro index consumer name found topic isOpen
    refine ⟨exists_creation found topic isOpen, exists_departures_drawnAll _ index operations,
      fun now operation hreceive hclose => ?_⟩
    refine ⟨?_, broker.arrivals_eq_nil_or now operation (.topic name)⟩
    rw [consumer_operate found now hreceive hclose, Consumer.given_of_topic topic isOpen]
    rfl
  · intro index session found delivery hdelivery
    have howed := (traced_after credentials operations).held index session found
    exact (howed delivery hdelivery).received

/-- One of two subscribers of a topic comes late, and the other has received a message. -/
def subscribedRun : List (Int64 × Operation) :=
  let topic := Destination.topic "news"
  let session : SessionHandle := ⟨0, "session-1-2", .client⟩
  [(1, .request (.connect none)),
   (2, .request (.startConnection ⟨0⟩)),
   (3, .request (.createSession ⟨0⟩ .client)),
   (4, .request (.createConsumer session topic)),
   (5, .publish topic { id := some ⟨"A"⟩, body := .text "a" }),
   (6, .publish (.queue "news") { id := some ⟨"B"⟩, body := .text "b" }),
   (7, .request (.createConsumer session topic)),
   (8, .publish topic { id := some ⟨"C"⟩, body := .text "c" }),
   (9, .request (.receive ⟨0⟩)),
   (10, .request (.closeSession session))]

/-- Each of the two has in its buffer what it did not receive of what came after it, and only the
first one was given a message. -/
theorem subscribers_share_topic_subscribedRun :
    let broker := after none subscribedRun
    (broker.consumers.map fun consumer => consumer.buffer.map (·.body)) =
        [[.text "c"], [.text "c"]] ∧
      ((broker.queue "news").map (·.body)) = [.text "b"] ∧
      (handoversAfter none subscribedRun).map (fun handover =>
        (handover.consumer, handover.message.body)) = [(0, .text "a")] ∧
      ∀ index consumer, broker.consumers[index]? = some consumer →
        ∃ earlier, broker.published (.topic "news") = earlier ++
          (drawnAfter none subscribedRun index ++ consumer.buffer) := by
  refine ⟨by decide +kernel, by decide +kernel, by decide +kernel, fun index consumer found => ?_⟩
  have hall : ∀ consumer ∈ (after none subscribedRun).consumers,
      consumer.destination = .topic "news" ∧ consumer.closed = false := by decide +kernel
  obtain ⟨topic, isOpen⟩ := hall consumer (List.mem_of_getElem? found)
  obtain ⟨⟨earlier, -, -, -, -, -, hpublished⟩, -⟩ :=
    (subscribers_share_topic none subscribedRun).1 index consumer "news" found topic isOpen
  exact ⟨_, hpublished⟩

end Broker

end BrokerConnector
