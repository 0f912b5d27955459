import BrokerConnector.Proofs.Broker.Grants
import BrokerConnector.Proofs.Broker.Producers
import BrokerConnector.Proofs.Pool

/-!
# A broker that a writer shares with those who read

A writer sends numbered records to one destination, and the splits of a read take records from one
destination, at the same broker. A `Roster` is what they know of the broker together: who sits at
which session, what waits there for its acknowledgment, and which split took which number.

`Roster.Valid` says that the roster agrees with the broker. A session holds nothing but what waits
there, and what was taken and what can still be received are records of different numbers, in
order. So nothing that was taken comes back as long as no session is closed at which something
waits. `Roster.Goes` is what a request of one of the parts does to a roster: it stays valid, and
the other parts find what they left. There is one lemma for each request.
-/

namespace BrokerConnector

open Crew

/-! ## What can be received -/

namespace Contents

variable {destination : Destination}

/-- The messages that can be received from a destination. A topic has one subscriber at most. -/
def supply (contents : Contents) : Destination → List Message
  | .queue name => (contents.waiting.filter (·.queue = name)).map (·.message)
  | .topic _ => contents.consumers.flatMap (·.buffer)

/-- The only consumer is the one that is found. -/
theorem eq_singleton_of_found {consumers : List Consumer} {index : Nat} {consumer : Consumer}
    (hone : consumers.length ≤ 1) (found : consumers[index]? = some consumer) :
    index = 0 ∧ consumers = [consumer] := by
  obtain ⟨hlt, rfl⟩ := List.getElem?_eq_some_iff.1 found
  match consumers, index with
  | [only], 0 => exact ⟨rfl, rfl⟩
  | [], _ => simp at hlt
  | [only], index + 1 => simp at hlt
  | _ :: _ :: _, _ => simp at hone

/-- The message that a consumer takes can be received before what can be received then. -/
theorem supply_withoutTaken (contents : Contents) (now : Int64) {index : Nat} {consumer : Consumer}
    (found : contents.consumers[index]? = some consumer)
    (bound : consumer.destination = destination)
    (hone : destination.isTopic = true → contents.consumers.length ≤ 1) :
    ((contents.next? now consumer).toList ++
      (contents.withoutTaken now index consumer).supply destination).Sublist
        (contents.supply destination) := by
  have hsplit : ∀ messages : List Message, messages.head?.toList ++ messages.tail = messages := by
    intro messages
    cases messages <;> rfl
  subst bound
  cases hd : consumer.destination with
  | queue name =>
    simp only [next?, source, withoutTaken, hd, supply, Broker.takeWaiting_filter_self, hsplit]
    exact List.dropWhile_sublist _
  | topic name =>
    obtain ⟨rfl, hconsumers⟩ := eq_singleton_of_found (hone (by rw [hd]; rfl)) found
    simp only [next?, source, withoutTaken, hd, supply, hconsumers, Broker.takeBuffered_eq,
      List.set_cons_zero, List.flatMap_singleton, hsplit]
    exact List.dropWhile_sublist _

/-- A message can be received at most from the destination that it is for. -/
theorem supply_accept (contents : Contents) (target : Destination) (message : Message)
    (bound : ∀ consumer ∈ contents.consumers, consumer.destination = destination)
    (hone : destination.isTopic = true → contents.consumers.length ≤ 1) :
    ((contents.accept target message).supply destination).Sublist
      (contents.supply destination ++ if target = destination then [message] else []) := by
  cases destination with
  | queue name =>
    cases target with
    | queue other =>
      by_cases he : other = name
      · simp [supply, accept, Message.queuedFor, he]
      · simp [supply, accept, Message.queuedFor, he]
    | topic other => simp [supply, accept, Message.queuedFor]
  | topic name =>
    simp only [supply, accept]
    rcases hconsumers : contents.consumers with _ | ⟨consumer, _ | ⟨second, others⟩⟩
    · simp
    · have hdestination := bound consumer (by simp [hconsumers])
      by_cases he : target = .topic name
      · by_cases hopen : consumer.closed = false
        · simp [Consumer.offered, hdestination, he, hopen, Destination.isTopic]
        · simp [Consumer.offered, hopen]
      · simp [Consumer.offered, hdestination, Ne.symm he, he]
    · have htwo := hone rfl
      simp [hconsumers] at htwo

end Contents

/-- A consumer that takes a message keeps its place. -/
theorem Broker.consumers_take (broker : Broker) (now : Int64) {position : Nat} {consumer : Consumer}
    (found : broker.consumers[position]? = some consumer) :
    ∃ changed : Consumer, changed.destination = consumer.destination ∧
      changed.session = consumer.session ∧
        (broker.take now position consumer).2.consumers =
          broker.consumers.set position changed := by
  cases hd : consumer.destination with
  | queue name =>
    refine ⟨consumer, hd, rfl, ?_⟩
    obtain ⟨hlt, rfl⟩ := List.getElem?_eq_some_iff.1 found
    simp only [take, hd]
    exact (List.set_getElem_self hlt).symm
  | topic name =>
    exact ⟨{ consumer with buffer := (takeBuffered now consumer.buffer).2 }, hd, rfl,
      by simp only [take, hd]⟩

/-- Whether a request is about a connection or a name. -/
def BrokerRequest.isPlain : BrokerRequest → Bool
  | connect _ | startConnection _ | stopConnection _ | closeConnection _ | resolve _ _ => true
  | _ => false

/-- Whether a request prepares for sending or subscribing. -/
def BrokerRequest.isPreparing : BrokerRequest → Bool
  | createSession _ _ | createProducer _ _ => true
  | request => request.isPlain

/-- A request that prepares sends nothing and changes no consumer. -/
theorem Broker.perform_of_preparing (broker : Broker) (now : Int64) {request : BrokerRequest}
    (h : request.isPreparing = true) :
    (broker.perform now request).2.messageCount = broker.messageCount ∧
      (broker.perform now request).2.consumers = broker.consumers := by
  have hcount := broker.accepted_perform now request
  have hquiet := @Broker.contents_perform_of_quiet broker now request
  cases request with
  | connect | startConnection | stopConnection | closeConnection | resolve | createProducer =>
    exact ⟨(hcount (by simp)).2, congrArg Contents.consumers (hquiet trivial)⟩
  | createSession connection mode =>
    refine ⟨(hcount (by simp)).2, perform_snd rfl ?_⟩
    rintro _ _ ⟨⟩
    rfl
  | _ => cases h

namespace Loopback

/-! ## Records by their numbers -/

/-- What tells a record apart: the identifier of its message and its text. -/
def labelOf (message : Message) : Option MessageId × Option String :=
  (message.id, message.text?)

/-- What the record of a number is told apart by. -/
def numbered (number : Nat) : Option MessageId × Option String :=
  (some (Broker.messageIdOf (number + 1)), some ("record-" ++ toString number))

/-- What was taken, and what can be received, are records of numbers that were offered, in
order. -/
def Supplied (offered taken : List Nat) (supply : List Message) : Prop :=
  ∃ numbers, supply.map labelOf = numbers.map numbered ∧ (taken ++ numbers).Sublist offered

namespace Supplied

variable {offered taken : List Nat} {supply less : List Message} {message : Message}

/-- Where less can be received, it is among what was offered. -/
theorem lessen (h : Supplied offered taken supply) (hless : less.Sublist supply) :
    Supplied offered taken less := by
  obtain ⟨numbers, hnumbers, hsublist⟩ := h
  have hlabels := hless.map labelOf
  rw [hnumbers] at hlabels
  obtain ⟨fewer, hfewer, hsame⟩ := List.sublist_map_iff.1 hlabels
  exact ⟨fewer, hsame, (hfewer.append_left taken).trans hsublist⟩

/-- The record of the next number can be received. -/
theorem offer (h : Supplied offered taken supply) {number : Nat}
    (hnumber : labelOf message = numbered number) :
    Supplied (offered ++ [number]) taken (supply ++ [message]) := by
  obtain ⟨numbers, hnumbers, hsublist⟩ := h
  refine ⟨numbers ++ [number], by simp [hnumbers, hnumber], ?_⟩
  rw [← List.append_assoc]
  exact hsublist.append_right _

/-- What is taken first is the record of a number. -/
theorem take (h : Supplied offered taken (message :: supply)) :
    ∃ number, labelOf message = numbered number ∧
      Supplied offered (taken ++ [number]) supply := by
  obtain ⟨numbers, hnumbers, hsublist⟩ := h
  cases numbers with
  | nil => cases hnumbers
  | cons number rest =>
    obtain ⟨hnumber, hrest⟩ := List.cons.inj hnumbers
    exact ⟨number, hnumber, rest, hrest, by simpa using hsublist⟩

end Supplied

/-! ## Rosters -/

/-- Where a loopback writes and reads. -/
structure Exchange where
  site : Nat
  read : Destination
  /-- How many splits are asked for. -/
  desired : Nat
  write : Destination

/-- The numbers of the records that can be read once `count` of them were written. -/
def Exchange.offered (exchange : Exchange) (count : Nat) : List Nat :=
  if exchange.write = exchange.read then List.range count else []

/-- One of those who share the broker. -/
inductive Part where
  | writer
  | split (index : Nat)
  deriving DecidableEq

/-- What the writer and the splits know of their broker together. -/
structure Roster where
  /-- Who sits at a session, by its position, and what waits there for its acknowledgment. -/
  seats : Nat → Option (Part × List MessageId)
  /-- The numbers of the records that were taken, each with the split that took it, in order. -/
  taken : List (Nat × Nat)
  broker : Broker

namespace Roster

/-- What waits at a session for its acknowledgment. -/
def due (roster : Roster) (index : Nat) : List MessageId :=
  match roster.seats index with
  | some (_, ids) => ids
  | none => []

/-- A roster agrees with the broker. -/
structure Valid (exchange : Exchange) (roster : Roster) : Prop where
  accepts : exchange.write ∉ roster.broker.rejected
  /-- What a session holds waits there for its acknowledgment. -/
  held : ∀ (index : Nat) (session : Session), roster.broker.sessions[index]? = some session →
    ∀ delivery ∈ session.held, session.mode = .client ∧ delivery.id ∈ roster.due index
  /-- Nobody sits at a session that is not opened yet. -/
  fresh : ∀ index, roster.broker.sessions.length ≤ index → roster.seats index = none
  supplied : Supplied (exchange.offered roster.broker.messageCount) (roster.taken.map (·.2))
    (roster.broker.contents.supply exchange.read)
  bound : ∀ consumer ∈ roster.broker.consumers, consumer.destination = exchange.read
  /-- A topic has one subscriber at most. -/
  single : exchange.read.isTopic = true → roster.broker.consumers.length ≤ 1

/-- A part does something at the broker. The roster is valid afterwards, and the other parts find
what they left. -/
structure Goes (exchange : Exchange) (part : Part) (first second : Roster) : Prop where
  valid : second.Valid exchange
  seats : ∀ index other ids, other ≠ part → first.seats index = some (other, ids) →
    second.seats index = some (other, ids) ∧
      second.broker.sessions[index]? = first.broker.sessions[index]?
  taken : ∀ index, .split index ≠ part → own index second.taken = own index first.taken
  consumers : ∀ (index : Nat) (consumer : Consumer),
    first.broker.consumers[index]? = some consumer →
      ∃ later, second.broker.consumers[index]? = some later ∧ later.session = consumer.session
  /-- The writer alone has a producer and sends. -/
  writes : part ≠ .writer → second.broker.producers = first.broker.producers ∧
    second.broker.messageCount = first.broker.messageCount
  /-- The writer does not subscribe. -/
  subscribers : part = .writer →
    second.broker.consumers.length = first.broker.consumers.length

variable {exchange : Exchange} {part : Part} {first second third roster : Roster} {after : Broker}
  {now : Int64}

/-- Doing nothing is something that a part can do. -/
theorem Valid.goes (h : roster.Valid exchange) : roster.Goes exchange part roster where
  valid := h
  seats := fun _ _ _ _ hseat => ⟨hseat, rfl⟩
  taken := fun _ _ => rfl
  consumers := fun _ consumer found => ⟨consumer, found, rfl⟩
  writes := fun _ => ⟨rfl, rfl⟩
  subscribers := fun _ => rfl

theorem Goes.trans (h : first.Goes exchange part second) (h' : second.Goes exchange part third) :
    first.Goes exchange part third where
  valid := h'.valid
  seats := by
    intro index other ids hother hseat
    obtain ⟨hsecond, hsession⟩ := h.seats index other ids hother hseat
    obtain ⟨hthird, hsession'⟩ := h'.seats index other ids hother hsecond
    exact ⟨hthird, hsession'.trans hsession⟩
  taken := fun index hindex => (h'.taken index hindex).trans (h.taken index hindex)
  consumers := by
    intro index consumer found
    obtain ⟨later, hlater, hsession⟩ := h.consumers index consumer found
    obtain ⟨last, hlast, hsession'⟩ := h'.consumers index later hlater
    exact ⟨last, hlast, hsession'.trans hsession⟩
  writes := fun hpart =>
    ⟨(h'.writes hpart).1.trans (h.writes hpart).1, (h'.writes hpart).2.trans (h.writes hpart).2⟩
  subscribers := fun hpart => (h'.subscribers hpart).trans (h.subscribers hpart)

/-- What waits at a session is what its seat says. -/
theorem due_of_seat {index : Nat} {ids : List MessageId}
    (h : roster.seats index = some (part, ids)) : roster.due index = ids := by
  simp only [due, h]

/-- One part sits at a session. -/
theorem eq_of_seat {index : Nat} {ids : List MessageId}
    (h : roster.seats index = some (part, ids)) (other : Part) (others : List MessageId)
    (hother : roster.seats index = some (other, others)) : other = part :=
  congrArg Prod.fst (Option.some.inj (hother.symm.trans h))

/-! ## Requests that concern no messages -/

/-- A request that leaves the messages alone leaves the roster as it is. -/
theorem Valid.goes_idle (h : roster.Valid exchange)
    (hcontents : after.contents = roster.broker.contents)
    (hrejected : after.rejected = roster.broker.rejected)
    (hcount : after.messageCount = roster.broker.messageCount)
    (hproducers : part ≠ .writer → after.producers = roster.broker.producers) :
    roster.Goes exchange part { roster with broker := after } := by
  have hsessions : after.sessions = roster.broker.sessions := congrArg Contents.sessions hcontents
  have hconsumers : after.consumers = roster.broker.consumers :=
    congrArg Contents.consumers hcontents
  refine {
    valid := ?_
    seats := fun _ _ _ _ hseat => ⟨hseat, by rw [hsessions]⟩
    taken := fun _ _ => rfl
    consumers := fun _ consumer found => ⟨consumer, by rwa [hconsumers], rfl⟩
    writes := fun hpart => ⟨hproducers hpart, hcount⟩
    subscribers := fun _ => by rw [hconsumers] }
  refine {
    accepts := by rw [hrejected]; exact h.accepts
    held := ?_
    fresh := ?_
    supplied := ?_
    bound := by rw [hconsumers]; exact h.bound
    single := by rw [hconsumers]; exact h.single }
  · rw [hsessions]
    exact h.held
  · rw [hsessions]
    exact h.fresh
  · rw [hcount, hcontents]
    exact h.supplied

/-- A request about connections or names leaves the roster as it is. -/
theorem Valid.goes_plain (h : roster.Valid exchange) {request : BrokerRequest}
    (hplain : request.isPlain = true) (hafter : (roster.broker.perform now request).2 = after) :
    roster.Goes exchange part { roster with broker := after } := by
  have hbooks := roster.broker.books_perform now request
  have hquiet := @Broker.contents_perform_of_quiet roster.broker now request
  subst hafter
  cases request with
  | connect | startConnection | stopConnection | closeConnection | resolve =>
    exact h.goes_idle (hquiet trivial) (congrArg Broker.Books.rejected hbooks)
      (congrArg Broker.Books.messageCount hbooks)
      fun _ => congrArg Broker.Books.producers hbooks
  | _ => cases hplain

/-- A request of the writer about its producer leaves the roster as it is. -/
theorem Valid.goes_producer (h : roster.Valid exchange) {request : BrokerRequest}
    (hproducer : (∃ session bound, request = .createProducer session bound) ∨
      ∃ producer, request = .closeProducer producer)
    (hafter : (roster.broker.perform now request).2 = after) :
    roster.Goes exchange .writer { roster with broker := after } := by
  have hbooks := roster.broker.books_perform now request
  have hquiet := @Broker.contents_perform_of_quiet roster.broker now request
  subst hafter
  rcases hproducer with ⟨session, bound, rfl⟩ | ⟨producer, rfl⟩
  · exact h.goes_idle (hquiet trivial) (congrArg Broker.Books.rejected hbooks)
      (congrArg Broker.Books.messageCount hbooks) fun hpart => (hpart rfl).elim
  · exact h.goes_idle (hquiet trivial) (congrArg Broker.Books.rejected hbooks)
      (congrArg Broker.Books.messageCount hbooks) fun hpart => (hpart rfl).elim

/-! ## Sessions -/

/-- The roster after a part sat down at a session, or something else waits there. -/
def seat (roster : Roster) (part : Part) (index : Nat) (ids : List MessageId) (after : Broker) :
    Roster :=
  { roster with
    seats := Function.update roster.seats index (some (part, ids))
    broker := after }

section

variable {index : Nat} {ids : List MessageId}

@[simp]
theorem seats_seat : (roster.seat part index ids after).seats index = some (part, ids) :=
  Function.update_self index _ roster.seats

theorem seats_seat_of_ne {position : Nat} (h : position ≠ index) :
    (roster.seat part index ids after).seats position = roster.seats position :=
  Function.update_of_ne h _ _

/-- A part changes what waits at a session of its own, or at a new one, and the session holds no
more than that. The other sessions are as they were. -/
theorem Valid.goes_seat (h : roster.Valid exchange)
    (hours : ∀ other others, roster.seats index = some (other, others) → other = part)
    (hsame : ∀ position, position ≠ index →
      after.sessions[position]? = roster.broker.sessions[position]?)
    (hheld : ∀ session, after.sessions[index]? = some session →
      ∀ delivery ∈ session.held, session.mode = .client ∧ delivery.id ∈ ids)
    (hlength : index < after.sessions.length ∧
      roster.broker.sessions.length ≤ after.sessions.length)
    (hsupply : after.contents.supply exchange.read =
      roster.broker.contents.supply exchange.read)
    (hconsumers : after.consumers = roster.broker.consumers)
    (hbooks : after.rejected = roster.broker.rejected ∧
      after.messageCount = roster.broker.messageCount ∧
        after.producers = roster.broker.producers) :
    roster.Goes exchange part (roster.seat part index ids after) := by
  obtain ⟨hrejected, hcount, hproducers⟩ := hbooks
  refine {
    valid := {
      accepts := ?_
      held := ?_
      fresh := ?_
      supplied := ?_
      bound := ?_
      single := ?_ }
    seats := ?_
    taken := fun _ _ => rfl
    consumers := fun _ consumer found => ⟨consumer, ?_, rfl⟩
    writes := fun _ => ⟨hproducers, hcount⟩
    subscribers := fun _ => congrArg List.length hconsumers }
  · change exchange.write ∉ after.rejected
    rw [hrejected]
    exact h.accepts
  · intro position session found delivery hdelivery
    -- The session that changed holds what waits there, and the others hold what they held.
    by_cases he : position = index
    · subst he
      rw [due_of_seat seats_seat]
      exact hheld session found delivery hdelivery
    · rw [due, seats_seat_of_ne he]
      exact h.held position session ((hsame position he).symm.trans found) delivery hdelivery
  · intro position hposition
    change after.sessions.length ≤ position at hposition
    rw [seats_seat_of_ne (by omega)]
    exact h.fresh position (by omega)
  · change Supplied (exchange.offered after.messageCount) _ (after.contents.supply exchange.read)
    rw [hcount, hsupply]
    exact h.supplied
  · change ∀ consumer ∈ after.consumers, _
    rw [hconsumers]
    exact h.bound
  · change _ → after.consumers.length ≤ 1
    rw [hconsumers]
    exact h.single
  · intro position other others hother hposition
    have hne : position ≠ index := by
      rintro rfl
      exact hother (hours other others hposition)
    exact ⟨(seats_seat_of_ne hne).trans hposition, hsame position hne⟩
  · change after.consumers[_]? = _
    rwa [hconsumers]

end

/-- Who opens a session sits there, and nothing waits yet. -/
theorem Valid.goes_createSession (h : roster.Valid exchange) {connection : ConnectionHandle}
    {mode : AcknowledgeMode} {handle : SessionHandle}
    (hgranted : roster.broker.perform now (.createSession connection mode) = (.ok handle, after)) :
    roster.Goes exchange part (roster.seat part handle.index [] after) := by
  obtain ⟨hnew, hindex⟩ := Broker.sessions_of_createSession hgranted
  obtain ⟨⟩ := Broker.granted_of_perform hgranted
  refine h.goes_seat ?_ ?_ ?_ ?_ ?_ rfl ⟨rfl, rfl, rfl⟩
  · intro other others hseat
    rw [h.fresh _ hindex.ge] at hseat
    cases hseat
  · intro position hposition
    dsimp only
    rcases Nat.lt_or_ge position roster.broker.sessions.length with hlt | hge
    · exact List.getElem?_append_left hlt
    · rw [List.getElem?_eq_none hge, List.getElem?_eq_none]
      simp only [List.length_append, List.length_singleton]
      omega
  · intro session found delivery hdelivery
    obtain rfl := Option.some.inj (hnew.symm.trans found)
    cases hdelivery
  · simp only [List.length_append, List.length_singleton]
    omega
  · cases exchange.read <;> rfl

variable {handle : SessionHandle} {id : MessageId} {ids : List MessageId}

/-- A part acknowledges what waits first at its session. Then the rest waits. -/
theorem Valid.goes_acknowledge (h : roster.Valid exchange)
    (hseat : roster.seats handle.index = some (part, id :: ids))
    (hgranted : roster.broker.perform now (.acknowledge handle id) = (.ok (), after)) :
    roster.Goes exchange part (roster.seat part handle.index ids after) := by
  cases Broker.granted_of_perform hgranted with
  | acknowledgeInAuto _ _ session found _ auto =>
    have hlt := (List.getElem?_eq_some_iff.1 found).1
    refine h.goes_seat (eq_of_seat hseat) (fun _ _ => rfl) ?_ ⟨hlt, le_rfl⟩ rfl rfl ⟨rfl, rfl, rfl⟩
    -- A session in auto mode holds nothing.
    intro other hother delivery hdelivery
    obtain rfl := Option.some.inj (found.symm.trans hother)
    cases auto.symm.trans (h.held handle.index session found delivery hdelivery).1
  | acknowledge _ _ session found _ client =>
    have hlt := (List.getElem?_eq_some_iff.1 found).1
    have hdue := h.held handle.index session found
    rw [due_of_seat hseat] at hdue
    refine h.goes_seat (eq_of_seat hseat) ?_ ?_ ?_ ?_ rfl ⟨rfl, rfl, rfl⟩
    · exact fun position hposition => List.getElem?_set_ne (Ne.symm hposition)
    · intro other hother delivery hdelivery
      obtain rfl := Option.some.inj ((List.getElem?_set_self hlt).symm.trans hother)
      obtain ⟨hmem, hne⟩ := List.mem_filter.1 hdelivery
      refine ⟨client, (List.mem_cons.1 (hdue delivery hmem).2).resolve_left ?_⟩
      simpa using hne
    · simpa using hlt
    · cases exchange.read <;> rfl

/-- What a session does not hold does not wait there. -/
theorem Valid.goes_notPending (h : roster.Valid exchange)
    (hseat : roster.seats handle.index = some (part, id :: ids)) {error : BrokerError}
    (hrefused : (roster.broker.perform now (.acknowledge handle id)).1 = .error error)
    (hnot : error.isNotPending = true) :
    roster.Goes exchange part (roster.seat part handle.index ids roster.broker) := by
  have hlt : handle.index < roster.broker.sessions.length := by
    refine Nat.lt_of_not_le fun hle => ?_
    rw [h.fresh _ hle] at hseat
    cases hseat
  refine h.goes_seat (eq_of_seat hseat) (fun _ _ => rfl) ?_ ⟨hlt, le_rfl⟩ rfl rfl
    ⟨rfl, rfl, rfl⟩
  · intro session found delivery hdelivery
    obtain ⟨hclient, hmem⟩ := h.held _ session found delivery hdelivery
    rw [due_of_seat hseat] at hmem
    refine ⟨hclient, (List.mem_cons.1 hmem).resolve_left fun he => ?_⟩
    have hpending := Broker.isNotPending_of_acknowledge hrefused found ⟨delivery, hdelivery, he⟩
    rw [hnot] at hpending
    cases hpending

/-- A part closes its session when nothing waits there. Nothing is put back. -/
theorem Valid.goes_closeSession (h : roster.Valid exchange)
    (hseat : roster.seats handle.index = some (part, []))
    (hgranted : roster.broker.perform now (.closeSession handle) = (.ok (), after)) :
    roster.Goes exchange part { roster with broker := after } := by
  have hsame : roster.seat part handle.index [] after = { roster with broker := after } := by
    rw [seat, ← hseat, Function.update_eq_self]
  rw [← hsame]
  cases Broker.granted_of_perform hgranted with
  | closeSession _ session found =>
    have hlt := (List.getElem?_eq_some_iff.1 found).1
    have hempty : session.held = [] := by
      refine List.eq_nil_iff_forall_not_mem.2 fun delivery hdelivery => ?_
      have hmem := (h.held _ session found delivery hdelivery).2
      rw [due_of_seat hseat] at hmem
      cases hmem
    refine h.goes_seat (eq_of_seat hseat) ?_ ?_ ?_ ?_ rfl ⟨rfl, rfl, rfl⟩
    · exact fun position hposition => List.getElem?_set_ne (Ne.symm hposition)
    · intro other hother delivery hdelivery
      obtain rfl := Option.some.inj ((List.getElem?_set_self hlt).symm.trans hother)
      cases hdelivery
    · simpa using hlt
    · simp only [Broker.contents, Contents.supply, hempty, List.filterMap_nil, List.nil_append]

/-! ## Consumers -/

section

variable {index : Nat} {more : List Nat}

/-- The roster after a split took records of some numbers. -/
def take (roster : Roster) (index : Nat) (more : List Nat) (after : Broker) : Roster :=
  { roster with
    taken := roster.taken ++ more.map (index, ·)
    broker := after }

/-- A split that took nothing left what was taken as it was. -/
theorem take_nil (roster : Roster) (index : Nat) (after : Broker) :
    roster.take index [] after = { roster with broker := after } := by
  simp [take]

/-- What a split took is added to what it took before. -/
theorem own_take (roster : Roster) (index : Nat) (more : List Nat) (after : Broker) :
    own index (roster.take index more after).taken = own index roster.taken ++ more := by
  rw [take, own_append, own_self]

/-- A split changes the consumers and what waits, and takes the records that are gone. -/
theorem Valid.goes_take (h : roster.Valid exchange)
    (hsupplied : Supplied (exchange.offered roster.broker.messageCount)
      (roster.taken.map (·.2) ++ more) (after.contents.supply exchange.read))
    (hbound : ∀ consumer ∈ after.consumers, consumer.destination = exchange.read)
    (hsingle : exchange.read.isTopic = true → after.consumers.length ≤ 1)
    (hconsumers : ∀ (position : Nat) (consumer : Consumer),
      roster.broker.consumers[position]? = some consumer →
        ∃ later, after.consumers[position]? = some later ∧ later.session = consumer.session)
    (hsessions : after.sessions = roster.broker.sessions)
    (hbooks : after.rejected = roster.broker.rejected ∧
      after.messageCount = roster.broker.messageCount ∧
        after.producers = roster.broker.producers) :
    roster.Goes exchange (.split index) (roster.take index more after) := by
  obtain ⟨hrejected, hcount, hproducers⟩ := hbooks
  refine {
    valid := {
      accepts := ?_
      held := ?_
      fresh := ?_
      supplied := ?_
      bound := hbound
      single := hsingle }
    seats := fun _ _ _ _ hseat => ⟨hseat, congrArg (·[_]?) hsessions⟩
    taken := fun position hposition => ?_
    consumers := hconsumers
    writes := fun _ => ⟨hproducers, hcount⟩
    subscribers := fun hpart => by cases hpart }
  · change exchange.write ∉ after.rejected
    rw [hrejected]
    exact h.accepts
  · intro position session found
    exact h.held position session ((congrArg (·[position]?) hsessions).symm.trans found)
  · intro position hposition
    change after.sessions.length ≤ position at hposition
    rw [hsessions] at hposition
    exact h.fresh position hposition
  · change Supplied (exchange.offered after.messageCount) _ _
    rw [hcount]
    simpa [take, Function.comp_def] using hsupplied
  · have hne : index ≠ position := by
      rintro rfl
      exact hposition rfl
    rw [take, own_append, own_of_ne hne, List.append_nil]

/-- A consumer that is changed keeps its place. -/
theorem consumers_set {consumers : List Consumer} {position : Nat} {old changed : Consumer}
    (found : consumers[position]? = some old) (hdestination : changed.destination = old.destination)
    (hsession : changed.session = old.session)
    (bound : ∀ consumer ∈ consumers, consumer.destination = exchange.read) :
    (∀ consumer ∈ consumers.set position changed, consumer.destination = exchange.read) ∧
      ∀ (other : Nat) (consumer : Consumer), consumers[other]? = some consumer →
        ∃ later, (consumers.set position changed)[other]? = some later ∧
          later.session = consumer.session := by
  refine ⟨fun consumer hmem => ?_, fun other consumer hother => ?_⟩
  · rcases List.mem_or_eq_of_mem_set hmem with hold | rfl
    · exact bound consumer hold
    · exact hdestination.trans (bound old (List.mem_of_getElem? found))
  · by_cases he : position = other
    · subst he
      obtain rfl := Option.some.inj (found.symm.trans hother)
      exact ⟨changed, List.getElem?_set_self (List.getElem?_eq_some_iff.1 found).1, hsession⟩
    · exact ⟨consumer, (List.getElem?_set_ne he).trans hother, rfl⟩

/-- A split subscribes. Nobody else subscribed to a topic. -/
theorem Valid.goes_createConsumer (h : roster.Valid exchange) {handle : SessionHandle}
    {consumer : ConsumerHandle}
    (hfirst : exchange.read.isTopic = true → roster.broker.consumers = [])
    (hgranted : roster.broker.perform now (.createConsumer handle exchange.read) =
      (.ok consumer, after)) :
    roster.Goes exchange (.split index) { roster with broker := after } := by
  rw [← roster.take_nil index]
  obtain ⟨⟩ := Broker.granted_of_perform hgranted
  refine h.goes_take ?_ ?_ ?_ ?_ rfl ⟨rfl, rfl, rfl⟩
  · rw [List.append_nil]
    refine h.supplied.lessen ?_
    cases hread : exchange.read with
    | queue name => exact .refl _
    | topic name => simp [Broker.contents, Contents.supply]
  · intro other hother
    rcases List.mem_append.1 hother with hold | hnew
    · exact h.bound other hold
    · obtain rfl := List.mem_singleton.1 hnew
      rfl
  · intro htopic
    simp [hfirst htopic]
  · intro position other hother
    exact ⟨other, (List.getElem?_append_left (List.getElem?_eq_some_iff.1 hother).1).trans hother,
      rfl⟩

/-- A split closes its consumer. -/
theorem Valid.goes_closeConsumer (h : roster.Valid exchange) {consumer : ConsumerHandle}
    (hgranted : roster.broker.perform now (.closeConsumer consumer) = (.ok (), after)) :
    roster.Goes exchange (.split index) { roster with broker := after } := by
  rw [← roster.take_nil index]
  cases Broker.granted_of_perform hgranted with
  | closeConsumer _ old found =>
    let changed : Consumer := { old with closed := true, buffer := [] }
    obtain ⟨hbound, hconsumers⟩ := consumers_set found (show changed.destination = _ from rfl) rfl
      h.bound
    refine h.goes_take ?_ hbound ?_ hconsumers rfl ⟨rfl, rfl, rfl⟩
    · rw [List.append_nil]
      refine h.supplied.lessen ?_
      cases hread : exchange.read with
      | queue name => exact .refl _
      | topic name =>
        obtain ⟨hzero, hconsumers⟩ := Contents.eq_singleton_of_found
          (h.single (by rw [hread]; rfl)) found
        simp [Broker.contents, Contents.supply, hconsumers, hzero]
    · intro htopic
      simpa using h.single htopic

/-- A split whose consumer takes a message takes the record of a number. -/
theorem Valid.goes_broker_take (h : roster.Valid exchange) (index : Nat) (now : Int64)
    {position : Nat} {consumer : Consumer}
    (found : roster.broker.consumers[position]? = some consumer) :
    ∃ more, roster.Goes exchange (.split index)
        (roster.take index more (roster.broker.take now position consumer).2) ∧
      ((roster.broker.contents.next? now consumer).toList.map labelOf = more.map numbered) := by
  have hbound := h.bound consumer (List.mem_of_getElem? found)
  have hsublist := roster.broker.contents.supply_withoutTaken now found hbound h.single
  have hcontents := roster.broker.contents_take now position consumer
  have hbooks := roster.broker.books_take now position consumer
  rw [← hcontents] at hsublist
  obtain ⟨changed, hdestination, hsession, hset⟩ := roster.broker.consumers_take now found
  obtain ⟨hbound', hconsumers⟩ := consumers_set found hdestination hsession h.bound
  have hgoes : ∀ more, Supplied (exchange.offered roster.broker.messageCount)
      (roster.taken.map (·.2) ++ more)
      ((roster.broker.take now position consumer).2.contents.supply exchange.read) →
        roster.Goes exchange (.split index)
          (roster.take index more (roster.broker.take now position consumer).2) := by
    intro more hsupplied
    refine h.goes_take hsupplied ?_ ?_ ?_ ?_ ?_
    · rwa [hset]
    · rw [hset, List.length_set]
      exact h.single
    · rwa [hset]
    · exact (congrArg Contents.sessions hcontents).trans
        (Contents.sessions_withoutTaken _ now position consumer)
    · exact ⟨congrArg Broker.Books.rejected hbooks, congrArg Broker.Books.messageCount hbooks,
        congrArg Broker.Books.producers hbooks⟩
  have hsupplied := h.supplied.lessen hsublist
  cases hnext : roster.broker.contents.next? now consumer with
  | none =>
    rw [hnext] at hsupplied
    exact ⟨[], hgoes [] (by simpa using hsupplied), rfl⟩
  | some message =>
    rw [hnext] at hsupplied
    obtain ⟨number, hnumber, hrest⟩ := hsupplied.take
    exact ⟨[number], hgoes [number] hrest, by simp [hnumber]⟩

/-- More waits at a session than it holds. -/
theorem Valid.goes_await (h : roster.Valid exchange) {index : Nat}
    (hseat : roster.seats index = some (part, ids)) (id : MessageId) {session : Session}
    (found : roster.broker.sessions[index]? = some session) :
    roster.Goes exchange part (roster.seat part index (ids ++ [id]) roster.broker) := by
  refine h.goes_seat (eq_of_seat hseat) (fun _ _ => rfl) ?_
    ⟨(List.getElem?_eq_some_iff.1 found).1, le_rfl⟩ rfl rfl ⟨rfl, rfl, rfl⟩
  intro other hother delivery hdelivery
  obtain ⟨hclient, hmem⟩ := h.held index other hother delivery hdelivery
  rw [due_of_seat hseat] at hmem
  exact ⟨hclient, List.mem_append_left _ hmem⟩

/-- A session in client mode holds a delivery, which waits there. -/
theorem Valid.goes_hold (h : roster.Valid exchange) {index : Nat}
    (hseat : roster.seats index = some (part, ids)) {session : Session}
    (found : roster.broker.sessions[index]? = some session) (hmode : session.mode = .client)
    (delivery : Delivery) :
    roster.Goes exchange part (roster.seat part index (ids ++ [delivery.id])
      (roster.broker.hold index session delivery)) := by
  have hlt := (List.getElem?_eq_some_iff.1 found).1
  refine h.goes_seat (eq_of_seat hseat) ?_ ?_ ?_ ?_ rfl ⟨rfl, rfl, rfl⟩
  · exact fun position hposition => List.getElem?_set_ne (Ne.symm hposition)
  · intro other hother entry hentry
    obtain rfl := Option.some.inj ((List.getElem?_set_self hlt).symm.trans hother)
    refine ⟨hmode, List.mem_append.2 ?_⟩
    rcases List.mem_append.1 hentry with hold | hnew
    · have hmem := (h.held index session found entry (List.mem_filter.1 hold).1).2
      rw [due_of_seat hseat] at hmem
      exact .inl hmem
    · obtain rfl := List.mem_singleton.1 hnew
      exact .inr (List.mem_singleton.2 rfl)
  · simpa [Broker.hold] using hlt
  · cases exchange.read <;> rfl

/-- A split receives at its session. It takes nothing, or the record of a number, which waits there
then. -/
theorem Valid.goes_receive (h : roster.Valid exchange) {consumer : ConsumerHandle} {of : Consumer}
    {answer : Option Message} (hseat : roster.seats of.session = some (.split index, ids))
    (found : roster.broker.consumers[consumer.index]? = some of)
    (hgranted : roster.broker.perform now (.receive consumer) = (.ok answer, after)) :
    match answer with
    | none => roster.Goes exchange (.split index) { roster with broker := after }
    | some message => ∃ number, labelOf message = numbered number ∧
        roster.Goes exchange (.split index)
          ((roster.take index [number] after).seat (.split index) of.session
            (ids ++ [Broker.messageIdOf (number + 1)]) after) := by
  cases Broker.granted_of_perform hgranted with
  | receiveStopped => exact h.goes
  | receive _ of' session receiver =>
    obtain ⟨hconsumer, -, hsession, -⟩ := Broker.receiver?_eq_some receiver
    obtain rfl := Option.some.inj (hconsumer.symm.trans found)
    obtain ⟨more, hgoes, hlabels⟩ := h.goes_broker_take index now found
    have hrest := roster.broker.sessions_take now consumer.index of'
    revert hgranted
    generalize (roster.broker.take now consumer.index of').2 = rest at hgoes hrest ⊢
    cases hnext : roster.broker.contents.next? now of' with
    | none =>
      intro _
      rw [hnext] at hlabels
      obtain rfl : more = [] := List.map_eq_nil_iff.1 hlabels.symm
      rwa [take_nil] at hgoes
    | some message =>
      intro _
      rw [hnext] at hlabels
      obtain ⟨number, rfl⟩ : ∃ number, more = [number] := by
        have hlength := congrArg List.length hlabels
        exact List.length_eq_one_iff.1 (by simpa using hlength.symm)
      have hlabel : labelOf message = numbered number := by simpa using hlabels
      have hid : message.id = some (Broker.messageIdOf (number + 1)) := congrArg Prod.fst hlabel
      -- First the message leaves the stock, then the session holds it.
      let middle := roster.take index [number] rest
      have hmiddle : middle.seats of'.session = some (.split index, ids) := hseat
      have hfound : middle.broker.sessions[of'.session]? = some session :=
        (congrArg (·[of'.session]?) hrest).trans hsession
      refine ⟨number, hlabel, hgoes.trans ?_⟩
      cases hmode : session.mode with
      | client =>
        simp only [Broker.keep, hmode, hid]
        exact hgoes.valid.goes_hold hmiddle hfound hmode
          ⟨Broker.messageIdOf (number + 1), of'.destination, message⟩
      | auto =>
        simp only [Broker.keep, hmode]
        exact hgoes.valid.goes_await hmiddle _ hfound

end

/-! ## Sending -/

/-- A message that a broker keeps has the text and the identifier of its record. -/
theorem labelOf_kept {message : Message} {number : Nat}
    (htext : message.text? = some ("record-" ++ toString number)) (now : Int64)
    (destination : Destination) :
    labelOf (message.kept now destination (Broker.messageIdOf (number + 1))) = numbered number := by
  have hbody : (message.stamped now).body = message.body := by
    unfold Message.stamped
    split <;> rfl
  rw [labelOf, numbered, ← htext]
  simp only [Message.kept, Message.text?, hbody]

/-- The next number is offered if it goes where the splits read. -/
theorem offered_succ (exchange : Exchange) (count : Nat) :
    exchange.offered (count + 1) =
      exchange.offered count ++ if exchange.write = exchange.read then [count] else [] := by
  unfold Exchange.offered
  split
  · exact List.range_succ
  · rfl

/-- The record of the next number is accepted. -/
theorem Valid.goes_accept (h : roster.Valid exchange) {message : Message}
    (hlabel : labelOf message = numbered roster.broker.messageCount)
    (hcontents : after.contents = roster.broker.contents.accept exchange.write message)
    (hrejected : after.rejected = roster.broker.rejected)
    (hcount : after.messageCount = roster.broker.messageCount + 1) :
    roster.Goes exchange .writer { roster with broker := after } := by
  have hsessions : after.sessions = roster.broker.sessions := congrArg Contents.sessions hcontents
  have hconsumers : after.consumers =
      roster.broker.consumers.map (·.offered exchange.write message) :=
    congrArg Contents.consumers hcontents
  have hkept : ∀ consumer : Consumer,
      (consumer.offered exchange.write message).destination = consumer.destination ∧
        (consumer.offered exchange.write message).session = consumer.session := by
    intro consumer
    unfold Consumer.offered
    split <;> exact ⟨rfl, rfl⟩
  refine {
    valid := {
      accepts := by rw [hrejected]; exact h.accepts
      held := fun position session found =>
        h.held position session ((congrArg (·[position]?) hsessions).symm.trans found)
      fresh := by rw [hsessions]; exact h.fresh
      supplied := ?_
      bound := ?_
      single := ?_ }
    seats := fun _ _ _ _ hseat => ⟨hseat, congrArg (·[_]?) hsessions⟩
    taken := fun _ _ => rfl
    consumers := ?_
    writes := fun hpart => (hpart rfl).elim
    subscribers := fun _ => by rw [hconsumers, List.length_map] }
  · have hsublist :=
      roster.broker.contents.supply_accept exchange.write message h.bound h.single
    rw [hcount, hcontents, offered_succ]
    refine Supplied.lessen ?_ hsublist
    by_cases he : exchange.write = exchange.read
    · simp only [he, if_true]
      exact h.supplied.offer hlabel
    · simpa only [he, if_false, List.append_nil] using h.supplied
  · rw [hconsumers]
    intro consumer hconsumer
    obtain ⟨old, hold, rfl⟩ := List.mem_map.1 hconsumer
    exact (hkept old).1.trans (h.bound old hold)
  · rw [hconsumers, List.length_map]
    exact h.single
  · intro position consumer found
    refine ⟨consumer.offered exchange.write message, ?_, (hkept consumer).2⟩
    rw [hconsumers, List.getElem?_map, found, Option.map_some]

/-- The writer sends the record of the next number. -/
theorem Valid.goes_send (h : roster.Valid exchange) {producer : ProducerHandle} {index : Nat}
    {session : Session}
    (hproducer : roster.broker.producers[producer.index]? =
      some { bound := none, session := index })
    (hsession : roster.broker.sessions[index]? = some session) (hopen : session.closed = false)
    {message : Message}
    (htext : message.text? = some ("record-" ++ toString roster.broker.messageCount))
    (now : Int64) :
    ∃ id after, roster.broker.perform now (.send producer exchange.write message) =
        (.ok id, after) ∧
      roster.Goes exchange .writer { roster with broker := after } ∧
      after.messageCount = roster.broker.messageCount + 1 ∧
      after.producers = roster.broker.producers ∧ after.sessions = roster.broker.sessions := by
  have hperform : roster.broker.perform now (.send producer exchange.write message) = _ :=
    Broker.perform_send hproducer hsession hopen exchange.write message
  rw [if_neg h.accepts] at hperform
  refine ⟨_, _, hperform, ?_⟩
  have hlabel := labelOf_kept htext now exchange.write
  generalize message.kept now exchange.write _ = kept at hlabel ⊢
  have hcontents := Broker.contents_deliver
    { roster.broker with messageCount := roster.broker.messageCount + 1 } exchange.write kept
  have hbooks := Broker.books_deliver
    { roster.broker with messageCount := roster.broker.messageCount + 1 } exchange.write kept
  exact ⟨h.goes_accept hlabel hcontents (congrArg Broker.Books.rejected hbooks)
      (congrArg Broker.Books.messageCount hbooks),
    congrArg Broker.Books.messageCount hbooks, congrArg Broker.Books.producers hbooks,
    congrArg Contents.sessions hcontents⟩

end Roster

end Loopback

end BrokerConnector
