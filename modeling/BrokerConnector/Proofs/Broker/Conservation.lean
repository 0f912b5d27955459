import BrokerConnector.Proofs.Broker.Balance
import BrokerConnector.Proofs.Broker.Handovers
import Mathlib.Data.List.Induction
import Mathlib.Data.List.Nodup

/-!
# No message of a queue is lost or doubled

Whatever clients do, a message that was accepted for a queue is in exactly one place. `Place` lists
the places, `Broker.tally` counts a message in each of them, and `Broker.Located` says that the
message is in one place and in no other.

Over a run, the balance of a message is even because identifiers are distinct. That follows from how
they are given out (`Broker.Numbered`), as long as remote clients choose theirs well
(`DistinctIds`).
-/

namespace BrokerConnector

open List

/-! ## Identifiers -/

/-- The identifier that a remote client gives its message. -/
def Operation.explicitId? : Operation → Option MessageId
  | publish _ message => message.id
  | _ => none

/-- The identifiers that remote clients give are distinct, and none of them is among the first
`generated` that the broker gives out. -/
structure DistinctIds (operations : List (Int64 × Operation)) (generated : Nat) : Prop where
  nodup : (operations.filterMap (·.2.explicitId?)).Nodup
  fresh : ∀ id ∈ operations.filterMap (·.2.explicitId?), ∀ number, 0 < number →
    number ≤ generated → id ≠ Broker.messageIdOf number

namespace Broker

/-- Every number gives another identifier. -/
theorem messageIdOf_injective : Function.Injective messageIdOf := by
  intro first second h
  have htext : "ID:danube-mq-" ++ toString first = "ID:danube-mq-" ++ toString second :=
    congrArg MessageId.text h
  have hdigits := congrArg String.toList ((String.append_right_inj _).1 htext)
  rw [Nat.toString_eq_repr, Nat.toString_eq_repr, Nat.toList_repr, Nat.toList_repr] at hdigits
  have hnumber := congrArg (fun digits => Nat.ofDigitChars 10 digits 0) hdigits
  rwa [Nat.ofDigitChars_ten_toDigits, Nat.ofDigitChars_ten_toDigits] at hnumber

/-- A request other than a send accepts no message and gives out no identifier. -/
theorem accepted_perform (broker : Broker) (now : Int64) (request : BrokerRequest)
    (h : ∀ producer destination message, request ≠ .send producer destination message) :
    (broker.perform now request).2.accepted = broker.accepted ∧
      (broker.perform now request).2.messageCount = broker.messageCount := by
  have hbooks := broker.books_perform now request
  cases request with
  | send producer destination message => exact (h _ _ _ rfl).elim
  | _ => exact ⟨congrArg Books.accepted hbooks, congrArg Books.messageCount hbooks⟩

@[simp]
theorem accepted_deliver (broker : Broker) (destination : Destination) (message : Message) :
    (broker.deliver destination message).accepted =
      broker.accepted ++ [(destination, message)] := by
  cases destination <;> rfl

@[simp]
theorem messageCount_deliver (broker : Broker) (destination : Destination) (message : Message) :
    (broker.deliver destination message).messageCount = broker.messageCount := by
  cases destination <;> rfl

/-- An operation accepts a message under the identifier that it gives, or under the next one that
the broker gives out, or accepts nothing. -/
theorem ids_operate (broker : Broker) (now : Int64) (operation : Operation) :
    ((broker.operate now operation).messageCount = broker.messageCount ∧
      (broker.operate now operation).accepted.map (·.2.id) =
        broker.accepted.map (·.2.id) ++ operation.explicitId?.toList.map some) ∨
    (operation.explicitId? = none ∧
      (broker.operate now operation).messageCount = broker.messageCount + 1 ∧
      (broker.operate now operation).accepted.map (·.2.id) =
        broker.accepted.map (·.2.id) ++ [some (messageIdOf (broker.messageCount + 1))]) := by
  cases operation with
  | reject destination => exact .inl ⟨rfl, by simp [operate, reject, Operation.explicitId?]⟩
  | turn switch on =>
    refine .inl ?_
    cases switch <;> exact ⟨rfl, by simp [operate, turn, Operation.explicitId?]⟩
  | publish destination message =>
    cases hid : message.id with
    | some id => exact .inl (by simp [operate, publish, hid, Operation.explicitId?])
    | none => exact .inr (by simp [operate, publish, hid, Operation.explicitId?])
  | request request =>
    by_cases hsend : ∃ producer destination message, request = .send producer destination message
    · obtain ⟨producer, destination, message, rfl⟩ := hsend
      rw [operate]
      refine perform_snd (.inl (by simp [Operation.explicitId?])) ?_
      rintro _ _ ⟨⟩
      exact .inr (by simp [Operation.explicitId?])
    · obtain ⟨haccepted, hcount⟩ := broker.accepted_perform now request
        fun producer destination message he => hsend ⟨producer, destination, message, he⟩
      refine .inl ⟨hcount, ?_⟩
      simp only [operate, haccepted, Operation.explicitId?, Option.toList_none, List.map_nil,
        List.append_nil]

/-- The broker gives out more and more identifiers. -/
theorem messageCount_operate_le (broker : Broker) (now : Int64) (operation : Operation) :
    broker.messageCount ≤ (broker.operate now operation).messageCount := by
  rcases broker.ids_operate now operation with ⟨h, -⟩ | ⟨-, h, -⟩ <;> omega

/-- What a broker accepted has distinct identifiers, each one given by a remote client or given
out by the broker. -/
structure Numbered (broker : Broker) (given : List MessageId) : Prop where
  nodup : (broker.accepted.map (·.2.id)).Nodup
  known : ∀ entry ∈ broker.accepted.map (·.2.id), (∃ id ∈ given, entry = some id) ∨
    ∃ number, 0 < number ∧ number ≤ broker.messageCount ∧ entry = some (messageIdOf number)

/-- An operation keeps the identifiers distinct. -/
theorem Numbered.operate {broker : Broker} {given : List MessageId} (h : broker.Numbered given)
    (now : Int64) {operation : Operation}
    (hnodup : (given ++ operation.explicitId?.toList).Nodup)
    (hfresh : ∀ id ∈ given ++ operation.explicitId?.toList, ∀ number, 0 < number →
      number ≤ (broker.operate now operation).messageCount → id ≠ messageIdOf number) :
    (broker.operate now operation).Numbered (given ++ operation.explicitId?.toList) := by
  obtain ⟨-, -, hdisjoint⟩ := List.nodup_append.1 hnodup
  -- The operation accepts a message under its own identifier, or under the next number, or none.
  rcases broker.ids_operate now operation with ⟨hcount, hids⟩ | ⟨hexplicit, hcount, hids⟩
  · constructor
    · rw [hids]
      refine List.nodup_append.2 ⟨h.nodup, ?_, ?_⟩
      · cases operation.explicitId? <;> simp
      · intro entry hentry other hother he
        obtain ⟨id, hid, rfl⟩ := List.mem_map.1 hother
        rcases h.known entry hentry with ⟨old, hold, rfl⟩ | ⟨number, hpos, hle, rfl⟩
        · exact hdisjoint old hold id hid (Option.some.inj he)
        · exact hfresh id (List.mem_append_right _ hid) number hpos (by omega)
            (Option.some.inj he).symm
    · intro entry hentry
      rw [hids] at hentry
      rcases List.mem_append.1 hentry with hold | hnew
      · rcases h.known entry hold with ⟨id, hid, rfl⟩ | ⟨number, hpos, hle, rfl⟩
        · exact .inl ⟨id, List.mem_append_left _ hid, rfl⟩
        · exact .inr ⟨number, hpos, by omega, rfl⟩
      · obtain ⟨id, hid, rfl⟩ := List.mem_map.1 hnew
        exact .inl ⟨id, List.mem_append_right _ hid, rfl⟩
  · rw [hexplicit, Option.toList_none, List.append_nil] at hfresh ⊢
    constructor
    · rw [hids]
      refine List.nodup_append.2 ⟨h.nodup, List.nodup_singleton _, ?_⟩
      intro entry hentry other hother he
      obtain rfl := List.mem_singleton.1 hother
      rcases h.known entry hentry with ⟨old, hold, rfl⟩ | ⟨number, hpos, hle, rfl⟩
      · exact hfresh old hold _ (Nat.succ_pos _) (by omega) (Option.some.inj he)
      · -- Both are numbers of the broker, and the new one is larger.
        have := messageIdOf_injective (Option.some.inj he)
        omega
    · intro entry hentry
      rw [hids] at hentry
      rcases List.mem_append.1 hentry with hold | hnew
      · rcases h.known entry hold with hgiven | ⟨number, hpos, hle, rfl⟩
        · exact .inl hgiven
        · exact .inr ⟨number, hpos, by omega, rfl⟩
      · obtain rfl := List.mem_singleton.1 hnew
        exact .inr ⟨_, Nat.succ_pos _, by omega, rfl⟩

/-! ## Every run -/

/-- How often a message waits, is held, was acknowledged, handed over or discarded. -/
def total (broker : Broker) (departed : List Departure) (id : MessageId) : Nat :=
  broker.contents.waitingCount id + broker.contents.heldCount id +
    broker.acknowledgmentCount id + departed.countP (·.isHanded id) +
      departed.countP (·.isDiscarded id)

/-- Everything is accounted for: what is held came from what was accepted, and the balance of every
message that is not of a topic is even. -/
structure Conserved (broker : Broker) (departed : List Departure) : Prop where
  traced : broker.contents.Traced departed
  balance : ∀ id, (∀ name message, (.topic name, message) ∈ broker.accepted →
      message.id ≠ some id) →
    broker.total departed id = broker.accepted.countP (·.2.id = some id)

/-- A message with distinct identifiers is accepted once. -/
theorem Numbered.countP_accepted_le {broker : Broker} {given : List MessageId}
    (h : broker.Numbered given) (id : MessageId) :
    broker.accepted.countP (·.2.id = some id) ≤ 1 := by
  have hcount := List.nodup_iff_count_le_one.1 h.nodup (some id)
  rw [List.count, List.countP_map] at hcount
  exact Nat.le_trans (Nat.le_of_eq (List.countP_congr fun entry _ => by simp)) hcount

/-- An operation keeps everything accounted for. -/
theorem Conserved.operate {broker : Broker} {departed : List Departure} {given : List MessageId}
    (h : broker.Conserved departed) (hnumbered : broker.Numbered given) (now : Int64)
    (operation : Operation) :
    (broker.operate now operation).Conserved (departed ++ broker.departures now operation) := by
  obtain ⟨through, -, hstep⟩ := broker.operate_step now operation
  refine ⟨hstep.traced h.traced, fun id htopic => ?_⟩
  obtain ⟨new, hnew, -, -⟩ := hstep.accepted
  have hbefore : ∀ name message, (.topic name, message) ∈ broker.accepted →
      message.id ≠ some id := fun name message hm => htopic name message <| by
    change _ ∈ (broker.operate now operation).contents.accepted
    rw [hnew]
    exact List.mem_append_left _ hm
  have hbalance := h.balance id hbefore
  unfold total at hbalance ⊢
  have hle := hnumbered.countP_accepted_le id
  have hmoved := hstep.balance id h.traced htopic (by omega)
  unfold Contents.Moves at hmoved
  rw [List.countP_append, List.countP_append]
  change _ + _ + (broker.operate now operation).acknowledgmentCount id + _ + _ +
    broker.accepted.countP _ = _ + _ + broker.acknowledgmentCount id +
      (broker.operate now operation).accepted.countP _ at hmoved
  omega

end Broker

/-- Distinct identifiers of a run were distinct before its last operation. -/
theorem DistinctIds.init {broker : Broker} {operations : List (Int64 × Operation)} {now : Int64}
    {operation : Operation}
    (h : DistinctIds (operations ++ [(now, operation)])
      (broker.operate now operation).messageCount) :
    DistinctIds operations broker.messageCount := by
  obtain ⟨hnodup, hfresh⟩ := h
  rw [List.filterMap_append] at hnodup hfresh
  refine ⟨(List.nodup_append.1 hnodup).1, fun id hid number hpos hle => ?_⟩
  exact hfresh id (List.mem_append_left _ hid) number hpos
    (Nat.le_trans hle (broker.messageCount_operate_le now operation))

namespace Broker

/-- After every run with distinct identifiers, everything is accounted for. -/
theorem conserved_after (credentials : Option Credentials) (operations : List (Int64 × Operation))
    (distinct : DistinctIds operations (after credentials operations).messageCount) :
    (after credentials operations).Numbered (operations.filterMap (·.2.explicitId?)) ∧
      (after credentials operations).Conserved (departedAfter credentials operations) := by
  induction operations using List.reverseRecOn with
  | nil =>
    refine ⟨⟨by simp [after, operateAll], by simp [after, operateAll]⟩, ⟨⟨?_, ?_, ?_⟩, ?_⟩⟩ <;>
      simp [after, operateAll, departedAfter, departed, contents, Contents.waitingCount,
        Contents.heldCount, acknowledgmentCount, total]
  | append_singleton operations entry ih =>
    obtain ⟨now, operation⟩ := entry
    rw [after_append, operateAll_singleton] at distinct ⊢
    rw [departedAfter_append, departed_singleton]
    obtain ⟨hnumbered, hconserved⟩ := ih distinct.init
    have hlast : (operations ++ [(now, operation)]).filterMap (·.2.explicitId?) =
        operations.filterMap (·.2.explicitId?) ++ operation.explicitId?.toList := by
      rw [List.filterMap_append]
      cases he : operation.explicitId? <;> simp [he]
    have hnodup := distinct.nodup
    have hfresh := distinct.fresh
    rw [hlast] at hnodup hfresh ⊢
    exact ⟨hnumbered.operate now hnodup hfresh, hconserved.operate hnumbered now operation⟩

end Broker

/-! ## Places -/

/-- Where a message of a queue can be. -/
inductive Place where
  /-- It waits on a queue. -/
  | waiting (queue : String)
  /-- A session, by its position, holds it. -/
  | held (session : Nat)
  | acknowledged
  /-- A session in auto mode was given it. -/
  | handed
  /-- A receive found it expired. -/
  | discarded
  deriving DecidableEq, Inhabited

namespace Broker

/-- How often messages with an identifier are in a place. -/
def tally (broker : Broker) (departed : List Departure) (id : MessageId) : Place → Nat
  | .waiting name => (broker.queue name).countP (·.id = some id)
  | .held index => (broker.sessions[index]?.toList.flatMap (·.held)).countP (·.id = id)
  | .acknowledged => broker.acknowledgmentCount id
  | .handed => departed.countP (·.isHanded id)
  | .discarded => departed.countP (·.isDiscarded id)

/-- A message of a queue is in one place and nowhere else. -/
structure Located (broker : Broker) (departed : List Departure) (name : String) (id : MessageId)
    (place : Place) : Prop where
  once : broker.tally departed id place = 1
  nowhere_else : ∀ other, other ≠ place → broker.tally departed id other = 0
  /-- It waits on its own queue. -/
  queue : ∀ other, place = .waiting other → other = name
  /-- An open session in client mode holds it, which received it. -/
  holder : ∀ index, place = .held index → ∃ session message,
    broker.sessions[index]? = some session ∧ session.mode = .client ∧ session.closed = false ∧
      message.id = some id ∧ .received index .client (.queue name) message ∈ departed

end Broker

namespace Contents

variable {contents : Contents} {departed : List Departure}

/-- A session that holds a message alone. -/
theorem exists_holder {id : MessageId} (h : contents.heldCount id = 1) :
    ∃ (index : Nat) (session : Session), contents.sessions[index]? = some session ∧
      (∃ delivery ∈ session.held, delivery.id = id) ∧ session.held.countP (·.id = id) = 1 ∧
      ∀ (other : Nat) (another : Session), other ≠ index →
        contents.sessions[other]? = some another → another.held.countP (·.id = id) = 0 := by
  have hpos : 0 < contents.heldCount id := by omega
  obtain ⟨delivery, hmem, hid⟩ := List.countP_pos_iff.1 hpos
  obtain ⟨session, hsession, hd⟩ := List.mem_flatMap.1 hmem
  obtain ⟨index, found⟩ := List.mem_iff_getElem?.1 hsession
  have hle := contents.countP_held_le id found
  have hone : 0 < session.held.countP (·.id = id) := List.countP_pos_iff.2 ⟨delivery, hd, hid⟩
  refine ⟨index, session, found, ⟨delivery, hd, by simpa using hid⟩, by omega, ?_⟩
  intro other another hne hanother
  -- Without what this session holds, nothing of the message is held.
  have hset := contents.heldCount_set { session with held := [] } id found
  rw [List.countP_nil] at hset
  have hkept :
      (contents.sessions.set index { session with held := [] })[other]? = some another := by
    rw [List.getElem?_set_ne (Ne.symm hne), hanother]
  have hrest := countP_held_le
    { contents with sessions := contents.sessions.set index { session with held := [] } } id hkept
  omega

/-- No acknowledgment is taken back. -/
theorem Step.count_acknowledged_le {now : Int64} {before after : Contents} {through : Option Nat}
    {departures : List Departure} (h : Step now before through departures after)
    (id : MessageId) : before.acknowledged.count id ≤ after.acknowledged.count id := by
  cases h with
  | acknowledge => exact (List.sublist_append_left _ _).count_le id
  | takeOver => exact Nat.le_of_eq (by rw [acknowledged_withoutTaken])
  | takeHeld => exact Nat.le_of_eq (by rw [hold, acknowledged_withoutTaken])
  | _ => exact Nat.le_refl _

/-- When no message waits under an identifier, none departs. -/
theorem Step.departs {now : Int64} {before after : Contents} {through : Option Nat}
    {departures : List Departure} (h : Step now before through departures after)
    {id : MessageId} (ht : before.Traced departed)
    (htopic : ∀ name message, (.topic name, message) ∈ before.accepted → message.id ≠ some id)
    (hnone : before.waitingCount id = 0) : ∀ departure ∈ departures,
      departure.message.id ≠ some id := by
  -- Nothing of the identifier waits, so it is neither discarded nor received.
  have htake : ∀ (index : Nat) (consumer : Consumer), before.consumers[index]? = some consumer →
      (∀ departure ∈ before.discards now consumer, departure.message.id ≠ some id) ∧
        ∀ message, before.next? now consumer = some message → message.id ≠ some id := by
    intro index consumer found
    have hcount := before.waitingCount_withoutTaken now index id (ht.ne_of_topic found htopic)
    rw [hnone] at hcount
    constructor
    · intro departure hdeparture
      obtain ⟨message, hm, rfl⟩ := List.mem_map.1 hdeparture
      have hzero : ((before.source consumer).takeWhile (·.isExpired now)).countP
          (·.id = some id) = 0 := by omega
      have hne := List.countP_eq_zero.1 hzero message hm
      simpa [Departure.message] using hne
    · intro message hm
      have hzero : (before.next? now consumer).toList.countP (·.id = some id) = 0 := by omega
      simpa using List.countP_eq_zero.1 hzero message (by simp [hm])
  cases h with
  | takeOver index consumer session found of unheld =>
    intro departure hdeparture
    rcases List.mem_append.1 hdeparture with hdiscarded | hreceived
    · exact (htake index consumer found).1 departure hdiscarded
    · obtain ⟨message, hm, rfl⟩ := Option.map_eq_some_iff.1 (Option.mem_toList.1 hreceived)
      exact (htake index consumer found).2 message hm
  | takeHeld index consumer session message other found of client isOpen next identified =>
    intro departure hdeparture
    rcases List.mem_append.1 hdeparture with hdiscarded | hreceived
    · exact (htake index consumer found).1 departure hdiscarded
    · obtain rfl := List.mem_singleton.1 hreceived
      exact (htake index consumer found).2 message next
  | _ => simp

end Contents

namespace Broker

variable {broker : Broker} {departed : List Departure} {given : List MessageId} {name : String}
  {message : Message} {id : MessageId}

/-- No message of a topic has the identifier of one of a queue. -/
theorem Numbered.ne_of_topic (h : broker.Numbered given)
    (accepted : (.queue name, message) ∈ broker.accepted) (hid : message.id = some id)
    (topic : String) (other : Message) (hother : (.topic topic, other) ∈ broker.accepted) :
    other.id ≠ some id := by
  intro he
  have := List.inj_on_of_nodup_map h.nodup accepted hother (hid.trans he.symm)
  cases this

/-- A waiting message with the identifier of an accepted one waits on its queue. -/
theorem Conserved.queue_eq (h : broker.Conserved departed) (hnumbered : broker.Numbered given)
    (accepted : (.queue name, message) ∈ broker.accepted) (hid : message.id = some id)
    {waiting : Waiting} (hw : waiting ∈ broker.waiting) (hwaiting : waiting.message.id = some id) :
    waiting.queue = name := by
  obtain ⟨original, horiginal, hsame⟩ := h.traced.waiting waiting hw
  have := List.inj_on_of_nodup_map hnumbered.nodup horiginal accepted
    (hsame.trans (hwaiting.trans hid.symm))
  cases this
  rfl

/-- The queue that counts for a message is its own. -/
theorem Conserved.countP_queue (h : broker.Conserved departed) (hnumbered : broker.Numbered given)
    (accepted : (.queue name, message) ∈ broker.accepted) (hid : message.id = some id)
    (other : String) : (broker.queue other).countP (·.id = some id) =
      if other = name then broker.contents.waitingCount id else 0 := by
  rw [queue, List.countP_map, List.countP_filter]
  split
  · rename_i he
    refine List.countP_congr fun waiting hw => ?_
    have hqueue := h.queue_eq hnumbered accepted hid hw
    simp only [Function.comp_apply, Bool.and_eq_true, decide_eq_true_eq]
    exact ⟨fun h => h.1, fun h => ⟨h, (hqueue h).trans he.symm⟩⟩
  · rename_i hne
    rw [List.countP_eq_zero]
    intro waiting hw hboth
    simp only [Function.comp_apply, Bool.and_eq_true, decide_eq_true_eq] at hboth
    exact hne (hboth.2.symm.trans (h.queue_eq hnumbered accepted hid hw hboth.1))

/-- A message of which nothing is held is held by no session. -/
theorem tally_held_eq_zero (hzero : broker.contents.heldCount id = 0) (index : Nat) :
    broker.tally departed id (.held index) = 0 := by
  change (broker.sessions[index]?.toList.flatMap _).countP _ = 0
  cases found : broker.sessions[index]? with
  | none => rfl
  | some session =>
    have hsession := broker.contents.countP_held_le id found
    rw [Option.toList_some, List.flatMap_singleton]
    omega

/-- A message that waits nowhere waits on no queue. -/
theorem Conserved.tally_waiting_eq_zero (h : broker.Conserved departed)
    (hnumbered : broker.Numbered given) (accepted : (.queue name, message) ∈ broker.accepted)
    (hid : message.id = some id) (hzero : broker.contents.waitingCount id = 0) (other : String) :
    broker.tally departed id (.waiting other) = 0 := by
  change (broker.queue other).countP _ = 0
  rw [h.countP_queue hnumbered accepted hid, hzero, ite_self]

/-- A message that waits is on its own queue. -/
theorem Conserved.located_waiting (h : broker.Conserved departed)
    (hnumbered : broker.Numbered given) (accepted : (.queue name, message) ∈ broker.accepted)
    (hid : message.id = some id) (htotal : broker.total departed id = 1)
    (hwaiting : broker.contents.waitingCount id = 1) :
    broker.Located departed name id (.waiting name) := by
  unfold total at htotal
  have hqueue := h.countP_queue hnumbered accepted hid
  refine ⟨?_, ?_, fun other he => (Place.waiting.inj he).symm, by simp⟩
  · change (broker.queue name).countP _ = 1
    rw [hqueue, if_pos rfl, hwaiting]
  · intro other hne
    cases other with
    | waiting another =>
      change (broker.queue another).countP _ = 0
      rw [hqueue, if_neg fun he => hne (congrArg Place.waiting he)]
    | held index => exact tally_held_eq_zero (by omega) index
    | _ => simp only [tally]; omega

/-- A message that is held is with one session, which received it. -/
theorem Conserved.located_held (h : broker.Conserved departed) (hnumbered : broker.Numbered given)
    (accepted : (.queue name, message) ∈ broker.accepted) (hid : message.id = some id)
    (htotal : broker.total departed id = 1) (hheld : broker.contents.heldCount id = 1) :
    ∃ index, broker.Located departed name id (.held index) := by
  unfold total at htotal
  obtain ⟨index, session, found, ⟨delivery, hdelivery, rfl⟩, hone, hothers⟩ :=
    Contents.exists_holder hheld
  have howed := h.traced.held index session found delivery hdelivery
  refine ⟨index, ?_, ?_, by simp, ?_⟩
  · change (broker.sessions[index]?.toList.flatMap _).countP _ = 1
    rw [show broker.sessions[index]? = some session from found, Option.toList_some,
      List.flatMap_singleton, hone]
  · intro other hne
    cases other with
    | waiting another =>
      exact h.tally_waiting_eq_zero hnumbered accepted hid (by omega) another
    | held another =>
      change (broker.sessions[another]?.toList.flatMap _).countP _ = 0
      cases hs : broker.sessions[another]? with
      | none => rfl
      | some holder =>
        rw [Option.toList_some, List.flatMap_singleton]
        exact hothers another holder (fun he => hne (congrArg Place.held he)) hs
    | _ => simp only [tally]; omega
  · intro other he
    obtain rfl := Place.held.inj he
    -- No other message was accepted under this identifier, so the delivery is of this queue.
    obtain ⟨original, horiginal, hsame⟩ := howed.origin
    have hentry := List.inj_on_of_nodup_map hnumbered.nodup horiginal accepted
      (hsame.trans hid.symm)
    have hdestination : delivery.destination = .queue name := congrArg Prod.fst hentry
    refine ⟨session, delivery.message, found, howed.client, howed.isOpen, howed.identified, ?_⟩
    rw [← hdestination]
    exact howed.received

/-- A message that neither waits nor is held stays where it is. -/
theorem Conserved.located_settled (h : broker.Conserved departed)
    (hnumbered : broker.Numbered given) (accepted : (.queue name, message) ∈ broker.accepted)
    (hid : message.id = some id) (htotal : broker.total departed id = 1) {place : Place}
    (hplace : place = .acknowledged ∨ place = .handed ∨ place = .discarded)
    (hone : broker.tally departed id place = 1) : broker.Located departed name id place := by
  unfold total at htotal
  have hle : broker.tally departed id place ≤ broker.acknowledgmentCount id +
      departed.countP (·.isHanded id) + departed.countP (·.isDiscarded id) := by
    rcases hplace with rfl | rfl | rfl <;> simp only [tally] <;> omega
  refine ⟨hone, fun other hne => ?_, ?_, ?_⟩
  · cases other with
    | waiting another =>
      exact h.tally_waiting_eq_zero hnumbered accepted hid (by omega) another
    | held index => exact tally_held_eq_zero (by omega) index
    | acknowledged | handed | discarded =>
      rcases hplace with rfl | rfl | rfl <;>
        first
        | exact (hne rfl).elim
        | (simp only [tally] at hone ⊢; omega)
  · rintro other rfl
    simp at hplace
  · rintro index rfl
    simp at hplace

/-- A message that is accounted for is in one place. -/
theorem Conserved.located (h : broker.Conserved departed) (hnumbered : broker.Numbered given)
    (accepted : (.queue name, message) ∈ broker.accepted) (hid : message.id = some id) :
    ∃ place, broker.Located departed name id place := by
  have hbalance := h.balance id (hnumbered.ne_of_topic accepted hid)
  have hle := hnumbered.countP_accepted_le id
  have hpos : 0 < broker.accepted.countP (·.2.id = some id) :=
    List.countP_pos_iff.2 ⟨_, accepted, by simpa using hid⟩
  have htotal : broker.total departed id = 1 := by omega
  have hsettled : ∀ place : Place, (place = .acknowledged ∨ place = .handed ∨ place = .discarded) →
      broker.tally departed id place = 1 → ∃ place, broker.Located departed name id place :=
    fun place hplace hone => ⟨place, h.located_settled hnumbered accepted hid htotal hplace hone⟩
  have hplace : broker.contents.waitingCount id = 1 ∨ broker.contents.heldCount id = 1 ∨
      broker.acknowledgmentCount id = 1 ∨ departed.countP (·.isHanded id) = 1 ∨
        departed.countP (·.isDiscarded id) = 1 := by
    unfold total at htotal
    omega
  rcases hplace with hwaiting | hheld | hone | hone | hone
  · exact ⟨_, h.located_waiting hnumbered accepted hid htotal hwaiting⟩
  · obtain ⟨index, hlocated⟩ := h.located_held hnumbered accepted hid htotal hheld
    exact ⟨_, hlocated⟩
  · exact hsettled .acknowledged (by simp) hone
  · exact hsettled .handed (by simp) hone
  · exact hsettled .discarded (by simp) hone

/-- Distinct identifiers of a run were distinct at every moment of it. -/
theorem DistinctIds.take {credentials : Option Credentials}
    {operations later : List (Int64 × Operation)}
    (h : DistinctIds (operations ++ later) (after credentials (operations ++ later)).messageCount) :
    DistinctIds operations (after credentials operations).messageCount := by
  induction later using List.reverseRecOn with
  | nil => simpa using h
  | append_singleton later entry ih =>
    rw [← List.append_assoc, after_append, operateAll_singleton] at h
    exact ih h.init

/-- An acknowledged message departs from no queue and no buffer again. -/
theorem departed_ne_of_acknowledged {credentials : Option Credentials}
    {operations : List (Int64 × Operation)}
    (accepted : (.queue name, message) ∈ (after credentials operations).accepted)
    (hid : message.id = some id)
    (hacknowledged : 0 < (after credentials operations).acknowledgmentCount id)
    (later : List (Int64 × Operation))
    (distinct : DistinctIds (operations ++ later)
      (after credentials (operations ++ later)).messageCount) :
    (.queue name, message) ∈ (after credentials (operations ++ later)).accepted ∧
      0 < (after credentials (operations ++ later)).acknowledgmentCount id ∧
      ∀ departure ∈ (after credentials operations).departed later,
        departure.message.id ≠ some id := by
  induction later using List.reverseRecOn with
  | nil => exact ⟨by simpa using accepted, by simpa using hacknowledged, by simp [departed]⟩
  | append_singleton later entry ih =>
    obtain ⟨now, operation⟩ := entry
    rw [← List.append_assoc] at distinct ⊢
    have hbefore := DistinctIds.take distinct
    obtain ⟨haccepted, hpos, hdeparted⟩ := ih hbefore
    obtain ⟨hnumbered, hconserved⟩ := conserved_after _ _ hbefore
    rw [departed_append, departed_singleton, ← after_append]
    rw [after_append, operateAll_singleton]
    generalize after credentials (operations ++ later) = broker at *
    obtain ⟨through, -, hstep⟩ := broker.operate_step now operation
    have htopic := hnumbered.ne_of_topic haccepted hid
    have hbalance := hconserved.balance id htopic
    unfold total at hbalance
    have hle := hnumbered.countP_accepted_le id
    refine ⟨?_, ?_, ?_⟩
    · obtain ⟨new, hnew, -, -⟩ := hstep.accepted
      change _ ∈ (broker.operate now operation).contents.accepted
      rw [hnew]
      exact List.mem_append_left _ haccepted
    · exact Nat.lt_of_lt_of_le hpos (hstep.count_acknowledged_le id)
    · intro departure hdeparture
      rcases List.mem_append.1 hdeparture with hold | hnew
      · exact hdeparted departure hold
      · exact hstep.departs hconserved.traced htopic (by omega) departure hnew

/-- The number of acknowledgments tells whether a message is acknowledged. -/
theorem Located.acknowledgmentCount_eq {place : Place}
    (h : broker.Located departed name id place) :
    broker.acknowledgmentCount id = if place = .acknowledged then 1 else 0 := by
  split
  · rename_i he
    subst he
    exact h.once
  · rename_i hne
    exact h.nowhere_else .acknowledged (Ne.symm hne)

/-- Every message ever accepted for a queue is in exactly one place exactly once. It was
acknowledged once if it is in the place of acknowledged messages and never otherwise, and then it
stays there whatever happens later, departs from no queue and no buffer again, and no receive is
answered with it. The places are told by the log of the run, and what was received according to the
log is what the receives were answered with. -/
theorem every_message_in_one_place (credentials : Option Credentials)
    (operations : List (Int64 × Operation))
    (distinct : DistinctIds operations (after credentials operations).messageCount)
    {name : String} {message : Message}
    (accepted : (.queue name, message) ∈ (after credentials operations).accepted) :
    (departedAfter credentials operations).filter (·.isReceipt) =
      (handoversAfter credentials operations).map (·.departure) ∧
    ∃ id place, message.id = some id ∧
      (after credentials operations).Located (departedAfter credentials operations) name id
        place ∧
      (after credentials operations).acknowledgmentCount id =
        (if place = .acknowledged then 1 else 0) ∧
      (place = .acknowledged → ∀ later,
        DistinctIds (operations ++ later)
          (after credentials (operations ++ later)).messageCount →
        (after credentials (operations ++ later)).Located
            (departedAfter credentials (operations ++ later)) name id .acknowledged ∧
          (∀ departure ∈ (after credentials operations).departed later,
            departure.message.id ≠ some id) ∧
          ∀ handover ∈ (after credentials operations).handovers later,
            handover.message.id ≠ some id) := by
  obtain ⟨hnumbered, hconserved⟩ := conserved_after credentials operations distinct
  have hidentified := (sound_after credentials operations).identified _ accepted
  obtain ⟨id, hid⟩ := Option.isSome_iff_exists.1 hidentified
  obtain ⟨place, hplace⟩ := hconserved.located hnumbered accepted hid
  refine ⟨filter_departedAfter credentials operations, id, place, hid, hplace,
    hplace.acknowledgmentCount_eq, ?_⟩
  rintro rfl later hlater
  have hone := hplace.acknowledgmentCount_eq
  rw [if_pos rfl] at hone
  obtain ⟨haccepted, hpos, hdeparted⟩ :=
    departed_ne_of_acknowledged accepted hid (by omega) later hlater
  obtain ⟨hnumbered', hconserved'⟩ := conserved_after _ _ hlater
  obtain ⟨place', hplace'⟩ := hconserved'.located hnumbered' haccepted hid
  refine ⟨?_, hdeparted, fun _ hhandover => hdeparted _ (departure_mem_departed hhandover)⟩
  have hcount := hplace'.acknowledgmentCount_eq
  split at hcount
  · rename_i he
    exact he ▸ hplace'
  · omega

/-- A client acknowledges one of three messages of a queue, and receives another. -/
def acknowledgingRun : List (Int64 × Operation) :=
  let queue := Destination.queue "orders"
  let session : SessionHandle := ⟨0, "session-1-2", .client⟩
  [(1, .publish queue { id := some ⟨"A"⟩, body := .text "a" }),
   (2, .publish queue (.ofText "b")),
   (3, .publish queue { id := some ⟨"C"⟩, body := .text "c" }),
   (4, .request (.connect none)),
   (5, .request (.startConnection ⟨0⟩)),
   (6, .request (.createSession ⟨0⟩ .client)),
   (7, .request (.createConsumer session queue)),
   (8, .request (.receive ⟨0⟩)),
   (9, .request (.receive ⟨0⟩)),
   (10, .request (.acknowledge session ⟨"A"⟩))]

/-- Each of the three messages is in one place, and the client was given the first two. -/
theorem every_message_in_one_place_acknowledgingRun :
    DistinctIds acknowledgingRun (after none acknowledgingRun).messageCount ∧
      (after none acknowledgingRun).accepted.length = 3 ∧
      (handoversAfter none acknowledgingRun).map (·.message.body) = [.text "a", .text "b"] ∧
      ∀ name message, (.queue name, message) ∈ (after none acknowledgingRun).accepted →
        ∃ id place, message.id = some id ∧ (after none acknowledgingRun).Located
          (departedAfter none acknowledgingRun) name id place := by
  have hcount : (after none acknowledgingRun).messageCount = 1 := by decide +kernel
  have distinct : DistinctIds acknowledgingRun (after none acknowledgingRun).messageCount := by
    rw [hcount]
    refine ⟨by decide +kernel, fun id hid number hpos hle => ?_⟩
    obtain rfl : number = 1 := by omega
    revert id
    decide +kernel
  refine ⟨distinct, by decide +kernel, by decide +kernel, fun name message hentry => ?_⟩
  obtain ⟨-, id, place, hid, hplace, -⟩ :=
    every_message_in_one_place none acknowledgingRun distinct hentry
  exact ⟨id, place, hid, hplace⟩

end Broker

end BrokerConnector
