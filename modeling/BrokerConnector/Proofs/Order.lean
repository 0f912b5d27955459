import BrokerConnector.Proofs.Memory
import Mathlib.Data.List.Nodup
import Mathlib.Data.List.TakeWhile

/-!
# Messages are delivered in order

In calm surroundings nobody but the reader takes messages from its queue. Then what was delivered is
a first part of what was accepted for the queue, and the rest waits on it in order. Messages that
came back wait in front of it: those that the ledger lists and those that it is to skip.
`Ledger.InOrder` says so of one ledger, and every calm transition keeps it, for as long as no
identifier is accepted twice for the queue and no message of it expires.

What was delivered is what was acknowledged, then what is listed, then what is to be skipped. A
ledger with nothing left to skip can be parted from without loss: what it lists is all that comes
back.
-/

namespace BrokerConnector

namespace Contents

variable {contents before after : Contents} {name : String} {now : Int64}

/-- The messages that wait on a queue, in order. -/
def queue (contents : Contents) (name : String) : List Message :=
  (contents.waiting.filter (·.queue = name)).map (·.message)

/-- Every message accepted for a queue, in order. -/
def history (contents : Contents) (name : String) : List Message :=
  (contents.accepted.filter (·.1 = .queue name)).map (·.2)

/-- No message that was accepted for a queue ever expires. -/
def Lasting (name : String) (contents : Contents) : Prop :=
  ∀ message ∈ contents.history name, message.expiration ≤ 0

/-- If no message expires later, none did before. -/
theorem Lasting.of_spares {kept : Nat → Prop} (h : Spares kept before after)
    (hlasting : after.Lasting name) : before.Lasting name := by
  obtain ⟨new, hnew, -, -⟩ := h.accepted
  intro message hmessage
  refine hlasting message ?_
  rw [history, hnew, List.filter_append, List.map_append]
  exact List.mem_append_left _ hmessage

/-- A message that waits on a queue expires only if an accepted one does. -/
theorem Sound.not_isExpired (hsound : contents.Sound) (hlasting : contents.Lasting name)
    {message : Message} (h : message ∈ contents.queue name) : message.isExpired now = false := by
  obtain ⟨waiting, hwaiting, rfl⟩ := List.mem_map.1 h
  obtain ⟨hmem, hname⟩ := List.mem_filter.1 hwaiting
  have hcirculating : waiting.flagged ∈ contents.circulating :=
    List.mem_append_left _ (List.mem_map_of_mem hmem)
  obtain ⟨original, horiginal, hflagged⟩ :=
    List.mem_map.1 (hsound.circulating.subset hcirculating)
  obtain ⟨⟨destination, accepted⟩, haccepted, hqueued⟩ := List.mem_flatMap.1 horiginal
  cases destination with
  | topic other => cases hqueued
  | queue other =>
    obtain rfl := List.mem_singleton.1 hqueued
    -- The flag is all that a redelivery changes, so the expiration is that of the accepted message.
    have hqueue : other = waiting.queue := congrArg Waiting.queue hflagged
    have hexpiration : accepted.expiration = waiting.message.expiration :=
      congrArg (fun flagged => flagged.message.expiration) hflagged
    have hother : other = name := by simpa [hqueue] using hname
    have hle := hlasting accepted (List.mem_map.2
      ⟨_, List.mem_filter.2 ⟨haccepted, by simp [hother]⟩, rfl⟩)
    rw [hexpiration] at hle
    have hnot : ¬0 < waiting.message.expiration := Int64.not_lt.2 hle
    simp [Message.isExpired, hnot]

/-- What waits on a queue on account of accepted messages are the ones accepted for it. -/
theorem queue_of_accepted (name : String) (accepted : List (Destination × Message)) :
    (((accepted.flatMap fun entry => entry.2.queuedFor entry.1).filter (·.queue = name)).map
      (·.message)) = (accepted.filter (·.1 = .queue name)).map (·.2) := by
  induction accepted with
  | nil => rfl
  | cons entry rest ih =>
    obtain ⟨destination, message⟩ := entry
    rw [List.flatMap_cons, List.filter_append, List.map_append, ih]
    cases destination with
    | topic other => simp [Message.queuedFor]
    | queue other =>
      by_cases ho : other = name
      · simp [Message.queuedFor, ho]
      · simp [Message.queuedFor, ho]

/-- When nothing happens but that messages are accepted, they are the last of their queue and of its
history. -/
theorem Appends.queue (h : Appends before after) (name : String) :
    ∃ new, after.queue name = before.queue name ++ new ∧
      after.history name = before.history name ++ new := by
  obtain ⟨new, haccepted, hwaiting, -⟩ := h
  refine ⟨(new.filter (·.1 = .queue name)).map (·.2), ?_, ?_⟩
  · rw [Contents.queue, hwaiting, List.filter_append, List.map_append, queue_of_accepted]
    rfl
  · rw [history, haccepted, List.filter_append, List.map_append]
    rfl

/-- What is taken stays accepted. -/
theorem history_withoutTaken (contents : Contents) (name : String) (now : Int64) (index : Nat)
    (consumer : Consumer) :
    (contents.withoutTaken now index consumer).history name = contents.history name := by
  rw [history, accepted_withoutTaken, history]

/-- The messages behind the one that is taken stay on the queue. -/
theorem queue_withoutTaken {consumer : Consumer} (hqueue : consumer.destination = .queue name)
    (now : Int64) (index : Nat) : (contents.withoutTaken now index consumer).queue name =
      ((contents.queue name).dropWhile (·.isExpired now)).tail := by
  unfold withoutTaken
  rw [hqueue]
  exact Broker.takeWaiting_filter_self name now contents.waiting

/-- A session stays on its connection. -/
theorem Step.connection {through : Option Nat} {departures : List Departure}
    (h : Step now before through departures after) {index : Nat} {session : Session}
    (found : before.sessions[index]? = some session) :
    ∃ later, after.sessions[index]? = some later ∧ later.connection = session.connection := by
  -- A session is replaced by one on the same connection, if it is replaced at all.
  have hset : ∀ (other : Nat) (old changed : Session), before.sessions[other]? = some old →
      changed.connection = old.connection →
      ∃ later, (before.sessions.set other changed)[index]? = some later ∧
        later.connection = session.connection := by
    intro other old changed hold hconnection
    by_cases he : other = index
    · subst he
      obtain rfl := Option.some.inj (hold.symm.trans found)
      refine ⟨changed, ?_, hconnection⟩
      rw [List.getElem?_set_self (List.getElem?_eq_some_iff.1 found).1]
    · exact ⟨session, by rw [List.getElem?_set_ne he, found], rfl⟩
  cases h with
  | openSession opened empty =>
    refine ⟨session, ?_, rfl⟩
    exact List.getElem?_append_left (List.getElem?_eq_some_iff.1 found).1 ▸ found
  | acknowledge other old id hold => exact hset _ _ _ hold rfl
  | closeSession other old hold => exact hset _ _ _ hold rfl
  | takeOver => exact ⟨session, by rw [sessions_withoutTaken, found], rfl⟩
  | takeHeld other consumer old message id hconsumer hold =>
    change ∃ later, ((before.withoutTaken now _ _).sessions.set _ _)[index]? = some later ∧ _
    rw [sessions_withoutTaken]
    exact hset _ _ _ hold rfl
  | _ => exact ⟨session, found, rfl⟩

end Contents

namespace Broker

variable {broker after : Broker} {now : Int64}

/-- A session, by its position, whose connection is started. -/
def Delivers (broker : Broker) (index : Nat) : Prop :=
  ∃ session, broker.sessions[index]? = some session ∧ broker.isStarted session.connection = true

/-- A session delivers as long as its connection is as it was. -/
theorem Delivers.of_connections {index : Nat} (h : broker.Delivers index)
    (sessions : ∀ session, broker.sessions[index]? = some session →
      ∃ later, after.sessions[index]? = some later ∧ later.connection = session.connection)
    (connections : after.connections = broker.connections) : after.Delivers index := by
  obtain ⟨session, found, hstarted⟩ := h
  obtain ⟨later, hlater, hconnection⟩ := sessions session found
  refine ⟨later, hlater, ?_⟩
  rw [hconnection, isStarted, connections]
  exact hstarted

/-- A session delivers after any request that does not concern connections. -/
theorem Delivers.perform {index : Nat} (h : broker.Delivers index) {request : BrokerRequest}
    {answer : request.Answer} (hsteady : request.isSteady = true)
    (hgranted : broker.perform now request = (.ok answer, after)) : after.Delivers index := by
  have hconnections := broker.connections_perform now hsteady
  have hoperate : broker.operate now (.request request) = after := by rw [operate, hgranted]
  rw [hgranted] at hconnections
  refine h.of_connections (fun session found => ?_) hconnections
  obtain ⟨through, -, hstep⟩ := broker.operate_step now (.request request)
  rw [hoperate] at hstep
  exact hstep.connection found

/-- A consumer of a queue is given the first message that is not expired. Those in front of it leave
the queue as well. -/
theorem exists_expired_of_receive {handle : ConsumerHandle} {consumer : Consumer}
    {session : Session} {message : Message} {id : MessageId} {name : String}
    (hgranted : broker.perform now (.receive handle) = (.ok (some message), after))
    (bound : broker.consumers[handle.index]? = some consumer)
    (hqueue : consumer.destination = .queue name)
    (found : broker.sessions[consumer.session]? = some session) (client : session.mode = .client)
    (identified : message.id = some id) :
    ∃ expired, broker.queue name = expired ++ message :: after.queue name ∧
      (∀ other ∈ expired, other.isExpired now = true) ∧ message.isExpired now = false ∧
        after.published (.queue name) = broker.published (.queue name) ∧
          after.acknowledged = broker.acknowledged := by
  have hnext := next?_of_receive hgranted bound
  obtain ⟨-, hcontents⟩ := contents_of_receive hgranted bound found client identified
  have hrest : after.queue name = ((broker.queue name).dropWhile (·.isExpired now)).tail := by
    change after.contents.queue name = _
    rw [hcontents]
    exact Contents.queue_withoutTaken hqueue now _
  have hhead : ((broker.queue name).dropWhile (·.isExpired now)).head? = some message := by
    unfold Contents.next? Contents.source at hnext
    rw [hqueue] at hnext
    exact hnext
  refine ⟨(broker.queue name).takeWhile (·.isExpired now), ?_, ?_, ?_, ?_, ?_⟩
  · rw [hrest, List.cons_head?_tail (Option.mem_def.2 hhead), List.takeWhile_append_dropWhile]
  · exact fun other hother => List.all_eq_true.1 List.all_takeWhile other hother
  · have hnot := List.head?_dropWhile_not (fun other : Message => other.isExpired now)
      (broker.queue name)
    rw [hhead] at hnot
    simpa using hnot
  · change after.contents.history name = broker.contents.history name
    rw [hcontents]
    exact Contents.history_withoutTaken _ _ _ _ _
  · change after.contents.acknowledged = broker.contents.acknowledged
    rw [hcontents]
    exact Contents.acknowledged_withoutTaken _ _ _ _

/-- A consumer whose session delivers is given nothing only if every message of its queue is
expired. All of them leave the queue. -/
theorem isExpired_of_receive_none {handle : ConsumerHandle} {consumer : Consumer} {name : String}
    (hgranted : broker.perform now (.receive handle) = (.ok none, after))
    (bound : broker.consumers[handle.index]? = some consumer)
    (hqueue : consumer.destination = .queue name) (hdelivers : broker.Delivers consumer.session) :
    (∀ message ∈ broker.queue name, message.isExpired now = true) ∧ after.queue name = [] ∧
      after.published (.queue name) = broker.published (.queue name) ∧
        after.acknowledged = broker.acknowledged ∧ after.sessions = broker.sessions := by
  obtain ⟨session, found, hstarted⟩ := hdelivers
  rcases contents_of_receive_none hgranted bound found with ⟨-, hnot⟩ | ⟨hnone, hcontents⟩
  · rw [hstarted] at hnot
    cases hnot
  · -- There is nothing behind the expired messages, or it would have been received.
    have hempty : (broker.queue name).dropWhile (·.isExpired now) = [] := by
      unfold Contents.next? Contents.source at hnone
      rw [hqueue] at hnone
      exact List.head?_eq_none_iff.1 hnone
    refine ⟨List.dropWhile_eq_nil_iff.1 hempty, ?_, ?_, ?_, ?_⟩
    · change after.contents.queue name = []
      rw [hcontents, Contents.queue_withoutTaken hqueue]
      change ((broker.queue name).dropWhile (·.isExpired now)).tail = []
      rw [hempty, List.tail_nil]
    · change after.contents.history name = broker.contents.history name
      rw [hcontents]
      exact Contents.history_withoutTaken _ _ _ _ _
    · change after.contents.acknowledged = broker.contents.acknowledged
      rw [hcontents]
      exact Contents.acknowledged_withoutTaken _ _ _ _
    · change after.contents.sessions = broker.contents.sessions
      rw [hcontents]
      exact Contents.sessions_withoutTaken _ _ _ _

/-- A consumer of a queue on which nothing has expired is given the first message, which is no
longer on the queue then. -/
theorem queue_of_receive {handle : ConsumerHandle} {consumer : Consumer} {session : Session}
    {message : Message} {id : MessageId} {name : String}
    (hgranted : broker.perform now (.receive handle) = (.ok (some message), after))
    (bound : broker.consumers[handle.index]? = some consumer)
    (hqueue : consumer.destination = .queue name)
    (found : broker.sessions[consumer.session]? = some session) (client : session.mode = .client)
    (identified : message.id = some id)
    (h : ∀ message ∈ broker.contents.queue name, message.isExpired now = false) :
    broker.queue name = message :: after.queue name ∧
      after.published (.queue name) = broker.published (.queue name) ∧
        after.acknowledged = broker.acknowledged := by
  obtain ⟨expired, hsplit, hexpired, -, hpublished, hacknowledged⟩ :=
    exists_expired_of_receive hgranted bound hqueue found client identified
  have hnone : expired = [] := by
    refine List.eq_nil_iff_forall_not_mem.2 fun other hother => ?_
    have hwaits : other ∈ broker.queue name := hsplit.symm ▸ List.mem_append_left _ hother
    have hlasts := h other hwaits
    rw [hexpired other hother] at hlasts
    cases hlasts
  rw [hnone, List.nil_append] at hsplit
  exact ⟨hsplit, hpublished, hacknowledged⟩

/-- A consumer of a queue on which nothing has expired is given nothing only if nothing waits, as
long as its session delivers. -/
theorem queue_of_receive_none {handle : ConsumerHandle} {consumer : Consumer} {name : String}
    (hgranted : broker.perform now (.receive handle) = (.ok none, after))
    (bound : broker.consumers[handle.index]? = some consumer)
    (hqueue : consumer.destination = .queue name) (hdelivers : broker.Delivers consumer.session)
    (h : ∀ message ∈ broker.contents.queue name, message.isExpired now = false) :
    broker.queue name = [] ∧ after.queue name = [] ∧
      after.published (.queue name) = broker.published (.queue name) ∧
        after.acknowledged = broker.acknowledged := by
  obtain ⟨hexpired, hempty, hpublished, hacknowledged, -⟩ :=
    isExpired_of_receive_none hgranted bound hqueue hdelivers
  refine ⟨List.eq_nil_iff_forall_not_mem.2 fun message hmessage => ?_, hempty, hpublished,
    hacknowledged⟩
  have hlasts := h message hmessage
  rw [hexpired message hmessage] at hlasts
  cases hlasts

end Broker

namespace Ledger

variable {name : String} {before after : Ledger}

/-- The messages that came back, or come back when the session is closed, in order. An attached
ledger has listed messages only that are away from the queue. -/
def back (ledger : Ledger) : List MessageId :=
  if ledger.hold.isHeld then ledger.skipped else ledger.listed ++ ledger.skipped

/-- A ledger in step with its queue: what was delivered is a first part of what was accepted, and
the rest waits, behind what came back. -/
structure InOrder (name : String) (ledger : Ledger) : Prop where
  free : ledger.hold = .free → ledger.skipped = []
  order : (ledger.env.broker.acknowledged ++ (ledger.listed ++ ledger.skipped)).map some =
    ledger.delivered.map (·.id)
  queue : ∃ returned fresh, ledger.env.broker.queue name = returned ++ fresh ∧
    returned.map (·.id) = ledger.back.map some ∧
      ledger.env.broker.published (.queue name) = ledger.delivered ++ fresh
  delivers : ∀ handle consumer, ledger.hold = .held handle consumer →
    ledger.env.broker.Delivers handle.index

/-- No message is acknowledged, listed or to be skipped more than once. -/
theorem InOrder.nodup (h : before.InOrder name)
    (hdistinct : before.env.broker.contents.Distinct name) :
    (before.env.broker.acknowledged ++ (before.listed ++ before.skipped)).Nodup := by
  obtain ⟨returned, fresh, -, -, hhistory⟩ := h.queue
  have hall : ((before.delivered ++ fresh).map (·.id)).Nodup := by
    rw [← hhistory]
    exact hdistinct
  rw [List.map_append] at hall
  refine List.Nodup.of_map some ?_
  rw [h.order]
  exact (List.nodup_append.1 hall).1

/-- More messages are accepted. -/
theorem InOrder.pass {env : Shared} (h : before.InOrder name)
    (hpasses : Shared.Passes True before.hold.isHeld before.hold.Keeps before.env env) :
    InOrder name { before with env := env } := by
  obtain ⟨new, hqueue, hhistory⟩ := (hpasses.appends trivial).queue name
  have hacknowledged : env.broker.acknowledged = before.env.broker.acknowledged := by
    obtain ⟨-, -, -, hsame⟩ := hpasses.appends trivial
    exact hsame
  constructor
  · exact h.free
  · rw [hacknowledged]
    exact h.order
  · obtain ⟨returned, fresh, hwaiting, hback, hpublished⟩ := h.queue
    refine ⟨returned, fresh ++ new, ?_, hback, ?_⟩
    · rw [← List.append_assoc, ← hwaiting]
      exact hqueue
    · rw [← List.append_assoc, ← hpublished]
      exact hhistory
  · intro handle consumer hold
    have hheld : before.hold.isHeld = true := by
      rw [hold]
      rfl
    refine (h.delivers handle consumer hold).of_connections (fun session found => ?_)
      (hpasses.connections trivial hheld)
    exact ⟨session, hpasses.spares.sessions _ _ ⟨handle, consumer, hold, rfl⟩ found, rfl⟩

/-- A reader that attaches is to skip what came back. -/
theorem InOrder.attach (h : before.InOrder name) (free : before.hold = .free)
    (held : after.hold.isHeld = true) (pending : after.pending = [])
    (skipped : after.skipped = before.skipped ++ before.listed)
    (delivered : after.delivered = before.delivered) (env : after.env = before.env)
    (delivers : ∀ handle consumer, after.hold = .held handle consumer →
      after.env.broker.Delivers handle.index) : after.InOrder name := by
  have hnone : before.skipped = [] := h.free free
  have hlisted : after.listed = [] := by rw [listed, pending, List.map_nil]
  rw [hnone, List.nil_append] at skipped
  have horder := h.order
  rw [hnone, List.append_nil] at horder
  obtain ⟨returned, fresh, hwaiting, hback, hpublished⟩ := h.queue
  refine ⟨?_, ?_, ⟨returned, fresh, ?_, ?_, ?_⟩, delivers⟩
  · intro hafter
    rw [hafter] at held
    cases held
  · rw [hlisted, skipped, env, delivered]
    exact horder
  · rw [env]
    exact hwaiting
  · rw [back, free] at hback
    rw [back, held, if_pos rfl, skipped]
    simpa [hnone, Hold.isHeld] using hback
  · rw [env, delivered]
    exact hpublished

variable {handle : SessionHandle} {consumer : ConsumerHandle} {session : Session} {now : Int64}
  {broker : Broker}

/-- Nothing waits on a queue whose reader is given nothing, and nothing is left to be skipped. -/
theorem InOrder.exhausted (h : before.InOrder name) (hcoherent : before.Coherent name)
    (hlasting : before.env.broker.contents.Lasting name)
    (hold : before.hold = .held handle consumer)
    (granted : before.env.broker.perform now (.receive consumer) = (.ok none, broker)) :
    before.skipped = [] ∧ InOrder name { before with
      env := before.env.add (.broker (.receive consumer)) (.done none) broker } := by
  obtain ⟨session, hmirrors⟩ := hcoherent.mirrored handle consumer hold
  obtain ⟨of, hof, hqueue, hsession⟩ := hmirrors.bound
  have hdelivers := h.delivers handle consumer hold
  obtain ⟨hempty, hafter, hpublished, hacknowledged⟩ := Broker.queue_of_receive_none granted hof
    hqueue (hsession ▸ hdelivers) fun message => hcoherent.sound.not_isExpired hlasting
  obtain ⟨returned, fresh, hwaiting, hback, hhistory⟩ := h.queue
  obtain ⟨rfl, rfl⟩ := List.append_eq_nil_iff.1 (hwaiting.symm.trans hempty)
  have hskipped : before.skipped = [] := by
    rw [back, hold] at hback
    exact List.map_eq_nil_iff.1 hback.symm
  refine ⟨hskipped, h.free, ?_, ⟨[], [], hafter, hback, ?_⟩, ?_⟩
  · change (broker.acknowledged ++ _).map some = _
    rw [hacknowledged]
    exact h.order
  · change broker.published _ = _
    rw [hpublished]
    exact hhistory
  · intro handle' consumer' hold'
    exact (h.delivers handle' consumer' hold').perform rfl granted

/-- What changes when a ledger lists the first message of its queue. -/
structure Receives (name : String) (before after : Ledger) (message : Message) (id : MessageId) :
    Prop where
  identified : message.id = some id
  held : before.hold.isHeld = true
  hold : after.hold = before.hold
  listed : after.listed = before.listed ++ [id]
  queue : before.env.broker.queue name = message :: after.env.broker.queue name
  published : after.env.broker.published (.queue name) = before.env.broker.published (.queue name)
  acknowledged : after.env.broker.acknowledged = before.env.broker.acknowledged
  delivers : ∀ handle consumer, after.hold = .held handle consumer →
    after.env.broker.Delivers handle.index

variable {message : Message} {id : MessageId}

/-- The messages in front of the queue of an attached reader are those that it is to skip. -/
theorem InOrder.returned (h : before.InOrder name) (held : before.hold.isHeld = true) :
    ∃ returned fresh, before.env.broker.queue name = returned ++ fresh ∧
      returned.map (·.id) = before.skipped.map some ∧
        before.env.broker.published (.queue name) = before.delivered ++ fresh := by
  obtain ⟨returned, fresh, hwaiting, hback, hhistory⟩ := h.queue
  rw [back, if_pos held] at hback
  exact ⟨returned, fresh, hwaiting, hback, hhistory⟩

/-- A message that is received when nothing is left to be skipped is the next of the history. -/
theorem InOrder.deliver (h : before.InOrder name)
    (hreceives : Receives name before after message id) (skipped : before.skipped = [])
    (skipped' : after.skipped = [])
    (delivered : after.delivered = before.delivered ++ [message]) : after.InOrder name := by
  obtain ⟨returned, fresh, hwaiting, hback, hhistory⟩ := h.returned hreceives.held
  rw [skipped] at hback
  obtain rfl := List.map_eq_nil_iff.1 hback
  obtain rfl : fresh = message :: after.env.broker.queue name :=
    hwaiting.symm.trans hreceives.queue
  have horder := h.order
  rw [skipped, List.append_nil] at horder
  refine ⟨fun _ => skipped', ?_, ⟨[], after.env.broker.queue name, rfl, ?_, ?_⟩, hreceives.delivers⟩
  · rw [hreceives.acknowledged, hreceives.listed, skipped', List.append_nil, ← List.append_assoc,
      List.map_append, horder, delivered, List.map_append]
    simp [hreceives.identified]
  · rw [back, hreceives.hold, if_pos hreceives.held, skipped']
    rfl
  · rw [hreceives.published, hhistory, delivered, List.append_assoc]
    rfl

/-- A message that is received while some are left to be skipped is the first of them. -/
theorem InOrder.next_skipped (h : before.InOrder name)
    (hreceives : Receives name before after message id) {next : MessageId} {rest : List MessageId}
    (skipped : before.skipped = next :: rest) : next = id := by
  obtain ⟨returned, fresh, hwaiting, hback, -⟩ := h.returned hreceives.held
  rw [skipped] at hback
  obtain ⟨first, others, rfl, hid, -⟩ := List.map_eq_cons_iff.1 hback
  obtain ⟨rfl, -⟩ := List.cons.inj (hreceives.queue.symm.trans hwaiting)
  exact Option.some.inj (hid.symm.trans hreceives.identified)

/-- A message that is received and skipped is no longer to be skipped. -/
theorem InOrder.skip (h : before.InOrder name) (hreceives : Receives name before after message id)
    {rest : List MessageId} (skipped : before.skipped = id :: rest)
    (skipped' : after.skipped = rest) (delivered : after.delivered = before.delivered) :
    after.InOrder name := by
  obtain ⟨returned, fresh, hwaiting, hback, hhistory⟩ := h.returned hreceives.held
  rw [skipped] at hback
  obtain ⟨first, others, rfl, -, hothers⟩ := List.map_eq_cons_iff.1 hback
  obtain ⟨-, hqueue⟩ := List.cons.inj (hreceives.queue.symm.trans hwaiting)
  refine ⟨fun hfree => ?_, ?_, ⟨others, fresh, hqueue, ?_, ?_⟩, hreceives.delivers⟩
  · have hheld := hreceives.held
    rw [← hreceives.hold, hfree] at hheld
    cases hheld
  · rw [hreceives.acknowledged, hreceives.listed, skipped', delivered, ← h.order, skipped]
    simp
  · rw [back, hreceives.hold, if_pos hreceives.held, skipped']
    exact hothers
  · rw [hreceives.published, delivered]
    exact hhistory

/-- The first message of the queue is received. It is skipped if something is left to be skipped,
and delivered otherwise. -/
theorem InOrder.receive (h : before.InOrder name) (hcoherent : before.Coherent name)
    (hdistinct : before.env.broker.contents.Distinct name)
    (hlasting : before.env.broker.contents.Lasting name)
    (hold : before.hold = .held handle consumer)
    (granted : before.env.broker.perform now (.receive consumer) = (.ok (some message), broker))
    (identified : message.id = some id) :
    InOrder name { before with
      pending := before.pending ++ [⟨id, message.timestamp⟩]
      skipped := before.skipped.filter (· ≠ id)
      delivered := before.delivered ++ if id ∈ before.skipped then [] else [message]
      env := before.env.add (.broker (.receive consumer)) (.done (some message)) broker } := by
  obtain ⟨session, hmirrors⟩ := hcoherent.mirrored handle consumer hold
  obtain ⟨of, hof, hqueue, hsession⟩ := hmirrors.bound
  obtain ⟨hfirst, hpublished, hacknowledged⟩ := Broker.queue_of_receive granted hof hqueue
    (hsession ▸ hmirrors.found) hmirrors.client identified
    fun message => hcoherent.sound.not_isExpired hlasting
  have hreceives : ∀ skipped delivered, Receives name before
      ⟨before.pending ++ [⟨id, message.timestamp⟩], skipped, before.hold, delivered,
        before.env.add (.broker (.receive consumer)) (.done (some message)) broker⟩ message id :=
    fun skipped delivered =>
      { identified := identified
        held := by rw [hold]; rfl
        hold := rfl
        listed := List.map_append
        queue := hfirst
        published := hpublished
        acknowledged := hacknowledged
        delivers := fun handle' consumer' hold' =>
          (h.delivers handle' consumer' hold').perform rfl granted }
  cases hskipped : before.skipped with
  | nil => exact h.deliver (hreceives _ _) hskipped rfl (by simp)
  | cons next rest =>
    obtain rfl := h.next_skipped (hreceives [] []) hskipped
    have hrest : next ∉ rest := by
      have hnodup := (List.nodup_append.1 (h.nodup hdistinct)).2.1
      rw [hskipped] at hnodup
      exact (List.nodup_cons.1 (List.nodup_append.1 hnodup).2.1).1
    refine h.skip (hreceives _ _) hskipped ?_ (by simp)
    rw [List.filter_cons_of_neg (by simp)]
    refine List.filter_eq_self.2 fun other hother => ?_
    simpa using fun he : other = next => hrest (he ▸ hother)

/-- The first entry is acknowledged. -/
theorem InOrder.acknowledge (h : before.InOrder name) (hcoherent : before.Coherent name)
    (hold : before.hold = .held handle consumer) {entry : PendingDelivery}
    {rest : List PendingDelivery} (first : before.pending = entry :: rest)
    (granted : before.env.broker.perform now (.acknowledge handle entry.id) = (.ok (), broker)) :
    InOrder name { before with
      pending := rest
      env := before.env.add (.broker (.acknowledge handle entry.id)) (.done ()) broker } := by
  obtain ⟨session, hmirrors⟩ := hcoherent.mirrored handle consumer hold
  obtain ⟨-, hcontents⟩ := Broker.contents_of_acknowledge granted hmirrors.found hmirrors.client
  have hacknowledged : broker.acknowledged = before.env.broker.acknowledged ++ [entry.id] :=
    congrArg Contents.acknowledged hcontents
  have hqueue : broker.queue name = before.env.broker.queue name :=
    congrArg (fun contents : Contents => contents.queue name) hcontents
  have hpublished : broker.published (.queue name) = before.env.broker.published (.queue name) :=
    congrArg (fun contents : Contents => contents.history name) hcontents
  have hheld : before.hold.isHeld = true := by
    rw [hold]
    rfl
  obtain ⟨returned, fresh, hwaiting, hback, hhistory⟩ := h.returned hheld
  refine ⟨h.free, ?_, ⟨returned, fresh, hqueue.trans hwaiting, ?_, hpublished.trans hhistory⟩, ?_⟩
  · have horder := h.order
    rw [listed, first, List.map_cons] at horder
    change (broker.acknowledged ++ (rest.map (·.id) ++ before.skipped)).map some = _
    rw [hacknowledged, ← horder]
    simp
  · rw [back, if_pos hheld]
    exact hback
  · intro handle' consumer' hold'
    exact (h.delivers handle' consumer' hold').perform rfl granted

/-- What is listed comes back when the session is closed, in front of what is left to be skipped. -/
theorem InOrder.release (h : before.InOrder name) (hcoherent : before.Coherent name)
    (hdistinct : before.env.broker.contents.Distinct name)
    (hold : before.hold = .held handle consumer)
    (granted : before.env.broker.perform now (.closeSession handle) = (.ok (), broker)) :
    InOrder name { before with
      hold := .gone
      env := before.env.add (.broker (.closeSession handle)) (.done ()) broker } := by
  obtain ⟨session, hmirrors⟩ := hcoherent.mirrored handle consumer hold
  have hcontents := Broker.contents_of_closeSession granted hmirrors.found
  have hacknowledged : broker.acknowledged = before.env.broker.acknowledged :=
    congrArg Contents.acknowledged hcontents
  have hpublished : broker.published (.queue name) = before.env.broker.published (.queue name) :=
    congrArg (fun contents : Contents => contents.history name) hcontents
  have hqueue := Reader.queue_of_waiting (hmirrors.closeSession granted)
  have hheld : before.hold.isHeld = true := by
    rw [hold]
    rfl
  obtain ⟨returned, fresh, hwaiting, hback, hhistory⟩ := h.returned hheld
  -- What the session held goes back to the head of the queue.
  let flagged := session.held.map fun delivery => { delivery.message with redelivered := true }
  refine ⟨by simp, ?_, ⟨flagged ++ returned, fresh, ?_, ?_, hpublished.trans hhistory⟩, by simp⟩
  · change (broker.acknowledged ++ _).map some = _
    rw [hacknowledged]
    exact h.order
  · change broker.queue name = _
    rw [hqueue, hwaiting, List.append_assoc]
  · change _ = (before.listed ++ before.skipped).map some
    rw [List.map_append, List.map_append, hback, listed, hmirrors.same hdistinct, List.map_map,
      List.map_map, List.map_map]
    congr 1
    exact List.map_congr_left fun delivery hdelivery => (hmirrors.deliveries delivery hdelivery).2

/-- Every calm transition keeps a ledger in order. -/
theorem InOrder.step (h : before.InOrder name) (hcoherent : before.Coherent name)
    (hstep : Step True name before after) (hdistinct : after.env.broker.contents.Distinct name)
    (hlasting : after.env.broker.contents.Lasting name) : after.InOrder name := by
  have hbefore : before.env.broker.contents.Distinct name := .of_spares hstep.spares hdistinct
  have hlasting' : before.env.broker.contents.Lasting name := .of_spares hstep.spares hlasting
  cases hstep with
  | pass env passes => exact h.pass passes
  | attach handle consumer session free opened found client isOpen empty bound started =>
    refine h.attach free rfl rfl rfl rfl rfl fun handle' consumer' hold => ?_
    cases hold
    exact ⟨session, found, started trivial⟩
  | findNothing handle consumer now broker hold granted =>
    exact (h.exhausted hcoherent hlasting' hold granted).2
  | refuse handle consumer now broker message hold granted anonymous =>
    obtain ⟨session, hmirrors⟩ := hcoherent.mirrored handle consumer hold
    have hsome := hmirrors.isSome_id hcoherent.sound granted
    simp [anonymous] at hsome
  | receive handle consumer now broker message id hold granted identified =>
    exact h.receive hcoherent hbefore hlasting' hold granted identified
  | acknowledge handle consumer now broker entry rest hold first granted =>
    exact h.acknowledge hcoherent hold first granted
  | drop handle consumer now error entry rest hold first refused notPending =>
    obtain ⟨session, hmirrors⟩ := hcoherent.mirrored handle consumer hold
    rw [hmirrors.not_denied hbefore first refused] at notPending
    cases notPending
  | release handle consumer now broker hold granted =>
    exact h.release hcoherent hbefore hold granted
  | letGo rough => exact (rough trivial).elim
  | leave free =>
    obtain ⟨returned, fresh, hwaiting, hreturned, hhistory⟩ := h.queue
    refine ⟨by simp, h.order, ⟨returned, fresh, hwaiting, ?_, hhistory⟩, by simp⟩
    rw [back, free] at hreturned
    exact hreturned

/-- Calm transitions keep a ledger in order. -/
theorem InOrder.steps (h : before.InOrder name) (hcoherent : before.Coherent name)
    (hsteps : Steps True name before after) (hdistinct : after.env.broker.contents.Distinct name)
    (hlasting : after.env.broker.contents.Lasting name) : after.InOrder name := by
  induction hsteps with
  | refl => exact h
  | tail hbefore hstep ih =>
    have hmiddle := ih (.of_spares hstep.spares hdistinct) (.of_spares hstep.spares hlasting)
    exact hmiddle.step (hcoherent.steps hbefore) hstep hdistinct hlasting

end Ledger

end BrokerConnector
