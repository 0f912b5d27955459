import BrokerConnector.Proofs.Broker.Returns

/-!
# What a session forgets

A session holds its deliveries by the identifiers of their messages, and publishers may give one
identifier to many messages. When a session receives a message under the identifier of a delivery
that it holds, it replaces that delivery. One of a queue is forgotten then: nobody acknowledges it
and it never goes back.

So a session that is closed puts back what it received from queues, less what it acknowledged of
that and less what it forgot, whatever identifiers publishers give
(`close_returns_unless_replaced`).
-/

namespace BrokerConnector

/-- Whether a delivery came from a queue. -/
def Delivery.isOfQueue (delivery : Delivery) : Bool :=
  !delivery.destination.isTopic

/-- What came from a queue is what goes back to one. -/
theorem Delivery.isSome_requeued (delivery : Delivery) :
    delivery.requeued.isSome = delivery.isOfQueue := by
  unfold requeued isOfQueue Destination.isTopic
  cases delivery.destination <;> rfl

/-- Whether a session, by its position, received a message from a queue. -/
def Departure.isFromQueue (index : Nat) : Departure → Bool
  | received session _ destination _ => session = index && !destination.isTopic
  | discarded _ _ => false

/-- Whether a session, by its position, received one of some messages. -/
def Departure.isReceiptOf (index : Nat) (ids : MessageId → Bool) : Departure → Bool
  | received session _ _ message => session = index && message.id.any ids
  | discarded _ _ => false

/-- A session that holds one delivery at most of a message lets go of one when it lets go of the
message. -/
theorem countP_isOfQueue_filter (id : MessageId) (held : List Delivery)
    (distinct : (held.map (·.id)).Nodup) :
    (held.filter (·.id ≠ id)).countP (·.isOfQueue) +
        (held.any fun delivery => delivery.id = id && delivery.isOfQueue).toNat =
      held.countP (·.isOfQueue) := by
  induction held with
  | nil => rfl
  | cons first rest ih =>
    obtain ⟨hfirst, hrest⟩ := List.nodup_cons.1 distinct
    have hcount := ih hrest
    by_cases hid : first.id = id
    · have hnone : (rest.any fun delivery => delivery.id = id && delivery.isOfQueue) = false := by
        refine List.any_eq_false.2 fun delivery hdelivery => ?_
        have hne : delivery.id ≠ id := by
          rintro rfl
          exact hfirst (List.mem_map.2 ⟨delivery, hdelivery, hid.symm⟩)
        simp [hne]
      rw [hnone] at hcount
      rw [List.filter_cons_of_neg (by simpa using hid), List.any_cons, hnone, List.countP_cons]
      cases hqueue : first.isOfQueue <;> simp [hid, hcount.symm]
    · simp only [List.any_cons, hid, decide_false, Bool.false_and, Bool.false_or]
      rw [List.filter_cons_of_pos (by simpa using hid), List.countP_cons, List.countP_cons]
      omega

/-- A session that lets go of a message before it holds it holds one delivery at most of each
message. -/
theorem nodup_held_concat {held : List Delivery} (distinct : (held.map (·.id)).Nodup)
    (delivery : Delivery) :
    ((held.filter (·.id ≠ delivery.id) ++ [delivery]).map (·.id)).Nodup := by
  rw [List.map_append, List.map_singleton, List.nodup_append]
  refine ⟨distinct.sublist (List.filter_sublist.map _), by simp, ?_⟩
  intro id hid other hother
  obtain ⟨kept, hkept, rfl⟩ := List.mem_map.1 hid
  rw [List.mem_singleton.1 hother]
  simpa using (List.mem_filter.1 hkept).2

namespace Broker

/-! ## Counting along a run -/

/-- Whether a session, by its position, holds a delivery of a queue under an identifier. -/
def holdsOfQueue (broker : Broker) (index : Nat) (id : MessageId) : Bool :=
  broker.sessions[index]?.any fun session =>
    session.held.any fun delivery => delivery.id = id && delivery.isOfQueue

/-- Whether a session, by its position, acknowledges a delivery of a queue in an operation. -/
def settlesOfQueue (broker : Broker) (index : Nat) : Operation → Bool
  | .request (.acknowledge handle id) =>
    handle.index = index && (broker.acknowledge handle id).1.isOk && broker.holdsOfQueue index id
  | _ => false

/-- Whether a session, by its position, receives a message in an operation under the identifier of a
delivery of a queue that it holds. -/
def replacesOfQueue (broker : Broker) (now : Int64) (index : Nat) (operation : Operation) : Bool :=
  (broker.departures now operation).any (·.isReceiptOf index (broker.holdsOfQueue index))

/-- In how many operations of a run something is so. -/
def occasions (happens : Broker → Int64 → Operation → Bool) (broker : Broker) :
    List (Int64 × Operation) → Nat
  | [] => 0
  | (now, operation) :: rest =>
    (happens broker now operation).toNat + occasions happens (broker.operate now operation) rest

theorem occasions_append (happens : Broker → Int64 → Operation → Bool) (broker : Broker)
    (first second : List (Int64 × Operation)) :
    occasions happens broker (first ++ second) =
      occasions happens broker first + occasions happens (broker.operateAll first) second := by
  induction first generalizing broker with
  | nil => exact (Nat.zero_add _).symm
  | cons entry rest ih =>
    obtain ⟨now, operation⟩ := entry
    rw [List.cons_append, occasions, ih, occasions, Nat.add_assoc]
    rfl

/-- How many messages a session, by its position, received from queues since a broker was opened. -/
def receivedOfQueues (credentials : Option Credentials) (operations : List (Int64 × Operation))
    (index : Nat) : Nat :=
  (departedAfter credentials operations).countP (·.isFromQueue index)

/-- How many deliveries of queues a session, by its position, acknowledged since a broker was
opened. -/
def settledOfQueues (credentials : Option Credentials) (operations : List (Int64 × Operation))
    (index : Nat) : Nat :=
  occasions (fun broker _ => broker.settlesOfQueue index) { credentials := credentials } operations

/-- How often a session, by its position, received a message since a broker was opened that replaced
a delivery of a queue. -/
def replacedOfQueues (credentials : Option Credentials) (operations : List (Int64 × Operation))
    (index : Nat) : Nat :=
  occasions (fun broker now => broker.replacesOfQueue now index) { credentials := credentials }
    operations

/-- How many messages a session, by its position, received from queues is how many were handed over
to it from queues. -/
theorem receivedOfQueues_eq (credentials : Option Credentials)
    (operations : List (Int64 × Operation)) (index : Nat) :
    receivedOfQueues credentials operations index =
      (handoversAfter credentials operations).countP fun handover =>
        handover.session = index && !handover.destination.isTopic := by
  have hreceipts : (departedAfter credentials operations).countP (·.isFromQueue index) =
      ((departedAfter credentials operations).filter (·.isReceipt)).countP
        (·.isFromQueue index) := by
    rw [List.countP_filter]
    refine List.countP_congr fun departure _ => ?_
    cases departure <;> simp [Departure.isFromQueue, Departure.isReceipt]
  rw [receivedOfQueues, hreceipts, filter_departedAfter, List.countP_map]
  rfl

/-! ## One operation -/

variable {broker : Broker} {now : Int64} {index : Nat} {operation : Operation}

/-- A message is received in a receive that takes it for its consumer. -/
theorem exists_receiver?_of_departs {session : Nat} {mode : AcknowledgeMode}
    {destination : Destination} {message : Message}
    (h : .received session mode destination message ∈ broker.departures now operation) :
    ∃ handle consumer through, operation = .request (.receive handle) ∧
      broker.receiver? handle = some (consumer, through) ∧ consumer.session = session ∧
      broker.contents.next? now consumer = some message := by
  unfold departures at h
  split at h
  · rename_i handle
    split at h
    · rename_i consumer through hr
      rcases List.mem_append.1 h with hdiscarded | hreceived
      · obtain ⟨_, _, he⟩ := List.mem_map.1 hdiscarded
        cases he
      · obtain ⟨next, hnext, he⟩ := Option.map_eq_some_iff.1 (Option.mem_toList.1 hreceived)
        obtain ⟨hsession, -, -, rfl⟩ := Departure.received.inj he
        exact ⟨handle, consumer, through, rfl, hr, hsession, hnext⟩
    · cases h
  · cases h

/-- A message is received through the session that the operation touches. -/
theorem touched?_of_departs {session : Nat} {mode : AcknowledgeMode} {destination : Destination}
    {message : Message}
    (h : .received session mode destination message ∈ broker.departures now operation) :
    broker.touched? operation = some session := by
  obtain ⟨handle, consumer, through, rfl, hr, hsession, -⟩ := exists_receiver?_of_departs h
  rw [touched?, (receiver?_eq_some hr).1, Option.map_some, hsession]

/-- A session receives, acknowledges and replaces only in operations that touch it. -/
theorem counts_of_touched?_ne (now : Int64) (h : broker.touched? operation ≠ some index) :
    (broker.departures now operation).countP (·.isFromQueue index) = 0 ∧
      broker.settlesOfQueue index operation = false ∧
      broker.replacesOfQueue now index operation = false := by
  refine ⟨List.countP_eq_zero.2 fun departure hdeparture => ?_, ?_,
    List.any_eq_false.2 fun departure hdeparture => ?_⟩
  · cases departure with
    | discarded destination message => exact Bool.false_ne_true
    | received session mode destination message =>
      have hne : session ≠ index := fun he => h (he ▸ touched?_of_departs hdeparture)
      simp [Departure.isFromQueue, hne]
  · unfold settlesOfQueue
    split
    · rename_i handle id
      have hne : handle.index ≠ index := fun he => h (congrArg some he)
      simp [hne]
    · rfl
  · cases departure with
    | discarded destination message => exact Bool.false_ne_true
    | received session mode destination message =>
      have hne : session ≠ index := fun he => h (he ▸ touched?_of_departs hdeparture)
      simp [Departure.isReceiptOf, hne]

/-- What a session, by its position, holds of queues agrees with how much it received of them,
acknowledged and replaced. -/
structure Balances (broker : Broker) (index received settled replaced : Nat) : Prop where
  absent : broker.sessions.length ≤ index → received = 0 ∧ settled = 0 ∧ replaced = 0
  distinct : ∀ session, broker.sessions[index]? = some session →
    (session.held.map (·.id)).Nodup
  held : ∀ session, broker.sessions[index]? = some session → session.mode = .client →
    session.closed = false →
    session.held.countP (·.isOfQueue) + settled + replaced = received

section Step

variable {received settled replaced : Nat}

/-- An operation that does not touch a session keeps the agreement. -/
theorem Balances.operate_of_ne (h : broker.Balances index received settled replaced) (now : Int64)
    (untouched : broker.touched? operation ≠ some index) :
    (broker.operate now operation).Balances index received settled replaced := by
  obtain ⟨through, -, hstep⟩ := broker.operate_step now operation
  refine ⟨fun habsent => h.absent (Nat.le_trans (hstep.session_of_absent index).1 habsent), ?_, ?_⟩
  · intro session hsession
    rcases session_of_touched?_ne now untouched hsession with hold | ⟨-, hempty⟩
    · exact h.distinct session hold
    · simp [hempty]
  · intro session hsession hclient hopen
    rcases session_of_touched?_ne now untouched hsession with hold | ⟨habsent, hempty⟩
    · exact h.held session hold hclient hopen
    · obtain ⟨rfl, rfl, rfl⟩ := h.absent habsent
      simp [hempty]

/-- The agreement after an operation that changes the session itself. -/
theorem Balances.of_set {after : Broker} {session changed : Session}
    (found : broker.sessions[index]? = some session)
    (sessions : after.sessions = broker.sessions.set index changed)
    (distinct : (changed.held.map (·.id)).Nodup)
    (held : changed.mode = .client → changed.closed = false →
      changed.held.countP (·.isOfQueue) + settled + replaced = received) :
    after.Balances index received settled replaced := by
  have hlt := (List.getElem?_eq_some_iff.1 found).1
  have hchanged : after.sessions[index]? = some changed := by
    rw [sessions, List.getElem?_set_self hlt]
  have hlength : after.sessions.length = broker.sessions.length := by
    rw [sessions, List.length_set]
  refine ⟨fun habsent => absurd hlt (by omega), fun other hother => ?_,
    fun other hother hclient hopen => ?_⟩
  · obtain rfl := Option.some.inj (hchanged.symm.trans hother)
    exact distinct
  · obtain rfl := Option.some.inj (hchanged.symm.trans hother)
    exact held hclient hopen

/-- An acknowledgment through a session takes one delivery out, of a queue or not. -/
theorem Balances.acknowledge (h : broker.Balances index received settled replaced)
    {handle : SessionHandle} (through : handle.index = index) (id : MessageId) :
    (broker.acknowledge handle id).2.Balances index received
      (settled + (broker.settlesOfQueue index (.request (.acknowledge handle id))).toNat)
      replaced := by
  subst through
  cases hanswer : (broker.acknowledge handle id).1 with
  | error error =>
    have hrefused : (broker.perform 0 (.acknowledge handle id)).1 = .error error := hanswer
    have hsame : (broker.acknowledge handle id).2 = broker := perform_of_refused hrefused
    rw [hsame, settlesOfQueue, hanswer]
    simpa [Except.isOk, Except.toBool] using h
  | ok =>
    have hgranted : broker.perform 0 (.acknowledge handle id) =
        (.ok (), (broker.acknowledge handle id).2) := Prod.ext hanswer rfl
    obtain ⟨session, hfound, hopen, hauto⟩ := exists_session_of_acknowledge hgranted
    cases hmode : session.mode with
    | auto =>
      -- Nothing is said of a session in auto mode.
      rw [hauto hmode]
      exact .of_set hfound (set_eq_self hfound).symm (h.distinct session hfound) (by simp [hmode])
    | client =>
      obtain ⟨-, hcontents⟩ := contents_of_acknowledge hgranted hfound hmode
      have hdistinct := h.distinct session hfound
      have hsettles : broker.settlesOfQueue handle.index (.request (.acknowledge handle id)) =
          session.held.any fun delivery => delivery.id = id && delivery.isOfQueue := by
        simp [settlesOfQueue, holdsOfQueue, hanswer, hfound, Except.isOk, Except.toBool]
      refine .of_set hfound (congrArg Contents.sessions hcontents)
        (hdistinct.sublist (List.filter_sublist.map _)) fun hclient hopen => ?_
      have hcount := countP_isOfQueue_filter id session.held hdistinct
      have hbalance := h.held session hfound hmode hopen
      rw [hsettles]
      show (session.held.filter _).countP _ + _ + _ = _
      omega

/-- A session that is closed owes no agreement any more. -/
theorem Balances.closeSession (h : broker.Balances index received settled replaced)
    {handle : SessionHandle} (through : handle.index = index) :
    (broker.closeSession handle).2.Balances index received settled replaced := by
  subst through
  cases hanswer : (broker.closeSession handle).1 with
  | error error =>
    have hrefused : (broker.perform 0 (.closeSession handle)).1 = .error error := hanswer
    have hsame : (broker.closeSession handle).2 = broker := perform_of_refused hrefused
    rw [hsame]
    exact h
  | ok =>
    have hgranted : broker.perform 0 (.closeSession handle) =
        (.ok (), (broker.closeSession handle).2) := Prod.ext hanswer rfl
    obtain ⟨session, hfound, -⟩ := exists_session_of_closeSession hgranted
    have hcontents := contents_of_closeSession hgranted hfound
    exact .of_set hfound (congrArg Contents.sessions hcontents) List.nodup_nil (by simp)

/-- What is received of queues when a consumer of a session takes its next message. -/
theorem countP_isFromQueue_departing (contents : Contents) (consumer : Consumer)
    (session : Session) :
    (contents.departing now consumer session).countP (·.isFromQueue consumer.session) =
      if consumer.destination.isTopic then 0 else (contents.next? now consumer).toList.length := by
  have hdiscards : (contents.discards now consumer).countP
      (·.isFromQueue consumer.session) = 0 := by
    refine List.countP_eq_zero.2 fun departure hdeparture => ?_
    obtain ⟨message, -, rfl⟩ := List.mem_map.1 hdeparture
    exact Bool.false_ne_true
  rw [Contents.departing, List.countP_append, hdiscards, Nat.zero_add]
  cases contents.next? now consumer <;> cases consumer.destination <;>
    simp [Departure.isFromQueue, Destination.isTopic]

/-- Whether a delivery is replaced when a consumer of a session takes its next message. -/
theorem any_isReceiptOf_departing (contents : Contents) (consumer : Consumer) (session : Session)
    (ids : MessageId → Bool) :
    (contents.departing now consumer session).any (·.isReceiptOf consumer.session ids) =
      (contents.next? now consumer).any fun message => message.id.any ids := by
  have hdiscards : (contents.discards now consumer).any
      (·.isReceiptOf consumer.session ids) = false := by
    refine List.any_eq_false.2 fun departure hdeparture => ?_
    obtain ⟨message, -, rfl⟩ := List.mem_map.1 hdeparture
    exact Bool.false_ne_true
  rw [Contents.departing, List.any_append, hdiscards, Bool.false_or]
  cases contents.next? now consumer <;> simp [Departure.isReceiptOf]

/-- A session that receives a message holds one delivery more, and lets go of the one that it
replaces. -/
theorem Balances.receive (h : broker.Balances index received settled replaced)
    {departed : List Departure} (traced : broker.contents.Traced departed)
    (sound : broker.contents.Sound) (now : Int64) {handle : ConsumerHandle} {consumer : Consumer}
    {session : Session} (hr : broker.receiver? handle = some (consumer, session))
    (through : consumer.session = index) :
    (broker.receive now handle).2.Balances index
      (received + (broker.departures now (.request (.receive handle))).countP
        (·.isFromQueue index))
      settled
      (replaced + (broker.replacesOfQueue now index (.request (.receive handle))).toNat) := by
  subst through
  obtain ⟨hconsumer, -, hsession, hopen⟩ := receiver?_eq_some hr
  have hdistinct := h.distinct session hsession
  have hsessions : (broker.receive now handle).2.sessions =
      ((broker.contents.withoutTaken now handle.index consumer).keep consumer session
        (broker.contents.next? now consumer)).sessions :=
    congrArg Contents.sessions (contents_receive now hr)
  rw [replacesOfQueue, departures_receive hr, countP_isFromQueue_departing,
    any_isReceiptOf_departing]
  cases hnext : broker.contents.next? now consumer with
  | none =>
    rw [hnext, Contents.keep, Contents.sessions_withoutTaken] at hsessions
    refine .of_set hsession (hsessions.trans (set_eq_self hsession).symm) hdistinct
      fun hclient hopen => ?_
    simpa using h.held session hsession hclient hopen
  | some message =>
    obtain ⟨original, horiginal, hsame⟩ := traced.next hconsumer hnext
    obtain ⟨id, hid⟩ := Option.isSome_iff_exists.1 (hsame ▸ sound.identified _ horiginal)
    rw [hnext] at hsessions
    cases hmode : session.mode with
    | auto =>
      -- A session in auto mode does not hold what it receives.
      rw [Contents.keep, hmode, Contents.sessions_withoutTaken] at hsessions
      exact .of_set hsession (hsessions.trans (set_eq_self hsession).symm) hdistinct
        (by simp [hmode])
    | client =>
      simp only [Contents.keep, hmode, hid, Contents.hold, Contents.sessions_withoutTaken]
        at hsessions
      refine .of_set hsession hsessions
        (nodup_held_concat hdistinct ⟨id, consumer.destination, message⟩) fun _ _ => ?_
      -- The session lets go of what it held under the identifier, and that was counted as replaced.
      have hholds : broker.holdsOfQueue consumer.session id =
          session.held.any fun delivery => delivery.id = id && delivery.isOfQueue := by
        simp [holdsOfQueue, hsession]
      have hcount := countP_isOfQueue_filter id session.held hdistinct
      have hbalance := h.held session hsession hmode hopen
      have hnew : [Delivery.mk id consumer.destination message].countP (·.isOfQueue) =
          if consumer.destination.isTopic then 0 else 1 := by
        cases consumer.destination <;> rfl
      simp only [Option.any_some, hid, hholds, List.countP_append, hnew, Option.toList_some,
        List.length_singleton]
      omega

/-- An operation keeps the agreement. -/
theorem Balances.operate (h : broker.Balances index received settled replaced)
    {departed : List Departure} (traced : broker.contents.Traced departed)
    (sound : broker.contents.Sound) (now : Int64) (operation : Operation) :
    (broker.operate now operation).Balances index
      (received + (broker.departures now operation).countP (·.isFromQueue index))
      (settled + (broker.settlesOfQueue index operation).toNat)
      (replaced + (broker.replacesOfQueue now index operation).toNat) := by
  -- Three requests touch a session. Whatever else happens, it counts nothing.
  by_cases htouched : broker.touched? operation = some index
  · unfold touched? at htouched
    split at htouched
    · exact h.acknowledge (Option.some.inj htouched) _
    · exact h.closeSession (Option.some.inj htouched)
    · rename_i handle
      cases hr : broker.receiver? handle with
      | none =>
        have hsame : broker.operate now (.request (.receive handle)) = broker :=
          (receive_of_receiver?_eq_none now hr).1
        rw [hsame, replacesOfQueue]
        simpa [departures_receive_of_none hr, settlesOfQueue] using h
      | some pair =>
        obtain ⟨consumer, session⟩ := pair
        rw [(receiver?_eq_some hr).1, Option.map_some] at htouched
        exact h.receive traced sound now hr (Option.some.inj htouched)
    · cases htouched
  · obtain ⟨hreceived, hsettled, hreplaced⟩ := counts_of_touched?_ne now htouched
    rw [hreceived, hsettled, hreplaced]
    exact h.operate_of_ne now htouched

end Step

/-! ## Every run -/

/-- After every run, what a session holds of queues agrees with how much it received of them,
acknowledged and replaced. -/
theorem balances_after (credentials : Option Credentials) (operations : List (Int64 × Operation))
    (index : Nat) :
    (after credentials operations).Balances index (receivedOfQueues credentials operations index)
      (settledOfQueues credentials operations index)
      (replacedOfQueues credentials operations index) := by
  induction operations using List.reverseRecOn with
  | nil =>
    refine ⟨fun _ => ⟨rfl, rfl, rfl⟩, ?_, ?_⟩ <;> simp [after, operateAll]
  | append_singleton operations entry ih =>
    obtain ⟨now, operation⟩ := entry
    rw [after_append, operateAll_singleton, receivedOfQueues, departedAfter_append,
      departed_singleton, List.countP_append, settledOfQueues, replacedOfQueues, occasions_append,
      occasions_append]
    exact ih.operate (traced_after credentials operations) (sound_after credentials operations) now
      operation

/-! ## Distinct identifiers -/

/-- A session that takes a message holds no delivery of a queue under its identifier, if identifiers
are distinct. -/
theorem replacesOfQueue_eq_false {departed : List Departure} {given : List MessageId}
    (hconserved : broker.Conserved departed) (hnumbered : broker.Numbered given) (now : Int64)
    (index : Nat) (operation : Operation) :
    broker.replacesOfQueue now index operation = false := by
  refine List.any_eq_false.2 fun departure hdeparture hreceipt => ?_
  cases departure with
  | discarded => cases hreceipt
  | received through mode destination message =>
    obtain ⟨handle, consumer, _, -, hr, -, hnext⟩ := exists_receiver?_of_departs hdeparture
    have hconsumer := (receiver?_eq_some hr).1
    simp only [Departure.isReceiptOf, Bool.and_eq_true, decide_eq_true_eq, Option.any_eq_true]
      at hreceipt
    obtain ⟨rfl, id, hid, hholds⟩ := hreceipt
    simp only [holdsOfQueue, Option.any_eq_true, List.any_eq_true, Bool.and_eq_true,
      decide_eq_true_eq] at hholds
    obtain ⟨session, hsession, delivery, hdelivery, rfl, hqueue⟩ := hholds
    obtain ⟨name, hname⟩ : ∃ name, delivery.destination = .queue name := by
      unfold Delivery.isOfQueue at hqueue
      cases hdestination : delivery.destination with
      | queue name => exact ⟨name, rfl⟩
      | topic name => simp [hdestination, Destination.isTopic] at hqueue
    have hmem : delivery.message ∈ messagesFrom name session.held :=
      List.mem_map_of_mem (List.mem_filter.2 ⟨hdelivery, by simpa using hname⟩)
    exact hconserved.id_ne_of_next hnumbered hconsumer hnext hid hsession delivery.message hmem
      (Roll.identified_of_held hconserved.traced hsession delivery hdelivery)

/-- With distinct identifiers, nothing is forgotten. -/
theorem replacedOfQueues_eq_zero (credentials : Option Credentials)
    (operations : List (Int64 × Operation))
    (distinct : DistinctIds operations (after credentials operations).messageCount) (index : Nat) :
    replacedOfQueues credentials operations index = 0 := by
  induction operations using List.reverseRecOn with
  | nil => rfl
  | append_singleton operations entry ih =>
    obtain ⟨now, operation⟩ := entry
    rw [after_append, operateAll_singleton] at distinct
    obtain ⟨hnumbered, hconserved⟩ := conserved_after credentials operations distinct.init
    have hlast := replacesOfQueue_eq_false hconserved hnumbered now index operation
    rw [replacedOfQueues, occasions_append, ← replacedOfQueues, ih distinct.init, Nat.zero_add]
    show ((after credentials operations).replacesOfQueue now index operation).toNat + 0 = 0
    rw [hlast]
    rfl

/-! ## Closing -/

/-- A session that is closed puts back on queues what it received from them, less what it
acknowledged of that and less what it replaced. So nothing is forgotten exactly if it never received
a message under the identifier of a delivery of a queue that it still held, as is the case if
identifiers are distinct. It received from queues as many messages as the receives of its consumers
of queues were answered with. -/
theorem close_returns_unless_replaced (credentials : Option Credentials)
    (operations : List (Int64 × Operation)) {now : Int64} {handle : SessionHandle}
    {session : Session} {closed : Broker}
    (found : (after credentials operations).sessions[handle.index]? = some session)
    (client : session.mode = .client)
    (granted : (after credentials operations).perform now (.closeSession handle) =
      (.ok (), closed)) :
    let received := receivedOfQueues credentials operations handle.index
    let settled := settledOfQueues credentials operations handle.index
    let replaced := replacedOfQueues credentials operations handle.index
    ∃ returned, closed.waiting = returned ++ (after credentials operations).waiting ∧
      returned.length + settled + replaced = received ∧
      (returned.length = received - settled ↔ replaced = 0) ∧
      (DistinctIds operations (after credentials operations).messageCount → replaced = 0) ∧
      received = (handoversAfter credentials operations).countP fun handover =>
        handover.session = handle.index && !handover.destination.isTopic := by
  intro received settled replaced
  have hopen : session.closed = false :=
    isOpen_of_closeSession found (congrArg Prod.fst granted)
  have hbalance : session.held.countP (·.isOfQueue) + settled + replaced = received :=
    (balances_after credentials operations handle.index).held session found client hopen
  have hreturned : (session.held.filterMap Delivery.requeued).length =
      session.held.countP (·.isOfQueue) := by
    rw [List.length_filterMap_eq_countP]
    exact List.countP_congr fun delivery _ => by rw [delivery.isSome_requeued]
  refine ⟨session.held.filterMap Delivery.requeued,
    congrArg Contents.waiting (contents_of_closeSession granted found), ?_, ?_, ?_, ?_⟩
  · rw [hreturned]
    exact hbalance
  · rw [hreturned]
    omega
  · exact fun distinct => replacedOfQueues_eq_zero credentials operations distinct handle.index
  · exact receivedOfQueues_eq credentials operations handle.index

/-- A publisher gives one identifier to two messages of a queue, and a session receives both. -/
def repeatingRun : List (Int64 × Operation) :=
  let message (text : String) : Message := { Message.ofText text with id := some ⟨"A"⟩ }
  [(1, .publish (.queue "orders") (message "first")),
   (2, .publish (.queue "orders") (message "second")),
   (3, .request (.connect none)),
   (4, .request (.startConnection ⟨0⟩)),
   (5, .request (.createSession ⟨0⟩ .client)),
   (6, .request (.createConsumer ⟨0, "session-1-2", .client⟩ (.queue "orders"))),
   (7, .request (.receive ⟨0⟩)),
   (8, .request (.receive ⟨0⟩))]

/-- One of both deliveries is replaced, and the other one goes back. In a run with distinct
identifiers, a session that received four messages from queues and acknowledged one gives back
three. -/
theorem close_returns_unless_replaced_repeatingRun :
    let handle : SessionHandle := ⟨0, "session-1-2", .client⟩
    (let closed := ((after none repeatingRun).perform 9 (.closeSession handle)).2
    replacedOfQueues none repeatingRun 0 = 1 ∧
      ∃ returned, closed.waiting = returned ++ (after none repeatingRun).waiting ∧
        returned.length + 0 + 1 = 2) ∧
    let closed := ((after none returningRun).perform 19 (.closeSession handle)).2
    replacedOfQueues none returningRun 0 = 0 ∧
      ∃ returned, closed.waiting = returned ++ (after none returningRun).waiting ∧
        returned.length = 4 - 1 := by
  intro handle
  constructor
  · intro closed
    have hgranted : ((after none repeatingRun).perform 9 (.closeSession handle)).1 = .ok () := by
      decide +kernel
    have hresult : (after none repeatingRun).perform 9 (.closeSession handle) = (.ok (), closed) :=
      Prod.ext hgranted rfl
    have hmode : (after none repeatingRun).sessions[0]?.map (·.mode) = some .client := by
      decide +kernel
    obtain ⟨session, hsession, hclient⟩ := Option.map_eq_some_iff.1 hmode
    have hreceived : receivedOfQueues none repeatingRun 0 = 2 := by decide +kernel
    have hsettled : settledOfQueues none repeatingRun 0 = 0 := by decide +kernel
    have hreplaced : replacedOfQueues none repeatingRun 0 = 1 := by decide +kernel
    obtain ⟨returned, hwaiting, hcount, -⟩ :=
      close_returns_unless_replaced none repeatingRun hsession hclient hresult
    rw [hreceived, hsettled, hreplaced] at hcount
    exact ⟨hreplaced, returned, hwaiting, hcount⟩
  · intro closed
    have hgranted : ((after none returningRun).perform 19 (.closeSession handle)).1 = .ok () := by
      decide +kernel
    have hresult : (after none returningRun).perform 19 (.closeSession handle) = (.ok (), closed) :=
      Prod.ext hgranted rfl
    have hmode : (after none returningRun).sessions[0]?.map (·.mode) = some .client := by
      decide +kernel
    obtain ⟨session, hsession, hclient⟩ := Option.map_eq_some_iff.1 hmode
    have hreceived : receivedOfQueues none returningRun 0 = 4 := by decide +kernel
    have hsettled : settledOfQueues none returningRun 0 = 1 := by decide +kernel
    obtain ⟨returned, hwaiting, -, hiff, hdistinct, -⟩ :=
      close_returns_unless_replaced none returningRun hsession hclient hresult
    have hreplaced : replacedOfQueues none returningRun 0 = 0 := hdistinct distinctIds_returningRun
    rw [hreceived, hsettled] at hiff
    exact ⟨hreplaced, returned, hwaiting, hiff.2 hreplaced⟩

/-- A session is closed that received two messages from a queue and acknowledged none, and only one
of them goes back. -/
theorem close_forgets_repeatingRun :
    let result := (after none repeatingRun).perform 9 (.closeSession ⟨0, "session-1-2", .client⟩)
    let received := receivedOfQueues none repeatingRun 0
    let settled := settledOfQueues none repeatingRun 0
    result.1 = .ok () ∧ received = 2 ∧ settled = 0 ∧ (after none repeatingRun).waiting = [] ∧
      result.2.waiting.map (·.message.text?) = [some "second"] ∧
      result.2.waiting.length ≠ received - settled := by
  decide +kernel

end Broker

end BrokerConnector
