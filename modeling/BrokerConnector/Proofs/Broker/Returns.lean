import BrokerConnector.Proofs.Broker.Register

/-!
# What a closed session gives back

The log of a run tells what a session received from a queue, in order, and what it acknowledged.
What is left of the one without the other is outstanding. With distinct identifiers a session holds
exactly what is outstanding, in the order of receipt (`Broker.outstanding_after`): a message that it
receives is held nowhere and acknowledged nowhere, so no delivery replaces an earlier one of the
same queue, and an acknowledgment takes out one message and leaves the others in place.

Hence a session that is closed puts what is outstanding back in front of every queue, in the order
of receipt, whatever it received in between from other queues and from topics.
-/

namespace BrokerConnector

/-- The message that a session, by its position, received from a queue. -/
def Departure.receivedFrom? (name : String) (index : Nat) : Departure → Option Message
  | received session _ destination message =>
    if session = index ∧ destination = .queue name then some message else none
  | discarded _ _ => none

/-- A list with one of its elements put in its own place is the same. -/
theorem set_eq_self {α : Type} {list : List α} {index : Nat} {element : α}
    (h : list[index]? = some element) : list.set index element = list := by
  obtain ⟨hlt, rfl⟩ := List.getElem?_eq_some_iff.1 h
  exact List.set_getElem_self hlt

namespace Contents

/-- A session that comes to be there is empty, and none goes. -/
theorem Step.session_of_absent {now : Int64} {before after : Contents}
    {through : Option Nat} {departures : List Departure}
    (h : before.Step now through departures after) (index : Nat) :
    before.sessions.length ≤ after.sessions.length ∧
      (before.sessions.length ≤ index → ∀ session, after.sessions[index]? = some session →
        session.held = []) := by
  have hsame : ∀ {later : List Session}, later.length = before.sessions.length →
      before.sessions.length ≤ later.length ∧ (before.sessions.length ≤ index →
        ∀ session, later[index]? = some session → session.held = []) := by
    intro later hlength
    refine ⟨Nat.le_of_eq hlength.symm, fun habsent session hsession => ?_⟩
    rw [List.getElem?_eq_none (hlength ▸ habsent)] at hsession
    cases hsession
  cases h with
  | openSession opened empty =>
    refine ⟨by simp, fun habsent session hsession => ?_⟩
    rcases List.mem_append.1 (List.mem_of_getElem? hsession) with hold | hnew
    · rw [List.getElem?_append_right habsent] at hsession
      obtain rfl := List.mem_singleton.1 (List.mem_of_getElem? hsession)
      exact empty
    · obtain rfl := List.mem_singleton.1 hnew
      exact empty
  | acknowledge => exact hsame List.length_set
  | closeSession => exact hsame List.length_set
  | takeOver => exact hsame (by rw [sessions_withoutTaken])
  | takeHeld =>
    exact hsame (by rw [hold, List.length_set, sessions_withoutTaken])
  | _ => exact hsame rfl

/-- Keeping a message acknowledges nothing. -/
theorem acknowledged_keep (contents : Contents) (consumer : Consumer) (session : Session)
    (message : Option Message) :
    (contents.keep consumer session message).acknowledged = contents.acknowledged := by
  unfold keep
  split
  · split <;> rfl
  · rfl

end Contents

namespace Broker

/-! ## What is outstanding -/

/-- The messages of a queue that a session, by its position, received, in order. -/
def receivedFrom (name : String) (index : Nat) (departed : List Departure) : List Message :=
  departed.filterMap (·.receivedFrom? name index)

/-- The identifiers that a session, by its position, acknowledges in an operation. -/
def settled (broker : Broker) (index : Nat) : Operation → List MessageId
  | .request (.acknowledge handle id) =>
    match (broker.acknowledge handle id).1 with
    | .ok _ => if handle.index = index then [id] else []
    | .error _ => []
  | _ => []

/-- The identifiers that a session, by its position, acknowledges in operations, in order. -/
def settledAll (broker : Broker) (index : Nat) : List (Int64 × Operation) → List MessageId
  | [] => []
  | (now, operation) :: rest =>
    broker.settled index operation ++ (broker.operate now operation).settledAll index rest

/-- The identifiers that a session, by its position, acknowledged since a broker was opened. -/
def settledAfter (credentials : Option Credentials) (operations : List (Int64 × Operation))
    (index : Nat) : List MessageId :=
  settledAll { credentials := credentials } index operations

/-- Received messages without those that are acknowledged. -/
def unsettled (received : List Message) (settled : List MessageId) : List Message :=
  received.filter fun message => ∀ id ∈ settled, message.id ≠ some id

/-- The messages of a queue that a session, by its position, received since a broker was opened and
did not acknowledge, in the order in which it received them. -/
def outstanding (credentials : Option Credentials) (operations : List (Int64 × Operation))
    (index : Nat) (name : String) : List Message :=
  unsettled (receivedFrom name index (departedAfter credentials operations))
    (settledAfter credentials operations index)

theorem receivedFrom_append (name : String) (index : Nat) (first second : List Departure) :
    receivedFrom name index (first ++ second) =
      receivedFrom name index first ++ receivedFrom name index second :=
  List.filterMap_append

theorem settledAll_append (broker : Broker) (index : Nat)
    (first second : List (Int64 × Operation)) :
    broker.settledAll index (first ++ second) =
      broker.settledAll index first ++ (broker.operateAll first).settledAll index second := by
  induction first generalizing broker with
  | nil => rfl
  | cons entry rest ih =>
    obtain ⟨now, operation⟩ := entry
    rw [List.cons_append, settledAll, ih, settledAll, List.append_assoc]
    rfl

theorem settledAfter_concat (credentials : Option Credentials)
    (operations : List (Int64 × Operation)) (now : Int64) (operation : Operation) (index : Nat) :
    settledAfter credentials (operations ++ [(now, operation)]) index =
      settledAfter credentials operations index ++
        (after credentials operations).settled index operation := by
  rw [settledAfter, settledAll_append, settledAll, settledAll, List.append_nil]
  rfl

/-- One more acknowledgment takes its message out. -/
theorem unsettled_acknowledge (received : List Message) (settled : List MessageId)
    (id : MessageId) : unsettled received (settled ++ [id]) =
      (unsettled received settled).filter (·.id ≠ some id) := by
  rw [unsettled, unsettled, List.filter_filter]
  refine List.filter_congr fun message _ => ?_
  simp [or_imp, forall_and, and_comm]

/-- One more message is outstanding unless it is acknowledged already. -/
theorem unsettled_receive (received : List Message) {settled : List MessageId} {message : Message}
    (unacknowledged : ∀ id ∈ settled, message.id ≠ some id) :
    unsettled (received ++ [message]) settled = unsettled received settled ++ [message] := by
  have hkept : [message].filter (fun message => ∀ id ∈ settled, message.id ≠ some id) = [message] :=
    List.filter_eq_self.2 fun _ hmem => by
      simpa [List.mem_singleton.1 hmem] using unacknowledged
  rw [unsettled, List.filter_append, hkept]
  rfl

/-- What is discarded is received from no queue. -/
theorem receivedFrom_filter (name : String) (index : Nat) (departed : List Departure) :
    receivedFrom name index (departed.filter (·.isReceipt)) = receivedFrom name index departed := by
  rw [receivedFrom, List.filterMap_filter]
  refine List.filterMap_congr fun departure _ => ?_
  cases departure <;> rfl

/-- What is handed over to a session from a queue is received by the session from the queue. -/
theorem receivedFrom_map_departure (name : String) (index : Nat) (handovers : List Handover) :
    receivedFrom name index (handovers.map (·.departure)) =
      (handovers.filter fun handover =>
        handover.session = index ∧ handover.destination = .queue name).map (·.message) := by
  rw [receivedFrom, List.filterMap_map]
  induction handovers with
  | nil => rfl
  | cons first rest ih =>
    rw [List.filterMap_cons, ih, List.filter_cons]
    by_cases h : first.session = index ∧ first.destination = .queue name
    · simp [Handover.departure, Departure.receivedFrom?, h]
    · simp [Handover.departure, Departure.receivedFrom?, h]

/-- What a session, by its position, received from a queue is what was handed over to it. -/
theorem receivedFrom_departedAfter (credentials : Option Credentials)
    (operations : List (Int64 × Operation)) (index : Nat) (name : String) :
    receivedFrom name index (departedAfter credentials operations) =
      ((handoversAfter credentials operations).filter fun handover =>
        handover.session = index ∧ handover.destination = .queue name).map (·.message) := by
  rw [← receivedFrom_filter, filter_departedAfter, receivedFrom_map_departure]

/-! ## One operation -/

variable {broker : Broker} {now : Int64} {name : String} {index : Nat}

/-- What departs when a consumer of a session takes its next message is received from a queue if it
is the queue of the consumer. -/
theorem receivedFrom_departing (contents : Contents) (consumer : Consumer) (session : Session) :
    receivedFrom name index (contents.departing now consumer session) =
      if consumer.session = index ∧ consumer.destination = .queue name then
        (contents.next? now consumer).toList
      else [] := by
  have hdiscards : receivedFrom name index (contents.discards now consumer) = [] := by
    refine List.filterMap_eq_nil_iff.2 fun departure hdeparture => ?_
    obtain ⟨message, -, rfl⟩ := List.mem_map.1 hdeparture
    rfl
  rw [Contents.departing, receivedFrom_append, hdiscards, List.nil_append]
  cases contents.next? now consumer with
  | none =>
    rw [Option.toList_none, ite_self]
    rfl
  | some message =>
    rw [Option.map_some, Option.toList_some, Option.toList_some]
    unfold receivedFrom Departure.receivedFrom?
    rw [List.filterMap_cons]
    split <;> rename_i h <;> split at h <;> simp_all

/-- A session receives and acknowledges only in operations that change what it holds. -/
theorem quiet_of_touched?_ne (now : Int64) (name : String) {operation : Operation}
    (h : broker.touched? operation ≠ some index) :
    receivedFrom name index (broker.departures now operation) = [] ∧
      broker.settled index operation = [] := by
  constructor
  · cases operation with
    | request request =>
      cases request with
      | receive handle =>
        cases hr : broker.receiver? handle with
        | none => simp only [departures_receive_of_none hr, receivedFrom, List.filterMap_nil]
        | some pair =>
          obtain ⟨consumer, session⟩ := pair
          obtain ⟨hconsumer, -⟩ := receiver?_eq_some hr
          have hne : consumer.session ≠ index := by
            rintro rfl
            exact h (by simp [touched?, hconsumer])
          rw [departures_receive hr, receivedFrom_departing, if_neg fun he => hne he.1]
      | _ => rfl
    | _ => rfl
  · unfold settled
    split
    · rename_i handle id
      split
      · exact if_neg fun he => h (congrArg some he)
      · rfl
    · rfl

section Taking

variable {departed : List Departure} {given : List MessageId} {consumer : Consumer} {position : Nat}
  {message : Message} {id : MessageId}

/-- A message of a queue that a consumer takes next is held by no session and was never
acknowledged. -/
theorem Conserved.alone_of_next (h : broker.Conserved departed) (hnumbered : broker.Numbered given)
    (found : broker.consumers[position]? = some consumer) {queue : String}
    (hdestination : consumer.destination = .queue queue)
    (hnext : broker.contents.next? now consumer = some message) (hid : message.id = some id) :
    broker.contents.heldCount id = 0 ∧ broker.acknowledgmentCount id = 0 := by
  obtain ⟨original, horiginal, hsame⟩ := h.traced.next found hnext
  rw [hdestination] at horiginal
  have hbalance := h.balance id (hnumbered.ne_of_topic horiginal (hsame.trans hid))
  have hle := hnumbered.countP_accepted_le id
  have hwaiting : 0 < broker.contents.waitingCount id := by
    have hsource : message ∈ broker.contents.source consumer :=
      (List.dropWhile_suffix _).subset (List.mem_of_mem_head? hnext)
    rw [Contents.source, hdestination] at hsource
    obtain ⟨waiting, hmem, rfl⟩ := List.mem_map.1 hsource
    exact List.countP_pos_iff.2 ⟨waiting, (List.mem_filter.1 hmem).1, by simpa using hid⟩
  unfold total at hbalance
  omega

/-- No session holds a delivery of a queue with the identifier of a message that a consumer takes
next. -/
theorem Conserved.id_ne_of_next (h : broker.Conserved departed) (hnumbered : broker.Numbered given)
    (found : broker.consumers[position]? = some consumer)
    (hnext : broker.contents.next? now consumer = some message) (hid : message.id = some id)
    {session : Session} (hsession : broker.sessions[index]? = some session) :
    ∀ other ∈ messagesFrom name session.held, other.id ≠ some id := by
  intro other hother hsame
  obtain ⟨delivery, hmem, rfl⟩ := List.mem_map.1 hother
  obtain ⟨hdelivery, hfrom⟩ := List.mem_filter.1 hmem
  have howed := h.traced.held index session hsession delivery hdelivery
  have hdelivered : delivery.id = id := Option.some.inj (howed.identified.symm.trans hsame)
  obtain ⟨held, hheld, hheldId⟩ := howed.origin
  obtain ⟨original, horiginal, horiginalId⟩ := h.traced.next found hnext
  -- The message and the delivery were accepted under one identifier, so for one destination.
  have hentry := List.inj_on_of_nodup_map hnumbered.nodup horiginal hheld
    (by rw [horiginalId, hid, hheldId, hdelivered])
  have hdestination : consumer.destination = .queue name :=
    (congrArg Prod.fst hentry).trans (by simpa using hfrom)
  obtain ⟨hnone, -⟩ := h.alone_of_next hnumbered found hdestination hnext hid
  have hcounted := broker.contents.countP_held_le id hsession
  have hpos : 0 < session.held.countP (·.id = id) :=
    List.countP_pos_iff.2 ⟨delivery, hdelivery, by simpa using hdelivered⟩
  omega

end Taking

/-! ## Every run -/

/-- A session after an operation that does not touch it is as it was, or new. -/
theorem session_of_touched?_ne (now : Int64) {operation : Operation}
    (h : broker.touched? operation ≠ some index) {session : Session}
    (found : (broker.operate now operation).sessions[index]? = some session) :
    broker.sessions[index]? = some session ∨
      broker.sessions.length ≤ index ∧ session.held = [] := by
  obtain ⟨through, hthrough, hstep⟩ := broker.operate_step now operation
  cases hbefore : broker.sessions[index]? with
  | none =>
    have habsent := List.getElem?_eq_none_iff.1 hbefore
    exact .inr ⟨habsent, (hstep.session_of_absent index).2 habsent session found⟩
  | some old =>
    have hkept := hstep.sessions_of_ne (fun he => h (hthrough index he)) hbefore
    exact .inl (hkept.symm.trans found)

/-- What a broker holds of a queue for a session, by its position, agrees with what the session
received and acknowledged. -/
structure Recalls (broker : Broker) (name : String) (index : Nat) (received : List Message)
    (settled : List MessageId) : Prop where
  absent : broker.sessions.length ≤ index → received = [] ∧ settled = []
  logged : ∀ session, broker.sessions[index]? = some session → session.mode = .client →
    ∀ id ∈ settled, id ∈ broker.acknowledged
  held : ∀ session, broker.sessions[index]? = some session → session.mode = .client →
    session.closed = false → messagesFrom name session.held = unsettled received settled

section Step

variable {received : List Message} {settledBefore : List MessageId}

/-- An operation that does not touch a session keeps the agreement. -/
theorem Recalls.operate_of_ne (h : broker.Recalls name index received settledBefore) (now : Int64)
    {operation : Operation} (untouched : broker.touched? operation ≠ some index) :
    (broker.operate now operation).Recalls name index received settledBefore := by
  obtain ⟨through, -, hstep⟩ := broker.operate_step now operation
  obtain ⟨hlength, -⟩ := hstep.session_of_absent index
  have hacknowledged : broker.acknowledged ⊆ (broker.operate now operation).acknowledged := by
    intro id hid
    have hle := hstep.count_acknowledged_le id
    exact List.count_pos_iff.1 (Nat.lt_of_lt_of_le (List.count_pos_iff.2 hid) hle)
  refine ⟨fun habsent => h.absent (Nat.le_trans hlength habsent), ?_, ?_⟩
  · intro session hsession hclient id hid
    rcases session_of_touched?_ne now untouched hsession with hold | ⟨habsent, -⟩
    · exact hacknowledged (h.logged session hold hclient id hid)
    · rw [(h.absent habsent).2] at hid
      cases hid
  · intro session hsession hclient hopen
    rcases session_of_touched?_ne now untouched hsession with hold | ⟨habsent, hempty⟩
    · exact h.held session hold hclient hopen
    · rw [(h.absent habsent).1, hempty]
      rfl

/-- The agreement after an operation that changes the session itself. -/
theorem Recalls.of_set {after : Broker} {session changed : Session}
    (found : broker.sessions[index]? = some session)
    (sessions : after.sessions = broker.sessions.set index changed)
    (mode : changed.mode = session.mode)
    (logged : session.mode = .client → ∀ id ∈ settledBefore, id ∈ after.acknowledged)
    (held : session.mode = .client → changed.closed = false →
      messagesFrom name changed.held = unsettled received settledBefore) :
    after.Recalls name index received settledBefore := by
  have hlt := (List.getElem?_eq_some_iff.1 found).1
  have hchanged : after.sessions[index]? = some changed := by
    rw [sessions, List.getElem?_set_self hlt]
  have hlength : after.sessions.length = broker.sessions.length := by
    rw [sessions, List.length_set]
  refine ⟨fun habsent => absurd hlt (by omega), fun other hother hclient => ?_,
    fun other hother hclient hopen => ?_⟩
  · obtain rfl := Option.some.inj (hchanged.symm.trans hother)
    exact logged (mode ▸ hclient)
  · obtain rfl := Option.some.inj (hchanged.symm.trans hother)
    exact held (mode ▸ hclient) hopen

/-- An acknowledgment through a session takes its message out of what is outstanding. -/
theorem Recalls.acknowledge (h : broker.Recalls name index received settledBefore)
    {departed : List Departure} (traced : broker.contents.Traced departed) {handle : SessionHandle}
    (through : handle.index = index) (id : MessageId) :
    (broker.acknowledge handle id).2.Recalls name index received
      (settledBefore ++ broker.settled index (.request (.acknowledge handle id))) := by
  subst through
  cases hanswer : (broker.acknowledge handle id).1 with
  | error error =>
    have hrefused : (broker.perform 0 (.acknowledge handle id)).1 = .error error := hanswer
    have hsame : (broker.acknowledge handle id).2 = broker := perform_of_refused hrefused
    simp only [settled, hanswer, hsame, List.append_nil]
    exact h
  | ok =>
    simp only [settled, hanswer, if_true]
    have hgranted : broker.perform 0 (.acknowledge handle id) =
        (.ok (), (broker.acknowledge handle id).2) := Prod.ext hanswer rfl
    obtain ⟨session, hfound, hopen, hauto⟩ := exists_session_of_acknowledge hgranted
    cases hmode : session.mode with
    | auto =>
      -- Nothing is said of a session in auto mode.
      rw [hauto hmode]
      exact .of_set hfound (set_eq_self hfound).symm rfl (by simp [hmode]) (by simp [hmode])
    | client =>
      obtain ⟨-, hcontents⟩ := contents_of_acknowledge hgranted hfound hmode
      have hlog : (broker.acknowledge handle id).2.acknowledged = broker.acknowledged ++ [id] :=
        congrArg Contents.acknowledged hcontents
      refine .of_set hfound (congrArg Contents.sessions hcontents) rfl ?_ ?_
      · intro hclient other hother
        rw [hlog]
        rcases List.mem_append.1 hother with hold | hnew
        · exact List.mem_append_left _ (h.logged session hfound hclient other hold)
        · exact List.mem_append_right _ hnew
      · intro hclient _
        rw [messagesFrom_filter name id (Roll.identified_of_held traced hfound),
          h.held session hfound hclient hopen, unsettled_acknowledge]

/-- A session that is closed owes no agreement any more. -/
theorem Recalls.closeSession (h : broker.Recalls name index received settledBefore)
    {handle : SessionHandle} (through : handle.index = index) :
    (broker.closeSession handle).2.Recalls name index received settledBefore := by
  subst through
  cases hanswer : (broker.closeSession handle).1 with
  | error error =>
    have hrefused : (broker.perform 0 (.closeSession handle)).1 = .error error := hanswer
    have hsame : (broker.closeSession handle).2 = broker := perform_of_refused hrefused
    rw [hsame]
    exact h
  | ok =>
    have hgranted : broker.perform 0 (.closeSession handle) =
        (.ok (), (broker.closeSession handle).2) := Prod.ext hanswer rfl
    obtain ⟨session, hfound, -⟩ := exists_session_of_closeSession hgranted
    have hcontents := contents_of_closeSession hgranted hfound
    have hlog : (broker.closeSession handle).2.acknowledged = broker.acknowledged :=
      congrArg Contents.acknowledged hcontents
    refine .of_set hfound (congrArg Contents.sessions hcontents) rfl ?_ (by simp)
    rw [hlog]
    exact h.logged session hfound

/-- A message that a session receives from a queue is the last that is outstanding, and one that it
receives from elsewhere changes nothing of what is outstanding. -/
theorem Recalls.receive (h : broker.Recalls name index received settledBefore)
    {departed : List Departure} {given : List MessageId} (hconserved : broker.Conserved departed)
    (hnumbered : broker.Numbered given) (hsound : broker.contents.Sound) (now : Int64)
    {handle : ConsumerHandle} {consumer : Consumer} {session : Session}
    (hr : broker.receiver? handle = some (consumer, session)) (through : consumer.session = index) :
    (broker.receive now handle).2.Recalls name index
      (received ++ receivedFrom name index (broker.departures now (.request (.receive handle))))
      settledBefore := by
  subst through
  obtain ⟨hconsumer, -, hsession, hopen⟩ := receiver?_eq_some hr
  have hcontents := contents_receive now hr
  have hacknowledged : (broker.receive now handle).2.acknowledged = broker.acknowledged := by
    have hkept := congrArg Contents.acknowledged hcontents
    rwa [Contents.acknowledged_keep, Contents.acknowledged_withoutTaken] at hkept
  have hlogged : session.mode = .client →
      ∀ id ∈ settledBefore, id ∈ (broker.receive now handle).2.acknowledged := by
    rw [hacknowledged]
    exact h.logged session hsession
  have hsessions : (broker.receive now handle).2.sessions =
      ((broker.contents.withoutTaken now handle.index consumer).keep consumer session
        (broker.contents.next? now consumer)).sessions := congrArg Contents.sessions hcontents
  rw [departures_receive hr, receivedFrom_departing]
  cases hnext : broker.contents.next? now consumer with
  | none =>
    rw [hnext, Contents.keep, Contents.sessions_withoutTaken] at hsessions
    rw [Option.toList_none, ite_self, List.append_nil]
    exact .of_set hsession (hsessions.trans (set_eq_self hsession).symm) rfl hlogged
      (h.held session hsession)
  | some message =>
    obtain ⟨original, horiginal, hsame⟩ := hconserved.traced.next hconsumer hnext
    obtain ⟨id, hid⟩ := Option.isSome_iff_exists.1 (hsame ▸ hsound.identified _ horiginal)
    rw [hnext] at hsessions
    cases hmode : session.mode with
    | auto =>
      rw [Contents.keep, hmode, Contents.sessions_withoutTaken] at hsessions
      exact .of_set hsession (hsessions.trans (set_eq_self hsession).symm) rfl
        (by simp [hmode]) (by simp [hmode])
    | client =>
      simp only [Contents.keep, hmode, hid, Contents.hold, Contents.sessions_withoutTaken]
        at hsessions
      refine .of_set hsession hsessions hmode.symm hlogged fun hclient _ => ?_
      -- The message waited, so no session held it and it was never acknowledged.
      have hothers : ∀ other ∈ messagesFrom name session.held, other.id ≠ some id :=
        hconserved.id_ne_of_next hnumbered hconsumer hnext hid hsession
      rw [messagesFrom_append,
        messagesFrom_filter name id (Roll.identified_of_held hconserved.traced hsession),
        List.filter_eq_self.2 fun other hother => by simpa using hothers other hother,
        h.held session hsession hclient hopen]
      by_cases hdestination : consumer.destination = .queue name
      · have hfresh : ∀ other ∈ settledBefore, message.id ≠ some other := by
          rintro other hother he
          obtain rfl := Option.some.inj (hid.symm.trans he)
          obtain ⟨-, hcount⟩ := hconserved.alone_of_next hnumbered hconsumer hdestination hnext hid
          exact List.count_eq_zero.1 hcount (h.logged session hsession hclient id hother)
        rw [if_pos ⟨rfl, hdestination⟩, Option.toList_some, unsettled_receive _ hfresh]
        simp [messagesFrom, hdestination]
      · rw [if_neg fun he => hdestination he.2, List.append_nil]
        simp [messagesFrom, hdestination]

/-- An operation keeps the agreement. -/
theorem Recalls.operate (h : broker.Recalls name index received settledBefore)
    {departed : List Departure} {given : List MessageId} (hconserved : broker.Conserved departed)
    (hnumbered : broker.Numbered given) (hsound : broker.contents.Sound) (now : Int64)
    (operation : Operation) :
    (broker.operate now operation).Recalls name index
      (received ++ receivedFrom name index (broker.departures now operation))
      (settledBefore ++ broker.settled index operation) := by
  by_cases htouched : broker.touched? operation = some index
  · unfold touched? at htouched
    split at htouched
    · rename_i handle id
      rw [show broker.departures now (.request (.acknowledge handle id)) = [] from rfl,
        receivedFrom, List.filterMap_nil, List.append_nil]
      exact h.acknowledge hconserved.traced (Option.some.inj htouched) id
    · rename_i handle
      rw [show broker.departures now (.request (.closeSession handle)) = [] from rfl,
        show broker.settled index (.request (.closeSession handle)) = [] from rfl, receivedFrom,
        List.filterMap_nil, List.append_nil, List.append_nil]
      exact h.closeSession (Option.some.inj htouched)
    · rename_i handle
      rw [show broker.settled index (.request (.receive handle)) = [] from rfl, List.append_nil]
      cases hr : broker.receiver? handle with
      | none =>
        have hsame : broker.operate now (.request (.receive handle)) = broker :=
          (receive_of_receiver?_eq_none now hr).1
        simp only [departures_receive_of_none hr, receivedFrom, List.filterMap_nil, List.append_nil,
          hsame]
        exact h
      | some pair =>
        obtain ⟨consumer, session⟩ := pair
        rw [(receiver?_eq_some hr).1, Option.map_some] at htouched
        exact h.receive hconserved hnumbered hsound now hr (Option.some.inj htouched)
    · cases htouched
  · obtain ⟨hreceived, hsettled⟩ := quiet_of_touched?_ne now name htouched
    rw [hreceived, hsettled, List.append_nil, List.append_nil]
    exact h.operate_of_ne now htouched

end Step

/-- After every run with distinct identifiers, what the broker holds of a queue for a session agrees
with what the session received and acknowledged. -/
theorem recalls_after (credentials : Option Credentials) (operations : List (Int64 × Operation))
    (distinct : DistinctIds operations (after credentials operations).messageCount) (name : String)
    (index : Nat) :
    (after credentials operations).Recalls name index
      (receivedFrom name index (departedAfter credentials operations))
      (settledAfter credentials operations index) := by
  induction operations using List.reverseRecOn with
  | nil =>
    exact ⟨fun _ => ⟨rfl, rfl⟩, by simp [after, operateAll], by simp [after, operateAll]⟩
  | append_singleton operations entry ih =>
    obtain ⟨now, operation⟩ := entry
    rw [after_append, operateAll_singleton] at distinct ⊢
    rw [departedAfter_append, departed_singleton, receivedFrom_append, settledAfter_concat]
    obtain ⟨hnumbered, hconserved⟩ := conserved_after credentials operations distinct.init
    exact (ih distinct.init).operate hconserved hnumbered (sound_after credentials operations) now
      operation

/-! ## Closing -/

/-- A session that was closed stays closed and holds nothing, whatever happens later. -/
theorem closed_after (credentials : Option Credentials)
    (operations later : List (Int64 × Operation)) {now : Int64} {handle : SessionHandle}
    (granted : ((after credentials operations).perform now (.closeSession handle)).1 = .ok ()) :
    ∃ session, (after credentials
        (operations ++ (now, .request (.closeSession handle)) :: later)).sessions[handle.index]? =
          some session ∧ session.closed = true ∧ session.held = [] := by
  have hclosed : (.session, handle.index) ∈ closedAfter credentials
      (operations ++ (now, .request (.closeSession handle)) :: later) := by
    rw [closedAfter_append]
    refine List.mem_append_right _ ?_
    simp [closures, closure?, granted, BrokerRequest.closes?]
  have hflag := ((accounts_after credentials _).closed _).2 hclosed
  simp only [Register.closed?, register, List.getElem?_map, Option.map_eq_some_iff] at hflag
  obtain ⟨session, hsession, hflag⟩ := hflag
  exact ⟨session, hsession, hflag,
    vacated_after credentials _ session (List.mem_of_getElem? hsession) hflag⟩

/-- A session that is closed with success was open. -/
theorem isOpen_of_closeSession {now : Int64} {handle : SessionHandle} {session : Session}
    (found : broker.sessions[handle.index]? = some session)
    (granted : (broker.perform now (.closeSession handle)).1 = .ok ()) :
    session.closed = false := by
  obtain ⟨other, hfound, hopen⟩ := exists_session_of_closeSession (Prod.ext granted rfl)
  obtain rfl := Option.some.inj (hfound.symm.trans found)
  exact hopen

/-- A closed session acknowledges nothing. -/
theorem refuses_acknowledge_of_closed {handle : SessionHandle} {session : Session}
    (found : broker.sessions[handle.index]? = some session) (closed : session.closed = true)
    (now : Int64) (id : MessageId) :
    broker.perform now (.acknowledge handle id) = (.error (.alreadyClosed .session), broker) := by
  simp only [perform, acknowledge, openSession?, found, closed, if_true]
  rfl

/-- A consumer of a closed session receives nothing. What it is told depends on whether it is closed
itself. -/
theorem refuses_receive_of_closed {session : Session}
    (found : broker.sessions[index]? = some session) (closed : session.closed = true)
    {handle : ConsumerHandle} {consumer : Consumer}
    (bound : broker.consumers[handle.index]? = some consumer) (through : consumer.session = index)
    (now : Int64) :
    broker.perform now (.receive handle) =
      (.error (.alreadyClosed (if consumer.closed then .consumer else .session)), broker) := by
  cases hflag : consumer.closed with
  | true =>
    simp only [perform, receive, openConsumer?, bound, hflag, if_true]
    rfl
  | false =>
    simp only [perform, receive, openConsumer?, openSession?, bound, hflag, through, found, closed,
      if_true, Bool.false_eq_true, if_false]
    rfl

/-- A session that is closed gives every queue back what it received from it and did not
acknowledge, in the order of receipt and flagged as redelivered, in front of what waits there. What
it received from the queue is what the receives of its consumers of the queue were answered with.
Nothing changes on a queue of which nothing is outstanding, nor in the buffers of topics, the logs
of what was accepted and acknowledged, and what other sessions hold. From then on, whatever happens,
the session holds nothing, and its acknowledgments and the receives of its consumers are refused
because it is closed, and change nothing. -/
theorem close_gives_back_in_order (credentials : Option Credentials)
    (operations : List (Int64 × Operation))
    (distinct : DistinctIds operations (after credentials operations).messageCount) {now : Int64}
    {handle : SessionHandle} {session : Session} {closed : Broker}
    (found : (after credentials operations).sessions[handle.index]? = some session)
    (client : session.mode = .client)
    (granted : (after credentials operations).perform now (.closeSession handle) =
      (.ok (), closed)) :
    let broker := after credentials operations
    let returned := outstanding credentials operations handle.index
    (∀ name, messagesFrom name session.held = returned name ∧
      closed.queue name =
        (returned name).map (fun message => { message with redelivered := true }) ++
          broker.queue name ∧
      (returned name = [] → closed.queue name = broker.queue name) ∧
      receivedFrom name handle.index (departedAfter credentials operations) =
        ((handoversAfter credentials operations).filter fun handover =>
          handover.session = handle.index ∧ handover.destination = .queue name).map
            (·.message)) ∧
    closed.consumers = broker.consumers ∧ closed.accepted = broker.accepted ∧
    closed.acknowledged = broker.acknowledged ∧
    (∀ index, index ≠ handle.index → closed.sessions[index]? = broker.sessions[index]?) ∧
    ∀ later : List (Int64 × Operation),
      (∃ vacated, (closed.operateAll later).sessions[handle.index]? = some vacated ∧
        vacated.closed = true ∧ vacated.held = []) ∧
      (∀ moment id, (closed.operateAll later).perform moment (.acknowledge handle id) =
        (.error (.alreadyClosed .session), closed.operateAll later)) ∧
      ∀ (moment : Int64) (receiver : ConsumerHandle) (consumer : Consumer),
        (closed.operateAll later).consumers[receiver.index]? = some consumer →
        consumer.session = handle.index →
        (closed.operateAll later).perform moment (.receive receiver) =
          (.error (.alreadyClosed (if consumer.closed then .consumer else .session)),
            closed.operateAll later) := by
  intro broker returned
  have hgranted : (broker.perform now (.closeSession handle)).1 = .ok () :=
    congrArg Prod.fst granted
  have hopen : session.closed = false := isOpen_of_closeSession found hgranted
  have hheld : ∀ name, messagesFrom name session.held = returned name := by
    intro name
    have hrecalls := recalls_after credentials operations distinct name handle.index
    exact hrecalls.held session found client hopen
  have hcontents := contents_of_closeSession granted found
  have hqueue : ∀ name, closed.queue name =
      (returned name).map (fun message => { message with redelivered := true }) ++
        broker.queue name := by
    intro name
    have hwaiting : closed.waiting = session.held.filterMap Delivery.requeued ++ broker.waiting :=
      congrArg Contents.waiting hcontents
    rw [queue, hwaiting, List.filter_append, List.map_append, requeued_on, hheld]
    rfl
  refine ⟨fun name => ⟨hheld name, hqueue name, fun hnone => ?_,
      receivedFrom_departedAfter credentials operations handle.index name⟩,
    congrArg Contents.consumers hcontents, congrArg Contents.accepted hcontents,
    congrArg Contents.acknowledged hcontents, fun index hne => ?_, fun later => ?_⟩
  · rw [hqueue name, hnone, List.map_nil, List.nil_append]
  · have hsessions : closed.sessions = _ := congrArg Contents.sessions hcontents
    rw [hsessions, List.getElem?_set_ne (Ne.symm hne)]
  · have hrun : after credentials (operations ++ (now, .request (.closeSession handle)) :: later) =
        closed.operateAll later := by
      rw [after_append, operateAll, operate, granted]
    obtain ⟨vacated, hvacated, hclosed, hempty⟩ :=
      closed_after credentials operations later hgranted
    rw [hrun] at hvacated
    exact ⟨⟨vacated, hvacated, hclosed, hempty⟩,
      fun moment id => refuses_acknowledge_of_closed hvacated hclosed moment id,
      fun moment receiver consumer hconsumer hsession =>
        refuses_receive_of_closed hvacated hclosed hconsumer hsession moment⟩

/-- A session with a consumer on each of two queues and on a topic receives from them in turns, and
acknowledges the second of three messages of the first queue, where another one waits. -/
def returningRun : List (Int64 × Operation) :=
  let message (id : String) : Message := { id := some ⟨id⟩, body := .text id }
  let session : SessionHandle := ⟨0, "session-1-2", .client⟩
  [(1, .publish (.queue "orders") (message "A")),
   (2, .publish (.queue "orders") (message "B")),
   (3, .publish (.queue "bills") (message "X")),
   (4, .request (.connect none)),
   (5, .request (.startConnection ⟨0⟩)),
   (6, .request (.createSession ⟨0⟩ .client)),
   (7, .request (.createConsumer session (.queue "orders"))),
   (8, .request (.createConsumer session (.queue "bills"))),
   (9, .request (.createConsumer session (.topic "news"))),
   (10, .publish (.topic "news") (message "T")),
   (11, .publish (.queue "orders") (message "C")),
   (12, .publish (.queue "orders") (message "D")),
   (13, .request (.receive ⟨0⟩)),
   (14, .request (.receive ⟨1⟩)),
   (15, .request (.receive ⟨0⟩)),
   (16, .request (.receive ⟨2⟩)),
   (17, .request (.receive ⟨0⟩)),
   (18, .request (.acknowledge session ⟨"B"⟩))]

/-- The identifiers of the run are distinct. -/
theorem distinctIds_returningRun :
    DistinctIds returningRun (after none returningRun).messageCount := by
  have hcount : (after none returningRun).messageCount = 0 := by decide +kernel
  rw [hcount]
  exact ⟨by decide +kernel, fun id _ number hpos hle => absurd hpos (by omega)⟩

/-- The first queue is back in order without the acknowledged message, the second one too, and the
session acknowledges nothing any more. -/
theorem close_gives_back_in_order_returningRun :
    let broker := after none returningRun
    let handle : SessionHandle := ⟨0, "session-1-2", .client⟩
    let closed := (broker.perform 19 (.closeSession handle)).2
    DistinctIds returningRun broker.messageCount ∧
      broker.perform 19 (.closeSession handle) = (.ok (), closed) ∧
      closed.queue "orders" = (outstanding none returningRun 0 "orders").map
        (fun message => { message with redelivered := true }) ++ broker.queue "orders" ∧
      (closed.queue "orders").map (·.id) = [some ⟨"A"⟩, some ⟨"C"⟩, some ⟨"D"⟩] ∧
      (closed.queue "bills").map (·.id) = [some ⟨"X"⟩] ∧
      closed.perform 20 (.acknowledge handle ⟨"A"⟩) =
        (.error (.alreadyClosed .session), closed) := by
  intro broker handle closed
  have hgranted : (broker.perform 19 (.closeSession handle)).1 = .ok () := by decide +kernel
  have hresult : broker.perform 19 (.closeSession handle) = (.ok (), closed) :=
    Prod.ext hgranted rfl
  obtain ⟨session, hsession, hclient⟩ : ∃ session, broker.sessions[0]? = some session ∧
      session.mode = .client := by
    have hmode : (broker.sessions[0]?.map (·.mode)) = some .client := by decide +kernel
    exact Option.map_eq_some_iff.1 hmode
  obtain ⟨hqueues, -, -, -, -, hlater⟩ :=
    close_gives_back_in_order none returningRun distinctIds_returningRun hsession hclient hresult
  exact ⟨distinctIds_returningRun, hresult, (hqueues "orders").2.1, by decide +kernel, by decide +kernel,
    (hlater []).2.1 20 ⟨"A"⟩⟩

end Broker

end BrokerConnector
