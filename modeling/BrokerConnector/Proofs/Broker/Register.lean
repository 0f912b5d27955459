import BrokerConnector.Proofs.Broker.Subscriptions
import BrokerConnector.Proofs.Order
import Mathlib.Logic.Function.Basic

/-!
# Resources that are closed

What clients open at a broker stays in the list of its kind, open or closed. `Broker.register` tells
of each resource whether it is closed, and logs the releases. An operation changes the register in
one of three ways, the steps of `Register.Step`: nothing happens to it, a resource is opened, or one
that is open is closed and its release logged. So a closed resource stays closed, is closed once, and
is counted once (`Register.Accounts`).

A connection that is closed is not started any more, and every consumer of its sessions is silent
from then on (`Broker.silent_of_closed`). What the sessions hold stays with them until they are
closed themselves.
-/

namespace BrokerConnector

/-- A resource of a broker, by its kind and its position in the list of its kind. -/
abbrev Slot := ResourceKind × Nat

/-- The resource that a request is to close. -/
def BrokerRequest.closes? : BrokerRequest → Option Slot
  | .closeConnection connection => some (.connection, connection.index)
  | .closeSession session => some (.session, session.index)
  | .closeConsumer consumer => some (.consumer, consumer.index)
  | .closeProducer producer => some (.producer, producer.index)
  | _ => none

/-- Which resources of a broker are closed, and what was released so far. -/
@[ext]
structure Register where
  closed : ResourceKind → List Bool
  releases : List ResourceKind

namespace Register

/-- The register with one more resource, which is open. -/
def opening (register : Register) (kind : ResourceKind) : Register :=
  { register with
    closed := Function.update register.closed kind (register.closed kind ++ [false]) }

/-- The register with a resource closed and released. -/
def closing (register : Register) (slot : Slot) : Register where
  closed :=
    Function.update register.closed slot.1 ((register.closed slot.1).set slot.2 true)
  releases := register.releases ++ [slot.1]

/-- Whether a resource is closed, if there is one at a slot. -/
def closed? (register : Register) (slot : Slot) : Option Bool :=
  (register.closed slot.1)[slot.2]?

/-- How an operation changes a register: with which resource closed, if with any. -/
inductive Step (before : Register) : Option Slot → Register → Prop where
  | still : Step before none before
  | opened (kind : ResourceKind) : Step before none (before.opening kind)
  | closed (slot : Slot) (isOpen : before.closed? slot = some false) :
    Step before (some slot) (before.closing slot)

/-- What leaves the register as it was is a step. -/
theorem Step.of_eq {before after : Register} (h : after = before) : before.Step none after := by
  rw [h]
  exact .still

/-- One more resource that is open is a step. -/
theorem Step.of_opened {before after : Register} (kind : ResourceKind)
    (closed : ∀ other, after.closed other =
      if other = kind then before.closed other ++ [false] else before.closed other)
    (releases : after.releases = before.releases) : before.Step none after := by
  have hafter : after = before.opening kind := by
    refine Register.ext (funext fun other => (closed other).trans ?_) releases
    simp only [opening, Function.update_apply]
    split
    · rename_i he
      rw [he]
    · rfl
  rw [hafter]
  exact .opened kind

/-- A resource that was open and is closed and released is a step. -/
theorem Step.of_closed {before after : Register} {kind : ResourceKind} {index : Nat}
    (isOpen : before.closed? (kind, index) = some false)
    (closed : ∀ other, after.closed other =
      if other = kind then (before.closed other).set index true else before.closed other)
    (releases : after.releases = before.releases ++ [kind]) :
    before.Step (some (kind, index)) after := by
  have hafter : after = before.closing (kind, index) := by
    refine Register.ext (funext fun other => (closed other).trans ?_) releases
    simp only [closing, Function.update_apply]
    split
    · rename_i he
      rw [he]
    · rfl
  rw [hafter]
  exact .closed _ isOpen

@[simp]
theorem closed?_opening (register : Register) (kind : ResourceKind) (slot : Slot) :
    (register.opening kind).closed? slot =
      if slot = (kind, (register.closed kind).length) then some false
      else register.closed? slot := by
  obtain ⟨other, index⟩ := slot
  by_cases hkind : other = kind
  · subst hkind
    simp only [closed?, opening, Function.update_self, Prod.mk.injEq, true_and]
    split
    · rename_i hindex
      rw [hindex, List.getElem?_concat_length]
    · rename_i hindex
      rcases Nat.lt_or_gt_of_ne hindex with hlt | hgt
      · exact List.getElem?_append_left hlt
      · rw [List.getElem?_eq_none (by simp; omega), List.getElem?_eq_none (by omega)]
  · simp [closed?, opening, hkind]

@[simp]
theorem closed?_closing {register : Register} {closing : Slot}
    (isOpen : register.closed? closing = some false) (slot : Slot) :
    (register.closing closing).closed? slot =
      if slot = closing then some true else register.closed? slot := by
  obtain ⟨kind, index⟩ := closing
  obtain ⟨other, index'⟩ := slot
  have hlt : index < (register.closed kind).length := (List.getElem?_eq_some_iff.1 isOpen).1
  by_cases hkind : other = kind
  · subst hkind
    simp only [closed?, Register.closing, Function.update_self, List.getElem?_set, Prod.mk.injEq,
      true_and, eq_comm (a := index)]
    split
    · simp
    · rfl
  · simp [closed?, Register.closing, hkind]

end Register

/-! ## The register of a broker -/

namespace Broker

/-- Which resources of a broker are closed, and its log of releases. -/
def register (broker : Broker) : Register where
  closed
    | .connection => broker.connections.map (·.closed)
    | .session => broker.sessions.map (·.closed)
    | .consumer => broker.consumers.map (·.closed)
    | .producer => broker.producers.map (·.closed)
  releases := broker.releases

/-- The resource that an operation closes. -/
def closure? (broker : Broker) (now : Int64) : Operation → Option Slot
  | .request request =>
    match (broker.perform now request).1 with
    | .ok _ => request.closes?
    | .error _ => none
  | _ => none

/-- The resources that operations close, in order. -/
def closures (broker : Broker) : List (Int64 × Operation) → List Slot
  | [] => []
  | (now, operation) :: rest =>
    (broker.closure? now operation).toList ++ (broker.operate now operation).closures rest

/-- The resources whose close succeeded since a broker was opened. -/
def closedAfter (credentials : Option Credentials) (operations : List (Int64 × Operation)) :
    List Slot :=
  closures { credentials := credentials } operations

theorem closures_append (broker : Broker) (first second : List (Int64 × Operation)) :
    broker.closures (first ++ second) =
      broker.closures first ++ (broker.operateAll first).closures second := by
  induction first generalizing broker with
  | nil => rfl
  | cons entry rest ih =>
    obtain ⟨now, operation⟩ := entry
    rw [List.cons_append, closures, ih, closures, List.append_assoc]
    rfl

theorem closedAfter_append (credentials : Option Credentials)
    (first second : List (Int64 × Operation)) :
    closedAfter credentials (first ++ second) =
      closedAfter credentials first ++ (after credentials first).closures second :=
  closures_append _ first second

/-- Replacing an entry by one that looks the same changes nothing of what is seen. -/
theorem map_set_of_same {α β : Type} (view : α → β) {list : List α} {index : Nat} {old new : α}
    (found : list[index]? = some old) (same : view new = view old) :
    (list.set index new).map view = list.map view := by
  rw [List.map_set, same]
  refine List.ext_getElem? fun other => ?_
  rw [List.getElem?_set]
  split
  · rename_i he
    subst he
    obtain ⟨hlt, rfl⟩ := List.getElem?_eq_some_iff.1 found
    simp [hlt]
  · rfl

/-- What is delivered is in no register. -/
theorem register_deliver (broker : Broker) (destination : Destination) (message : Message) :
    (broker.deliver destination message).register = broker.register := by
  cases destination with
  | queue name => rfl
  | topic name =>
    refine Register.ext (funext fun kind => ?_) rfl
    cases kind with
    | consumer =>
      simp only [deliver, register, List.map_map]
      refine List.map_congr_left fun consumer _ => ?_
      simp only [Function.comp]
      split <;> rfl
    | _ => rfl

/-- A session that holds one more delivery is as open as before. -/
theorem register_hold {broker : Broker} {index : Nat} {session : Session}
    (found : broker.sessions[index]? = some session) (delivery : Delivery) :
    (broker.hold index session delivery).register = broker.register := by
  refine Register.ext (funext fun kind => ?_) rfl
  cases kind with
  | session => exact map_set_of_same _ found rfl
  | _ => rfl

/-- A consumer that takes a message is as open as before. -/
theorem register_take {broker : Broker} {index : Nat} {consumer : Consumer}
    (found : broker.consumers[index]? = some consumer) (now : Int64) :
    (broker.take now index consumer).2.register = broker.register := by
  unfold take
  cases consumer.destination with
  | queue name => rfl
  | topic name =>
    refine Register.ext (funext fun kind => ?_) rfl
    cases kind with
    | consumer => exact map_set_of_same _ found rfl
    | _ => rfl

/-- A session that keeps what a consumer took is as open as before. -/
theorem register_keep {broker : Broker} {consumer : Consumer} {session : Session}
    (found : broker.sessions[consumer.session]? = some session) (next : Option Message) :
    (broker.keep consumer session next).register = broker.register := by
  rcases broker.keep_cases consumer session next with hkeep | ⟨delivery, hkeep⟩
  · rw [hkeep]
  · rw [hkeep, register_hold found]

/-- A request that is granted closes what it asks to close, and opens one resource or none. -/
theorem register_granted {broker after : Broker} {now : Int64} {request : BrokerRequest}
    {answer : request.Answer} (h : broker.Granted now request answer after) :
    broker.register.Step request.closes? after.register := by
  cases h with
  | connect => exact .of_opened .connection (fun kind => by cases kind <;> simp [register]) rfl
  | createSession => exact .of_opened .session (fun kind => by cases kind <;> simp [register]) rfl
  | createConsumer =>
    exact .of_opened .consumer (fun kind => by cases kind <;> simp [register]) rfl
  | createProducer =>
    exact .of_opened .producer (fun kind => by cases kind <;> simp [register]) rfl
  | closeConnection _ _ found isOpen | closeSession _ _ found isOpen | closeConsumer _ _ found isOpen
  | closeProducer _ _ found isOpen =>
    refine .of_closed ?_ (fun kind => ?_) rfl
    · simp [Register.closed?, register, found, isOpen]
    · cases kind <;> simp [register, List.map_set]
  | startConnection handle connection found | stopConnection handle connection found =>
    refine .of_eq (Register.ext (funext fun kind => ?_) rfl)
    cases kind with
    | connection => exact map_set_of_same _ found rfl
    | _ => rfl
  | acknowledge handle id session found =>
    refine .of_eq (Register.ext (funext fun kind => ?_) rfl)
    cases kind with
    | session => exact map_set_of_same _ found rfl
    | _ => rfl
  | receive handle consumer session receiver =>
    obtain ⟨hconsumer, -, hsession, -⟩ := receiver?_eq_some receiver
    refine .of_eq ((register_keep ?_ _).trans (register_take hconsumer now))
    rwa [sessions_take]
  | send => exact .of_eq (register_deliver _ _ _)
  | resolve | acknowledgeInAuto | receiveStopped | queueDepth => exact .still

/-- An operation changes the register in one of three ways. -/
theorem register_step (broker : Broker) (now : Int64) (operation : Operation) :
    broker.register.Step (broker.closure? now operation)
      (broker.operate now operation).register := by
  cases operation with
  | publish destination message =>
    refine .of_eq ?_
    simp only [operate, publish]
    split <;> exact register_deliver _ _ _
  | reject destination => exact .still
  | turn switch on =>
    cases switch <;> exact .still
  | request request =>
    simp only [closure?, operate]
    have hreplies := broker.perform_replies now request
    generalize broker.perform now request = reply at hreplies
    cases hreplies with
    | refused => exact .still
    | granted h => exact register_granted h

end Broker

/-! ## Closed once, and counted once -/

namespace Register

variable {before register : Register} {closures : List Slot}

/-- A register tells what was closed: each resource once, with as many releases. -/
structure Accounts (register : Register) (closures : List Slot) : Prop where
  nodup : closures.Nodup
  closed : ∀ slot, register.closed? slot = some true ↔ slot ∈ closures
  releases : register.releases = closures.map (·.1)

/-- A step goes on with the account. -/
theorem Accounts.step (h : before.Accounts closures) {closure : Option Slot}
    (hstep : before.Step closure register) : register.Accounts (closures ++ closure.toList) := by
  cases hstep with
  | still => simpa using h
  | opened kind =>
    rw [Option.toList_none, List.append_nil]
    refine ⟨h.nodup, fun slot => ?_, h.releases⟩
    rw [closed?_opening, ← h.closed]
    split
    · rename_i hslot
      simp [hslot, closed?]
    · rfl
  | closed slot isOpen =>
    -- The slot is open, so it is not among those that were closed.
    have hfresh : slot ∉ closures := by
      rw [← h.closed, isOpen]
      simp
    refine ⟨?_, fun other => ?_, ?_⟩
    · rw [Option.toList_some, ← List.concat_eq_append]
      exact h.nodup.concat hfresh
    · rw [closed?_closing isOpen, Option.toList_some, List.mem_append, List.mem_singleton,
        ← h.closed]
      split
      · simp [*]
      · simp [*]
    · simp [closing, h.releases]

/-- A step closes what was open. -/
theorem Step.isOpen {slot : Slot} (h : before.Step (some slot) register) :
    before.closed? slot = some false := by
  cases h
  assumption

/-- A resource that was open and is closed then was closed by the step. -/
theorem Step.closure_eq {closure : Option Slot} (h : before.Step closure register) {slot : Slot}
    (isOpen : before.closed? slot = some false) (isClosed : register.closed? slot = some true) :
    closure = some slot := by
  cases h with
  | still =>
    rw [isOpen] at isClosed
    cases isClosed
  | opened kind =>
    rw [closed?_opening, isOpen] at isClosed
    split at isClosed <;> cases isClosed
  | closed other isOpen' =>
    rw [closed?_closing isOpen', isOpen] at isClosed
    split at isClosed
    · rename_i he
      rw [he]
    · cases isClosed

end Register

namespace Broker

/-- What a broker tells of its resources since it was opened. -/
theorem accounts_after (credentials : Option Credentials) (operations : List (Int64 × Operation)) :
    (after credentials operations).register.Accounts (closedAfter credentials operations) := by
  -- The induction adds an operation at the end of the run.
  induction operations using List.reverseRecOn with
  | nil =>
    refine ⟨List.nodup_nil, ?_, rfl⟩
    rintro ⟨kind, index⟩
    cases kind <;> simp [after, operateAll, register, Register.closed?, closedAfter, closures]
  | append_singleton operations entry ih =>
    obtain ⟨now, operation⟩ := entry
    rw [after_append, operateAll_singleton, closedAfter_append, closures, closures,
      List.append_nil]
    exact ih.step (register_step _ now operation)

/-- A broker that was asked to close what is closed refuses, and is as it was. -/
theorem refuses_of_closed {broker : Broker} {request : BrokerRequest} {slot : Slot}
    (hcloses : request.closes? = some slot) (hclosed : broker.register.closed? slot = some true)
    (now : Int64) :
    ∃ error, broker.perform now request = (.error error, broker) ∧
      (error = .alreadyClosed slot.1 ∨ slot.1 = .session ∧ broker.failingSessionClose = true) := by
  cases request with
  | closeConnection handle | closeConsumer handle | closeProducer handle =>
    obtain rfl := Option.some.inj hcloses
    simp only [Register.closed?, register, List.getElem?_map, Option.map_eq_some_iff] at hclosed
    obtain ⟨found, hfound, hflag⟩ := hclosed
    refine ⟨_, ?_, .inl rfl⟩
    simp only [perform, closeConnection, closeConsumer, closeProducer, openConnection?,
      openConsumer?, openProducer?, hfound, hflag, if_true]
    rfl
  | closeSession handle =>
    obtain rfl := Option.some.inj hcloses
    by_cases hfailing : broker.failingSessionClose = true
    · exact ⟨_, by simp only [perform, closeSession, if_pos hfailing]; rfl, .inr ⟨rfl, hfailing⟩⟩
    · simp only [Register.closed?, register, List.getElem?_map, Option.map_eq_some_iff] at hclosed
      obtain ⟨found, hfound, hflag⟩ := hclosed
      refine ⟨_, ?_, .inl rfl⟩
      simp only [perform, closeSession, if_neg hfailing, openSession?, hfound, hflag, if_true]
      rfl
  | _ => cases hcloses

/-! ## Silence -/

/-- No connection of a broker that is closed is started. -/
def Halted (broker : Broker) : Prop :=
  ∀ connection ∈ broker.connections, connection.closed = true → connection.started = false

/-- An operation starts no connection that is closed. -/
theorem halted_operate {broker : Broker} (h : broker.Halted) (now : Int64)
    (operation : Operation) : (broker.operate now operation).Halted := by
  have hsame : ∀ {later : Broker}, later.books.connections = broker.connections →
      later.Halted := by
    intro later he connection hconnection
    exact h connection (he ▸ hconnection)
  have hset : ∀ {later : Broker} {index : Nat} {changed : Connection},
      later.connections = broker.connections.set index changed →
      (changed.closed = true → changed.started = false) → later.Halted := by
    intro later index changed he hchanged connection hconnection
    rw [he] at hconnection
    rcases List.mem_or_eq_of_mem_set hconnection with hold | rfl
    · exact h connection hold
    · exact hchanged
  cases operation with
  | publish destination message =>
    refine hsame ?_
    simp only [operate, publish]
    split <;> rw [books_deliver] <;> rfl
  | reject destination => exact h
  | turn switch on =>
    cases switch <;> exact h
  | request request =>
    rw [operate]
    refine perform_snd h ?_
    intro _ _ hgranted
    cases hgranted with
    | connect =>
      intro connection hconnection
      rcases List.mem_append.1 hconnection with hold | hnew
      · exact h connection hold
      · obtain rfl := List.mem_singleton.1 hnew
        simp
    | startConnection _ _ _ isOpen | stopConnection _ _ _ isOpen =>
      exact hset rfl (by simp [isOpen])
    | closeConnection => exact hset rfl fun _ => rfl
    | send =>
      refine hsame ?_
      rw [books_deliver]
      rfl
    | receive =>
      refine hsame ?_
      rw [books_keep, books_take]
      rfl
    | _ => exact h

/-- No connection of a broker that was opened is closed and started. -/
theorem halted_after (credentials : Option Credentials) (operations : List (Int64 × Operation)) :
    (after credentials operations).Halted := by
  induction operations using List.reverseRecOn with
  | nil => exact fun _ hconnection => by cases hconnection
  | append_singleton operations entry ih =>
    rw [after_append]
    exact halted_operate ih entry.1 entry.2

/-- What a broker needs to give a consumer a message: the consumer and its session are open, and
their connection is open and started. -/
def Serves (broker : Broker) (handle : ConsumerHandle) : Prop :=
  ∃ consumer session connection, broker.consumers[handle.index]? = some consumer ∧
    consumer.closed = false ∧ broker.sessions[consumer.session]? = some session ∧
    session.closed = false ∧ broker.connections[session.connection]? = some connection ∧
    connection.started = true ∧ connection.closed = false

/-- A broker lets a consumer take a message only if it serves it. -/
theorem serves_of_receiver?_isSome {broker : Broker} (h : broker.Halted) {handle : ConsumerHandle}
    (hreceiver : (broker.receiver? handle).isSome = true) : broker.Serves handle := by
  obtain ⟨⟨consumer, session⟩, hpair⟩ := Option.isSome_iff_exists.1 hreceiver
  obtain ⟨hconsumer, hopen, hsession, hopen'⟩ := receiver?_eq_some hpair
  have hstarted := isStarted_of_receiver? hpair
  unfold isStarted at hstarted
  split at hstarted
  · rename_i connection hconnection
    refine ⟨consumer, session, connection, hconsumer, hopen, hsession, hopen', hconnection,
      hstarted, ?_⟩
    by_contra hclosed
    have hhalted := h connection (List.mem_of_getElem? hconnection) (by simpa using hclosed)
    rw [hstarted] at hhalted
    cases hhalted
  · cases hstarted

/-- A receive gives a message only to a consumer that the broker serves. -/
theorem serves_of_receive {broker : Broker} (h : broker.Halted) {now : Int64}
    {handle : ConsumerHandle} {message : Message}
    (hreceive : (broker.perform now (.receive handle)).1 = .ok (some message)) :
    broker.Serves handle := by
  refine serves_of_receiver?_isSome h ?_
  cases hr : broker.receiver? handle with
  | none => exact ((receive_of_receiver?_eq_none now hr).2 message hreceive).elim
  | some pair => rfl

/-- No consumer of a session of a connection that is closed is served. -/
theorem silent_of_closed {broker : Broker} {handle : ConsumerHandle} {consumer : Consumer}
    {session : Session} (hconsumer : broker.consumers[handle.index]? = some consumer)
    (hsession : broker.sessions[consumer.session]? = some session)
    (hclosed : broker.register.closed? (.connection, session.connection) = some true) :
    ¬ broker.Serves handle := by
  rintro ⟨consumer', session', connection, hconsumer', -, hsession', -, hconnection, -, hopen⟩
  obtain rfl := Option.some.inj (hconsumer'.symm.trans hconsumer)
  obtain rfl := Option.some.inj (hsession'.symm.trans hsession)
  have hflag : connection.closed = true := by
    simpa [Register.closed?, register, hconnection] using hclosed
  rw [hopen] at hflag
  cases hflag

end Broker

/-! ## What sessions hold -/

/-- No session that is closed holds anything. -/
def Contents.Vacated (contents : Contents) : Prop :=
  ∀ session ∈ contents.sessions, session.closed = true → session.held = []

/-- Only sessions that are open come to hold something. -/
theorem Contents.Step.vacated {now : Int64} {before after : Contents} {through : Option Nat}
    {departures : List Departure} (hstep : Step now before through departures after)
    (h : before.Vacated) : after.Vacated := by
  have hset : ∀ {later : Contents} {index : Nat} {changed : Session},
      later.sessions = before.sessions.set index changed →
      (changed.closed = true → changed.held = []) → later.Vacated := by
    intro later index changed he hchanged session hsession
    rw [he] at hsession
    rcases List.mem_or_eq_of_mem_set hsession with hold | rfl
    · exact h session hold
    · exact hchanged
  cases hstep with
  | still | openConsumer | closeConsumer | accept => exact h
  | openSession session empty =>
    intro other hother hclosed
    rcases List.mem_append.1 hother with hold | hnew
    · exact h other hold hclosed
    · obtain rfl := List.mem_singleton.1 hnew
      exact empty
  | acknowledge index session id found client isOpen held => exact hset rfl (by simp [isOpen])
  | closeSession index session found => exact hset rfl fun _ => rfl
  | takeOver index consumer session found of unheld =>
    intro other hother
    rw [sessions_withoutTaken] at hother
    exact h other hother
  | takeHeld index consumer session message id found of client isOpen next identified =>
    exact hset (by rw [Contents.hold, sessions_withoutTaken]) (by simp [isOpen])

namespace Broker

/-- No closed session of a broker holds anything. -/
theorem vacated_after (credentials : Option Credentials) (operations : List (Int64 × Operation)) :
    (after credentials operations).contents.Vacated := by
  induction operations using List.reverseRecOn with
  | nil => exact fun _ hsession => by cases hsession
  | append_singleton operations entry ih =>
    rw [after_append]
    obtain ⟨_, -, hstep⟩ := operate_step (after credentials operations) entry.1 entry.2
    exact hstep.vacated ih

/-- What an operation puts back on a queue: what the session held of it that the operation closes,
flagged as redelivered, and nothing if it closes no session. -/
def returned (broker : Broker) (now : Int64) (operation : Operation) (name : String) :
    List Message :=
  match broker.closure? now operation with
  | some (.session, index) =>
    (messagesFrom name ((broker.sessions[index]?.map (·.held)).getD [])).map
      fun message => { message with redelivered := true }
  | _ => []

/-- An operation that closes a session is the close of that session, which was granted. -/
theorem exists_close_of_closure? {broker : Broker} {now : Int64} {operation : Operation}
    {index : Nat} (h : broker.closure? now operation = some (.session, index)) :
    ∃ handle, operation = .request (.closeSession handle) ∧ handle.index = index ∧
      (broker.perform now (.closeSession handle)).1 = .ok () := by
  cases operation with
  | request request =>
    simp only [closure?] at h
    split at h
    · rename_i answer hanswer
      cases request with
      | closeSession handle =>
        obtain ⟨-, rfl⟩ := Prod.mk.inj (Option.some.inj h)
        exact ⟨handle, rfl, rfl, hanswer⟩
      | _ => cases h
    · cases h
  | _ => cases h

/-- An operation leaves on a queue some end of what was there, puts back in front of it what the
session that it closes held, and adds what it accepts for the queue behind it. -/
theorem queue_operate {broker : Broker} (hvacated : broker.contents.Vacated) (now : Int64)
    (operation : Operation) (name : String) :
    ∃ rest, rest <:+ broker.queue name ∧ (broker.operate now operation).queue name =
      broker.returned now operation name ++ rest ++
        broker.arrivals now operation (.queue name) := by
  -- Only a session that is closed puts messages back in front of the queue.
  by_cases hclosure : ∃ index, broker.closure? now operation = some (.session, index)
  · obtain ⟨index, hclosure⟩ := hclosure
    obtain ⟨handle, rfl, rfl, hgranted⟩ := exists_close_of_closure? hclosure
    obtain ⟨session, hsession⟩ : ∃ session, broker.sessions[handle.index]? = some session := by
      have hopen := (hclosure ▸ broker.register_step now (.request (.closeSession handle))).isOpen
      obtain ⟨session, hsession, -⟩ : ∃ session, broker.sessions[handle.index]? = some session ∧
          session.closed = false := by
        simpa [Register.closed?, register] using hopen
      exact ⟨session, hsession⟩
    have hcontents := contents_of_closeSession (Prod.ext hgranted rfl) hsession
    have hwaiting : (broker.operate now (.request (.closeSession handle))).waiting =
        session.held.filterMap Delivery.requeued ++ broker.waiting :=
      congrArg Contents.waiting hcontents
    have harrivals : broker.arrivals now (.request (.closeSession handle)) (.queue name) = [] :=
      rfl
    have hreturned : broker.returned now (.request (.closeSession handle)) name =
        (messagesFrom name session.held).map
          fun message => { message with redelivered := true } := by
      simp only [returned, hclosure, hsession, Option.map_some, Option.getD_some]
    refine ⟨broker.queue name, List.suffix_rfl, ?_⟩
    rw [harrivals, List.append_nil, hreturned, queue, hwaiting, List.filter_append,
      List.map_append, requeued_on]
    rfl
  · -- A session that was open and is closed afterwards would have been closed by the operation.
    obtain ⟨back, rest, hrest, hqueue, hback⟩ := (broker.separates now operation).queue name
    have hnone : broker.returned now operation name = [] := by
      unfold returned
      split
      · rename_i index hindex
        exact (hclosure ⟨index, hindex⟩).elim
      · rfl
    refine ⟨rest, hrest, ?_⟩
    rw [hqueue, hnone]
    rcases hback with rfl | ⟨index, session, hsession, hlater, rfl⟩
    · rfl
    · cases hopen : session.closed with
      | true =>
        have hheld := hvacated session (List.mem_of_getElem? hsession) hopen
        rw [hheld]
        rfl
      | false =>
        have hsession' : broker.sessions[index]? = some session := hsession
        have hlater' : (broker.operate now operation).sessions[index]? =
          some { session with closed := true, held := [] } := hlater
        refine (hclosure ⟨index, (broker.register_step now operation).closure_eq ?_ ?_⟩).elim
        · simp [Register.closed?, register, hsession', hopen]
        · simp [Register.closed?, register, hlater']

/-- A session of a connection that is closed holds what it held, unless the operation is an
acknowledgment or the close of that session. -/
theorem session_operate_of_closed {broker : Broker} (hhalted : broker.Halted) {index : Nat}
    {session : Session} (hsession : broker.sessions[index]? = some session)
    (hclosed : broker.register.closed? (.connection, session.connection) = some true)
    (now : Int64) {operation : Operation}
    (hacknowledge : ∀ handle id, operation = .request (.acknowledge handle id) →
      handle.index ≠ index)
    (hclose : ∀ handle, operation = .request (.closeSession handle) → handle.index ≠ index) :
    (broker.operate now operation).sessions[index]? = some session := by
  by_cases htouched : broker.touched? operation = some index
  · -- What is left is a receive, and a consumer of the session is not served.
    unfold touched? at htouched
    split at htouched
    · exact absurd (Option.some.inj htouched) (hacknowledge _ _ rfl)
    · exact absurd (Option.some.inj htouched) (hclose _ rfl)
    · rename_i handle
      obtain ⟨consumer, hconsumer, rfl⟩ := Option.map_eq_some_iff.1 htouched
      have hnone : broker.receiver? handle = none := by
        by_contra hsome
        refine silent_of_closed hconsumer hsession hclosed (serves_of_receiver?_isSome hhalted ?_)
        exact Option.ne_none_iff_isSome.1 hsome
      have hsame : broker.operate now (.request (.receive handle)) = broker :=
        (receive_of_receiver?_eq_none now hnone).1
      rw [hsame]
      exact hsession
    · cases htouched
  · have hspares : Contents.Spares (· = index) broker.contents
        (broker.operate now operation).contents :=
      broker.spares_operate now fun other he => he ▸ htouched
    exact hspares.sessions index session rfl hsession

/-- A session stays on its connection. -/
theorem connection_operateAll (broker : Broker) (operations : List (Int64 × Operation))
    {index : Nat} {session : Session} (found : broker.sessions[index]? = some session) :
    ∃ later, (broker.operateAll operations).sessions[index]? = some later ∧
      later.connection = session.connection := by
  induction operations generalizing broker session with
  | nil => exact ⟨session, found, rfl⟩
  | cons entry rest ih =>
    obtain ⟨_, -, hstep⟩ := broker.operate_step entry.1 entry.2
    obtain ⟨next, hnext, hconnection⟩ := hstep.connection found
    obtain ⟨later, hlater, hconnection'⟩ := ih (broker.operate entry.1 entry.2) hnext
    exact ⟨later, hlater, hconnection'.trans hconnection⟩

/-! ## All together -/

/-- Resources were closed at a broker, and what that means for it. -/
structure ClosedForGood (broker : Broker) (closed : List Slot) : Prop where
  /-- No resource was closed twice. -/
  once : closed.Nodup
  /-- A resource is closed if its close succeeded, and no other is. -/
  closed_iff : ∀ slot, broker.register.closed? slot = some true ↔ slot ∈ closed
  /-- As many resources of a kind are counted as released as were closed. -/
  released : ∀ kind, broker.released kind = (closed.filter (·.1 = kind)).length
  /-- Another close of a closed resource is refused and changes nothing. -/
  refuses : ∀ slot ∈ closed, ∀ request : BrokerRequest, request.closes? = some slot → ∀ now,
    ∃ error, broker.perform now request = (.error error, broker) ∧
      (error = .alreadyClosed slot.1 ∨ slot.1 = .session ∧ broker.failingSessionClose = true)
  /-- Who is given a message is served. -/
  serves : ∀ now handle message,
    (broker.perform now (.receive handle)).1 = .ok (some message) → broker.Serves handle
  /-- No consumer of a session of a closed connection is given a message. -/
  silent : ∀ (handle : ConsumerHandle) (consumer : Consumer) (session : Session),
    broker.consumers[handle.index]? = some consumer →
    broker.sessions[consumer.session]? = some session →
    (.connection, session.connection) ∈ closed → ∀ now message,
    (broker.perform now (.receive handle)).1 ≠ .ok (some message)
  /-- What comes back to a queue comes from a session that is closed. -/
  queue : ∀ now operation name, ∃ rest, rest <:+ broker.queue name ∧
    (broker.operate now operation).queue name =
      broker.returned now operation name ++ rest ++ broker.arrivals now operation (.queue name)
  /-- What a session of a closed connection holds stays with it until it is acknowledged there, or
  the session is closed. -/
  held : ∀ (index : Nat) (session : Session), broker.sessions[index]? = some session →
    (.connection, session.connection) ∈ closed → ∀ now operation,
    (∀ handle id, operation = .request (.acknowledge handle id) → handle.index ≠ index) →
    (∀ handle, operation = .request (.closeSession handle) → handle.index ≠ index) →
    (broker.operate now operation).sessions[index]? = some session

/-- After every run, what was closed is closed for good. -/
theorem closedForGood_after (credentials : Option Credentials)
    (operations : List (Int64 × Operation)) :
    (after credentials operations).ClosedForGood (closedAfter credentials operations) := by
  have haccounts := accounts_after credentials operations
  have hhalted := halted_after credentials operations
  refine ⟨haccounts.nodup, haccounts.closed, fun kind => ?_, ?_, ?_, ?_, ?_, ?_⟩
  · have hreleases : (after credentials operations).releases = _ := haccounts.releases
    rw [released, hreleases, List.count_eq_countP, List.countP_map, List.countP_eq_length_filter]
    rfl
  · exact fun slot hslot request hcloses now =>
      refuses_of_closed hcloses ((haccounts.closed slot).2 hslot) now
  · exact fun now handle message hreceive => serves_of_receive hhalted hreceive
  · intro handle consumer session hconsumer hsession hclosed now message hreceive
    exact silent_of_closed hconsumer hsession ((haccounts.closed _).2 hclosed)
      (serves_of_receive hhalted hreceive)
  · exact queue_operate (vacated_after credentials operations)
  · intro index session hsession hclosed now operation hacknowledge hclose
    exact session_operate_of_closed hhalted hsession ((haccounts.closed _).2 hclosed) now
      hacknowledge hclose

/-- What was closed at a broker stays closed, whatever happens later: it was closed once and is
counted once, and no later close of it has an effect. A message is only given to an open consumer of
an open session whose connection is open and started. So from the moment that a connection is closed
no consumer of any of its sessions is given a message, and what the sessions hold goes back to its
queue only when they are closed themselves. -/
theorem closes_for_good (credentials : Option Credentials)
    (operations later : List (Int64 × Operation)) :
    let broker := after credentials operations
    let closed := closedAfter credentials operations
    (broker.operateAll later).ClosedForGood (closed ++ broker.closures later) ∧
      ∀ (handle : ConsumerHandle) (consumer : Consumer) (session : Session),
        broker.consumers[handle.index]? = some consumer →
        broker.sessions[consumer.session]? = some session →
        (.connection, session.connection) ∈ closed → ∀ now message,
        ((broker.operateAll later).perform now (.receive handle)).1 ≠ .ok (some message) := by
  intro broker closed
  have hgood : (broker.operateAll later).ClosedForGood (closed ++ broker.closures later) := by
    have hafter := closedForGood_after credentials (operations ++ later)
    rwa [after_append, closedAfter_append] at hafter
  refine ⟨hgood, ?_⟩
  intro handle consumer session hconsumer hsession hclosed
  obtain ⟨consumer', hconsumer', -, hsame⟩ :=
    (broker.spares_operateAll later).consumers handle.index consumer hconsumer
  obtain ⟨session', hsession', hconnection⟩ := broker.connection_operateAll later hsession
  refine hgood.silent handle consumer' session' hconsumer' (hsame ▸ hsession') ?_
  rw [hconnection]
  exact List.mem_append_left _ hclosed

/-- A client receives one of two messages, closes its connection, tries to receive the other one and
to close the connection again. -/
def closedRun : List (Int64 × Operation) :=
  [(1, .publish (.queue "orders") { id := some ⟨"A"⟩, body := .text "a" }),
   (2, .publish (.queue "orders") { id := some ⟨"B"⟩, body := .text "b" }),
   (3, .request (.connect none)),
   (4, .request (.startConnection ⟨0⟩)),
   (5, .request (.createSession ⟨0⟩ .client)),
   (6, .request (.createConsumer ⟨0, "session-1-2", .client⟩ (.queue "orders"))),
   (7, .request (.receive ⟨0⟩)),
   (8, .request (.closeConnection ⟨0⟩)),
   (9, .request (.receive ⟨0⟩)),
   (10, .request (.closeConnection ⟨0⟩))]

/-- The message that was received is at the head of its queue again when the session is closed too,
and the connection is counted once. -/
theorem closes_for_good_closedRun :
    let broker := after none closedRun
    let closing : List (Int64 × Operation) :=
      [(11, .request (.closeSession ⟨0, "session-1-2", .client⟩))]
    closedAfter none closedRun = [(.connection, 0)] ∧ broker.released .connection = 1 ∧
      (broker.queue "orders").map (·.body) = [.text "b"] ∧
      ((broker.operateAll closing).queue "orders").map (·.body) = [.text "a", .text "b"] ∧
      ∀ message, ((broker.operateAll closing).perform 12 (.receive ⟨0⟩)).1 ≠ .ok (some message) := by
  refine ⟨by decide +kernel, by decide +kernel, by decide +kernel, by decide +kernel, ?_⟩
  have hsilent := (closes_for_good none closedRun
    [(11, .request (.closeSession ⟨0, "session-1-2", .client⟩))]).2
  have hfound : (after none closedRun).consumers[0]? = some ⟨.queue "orders", 0, false, []⟩ ∧
      ((after none closedRun).sessions[0]?.map (·.connection)) = some 0 ∧
      (.connection, 0) ∈ closedAfter none closedRun := by
    decide +kernel
  obtain ⟨hconsumer, hsession, hclosed⟩ := hfound
  obtain ⟨session, hsession, hconnection⟩ := Option.map_eq_some_iff.1 hsession
  exact hsilent ⟨0⟩ _ session hconsumer hsession (by rw [hconnection]; exact hclosed) 12

end Broker

end BrokerConnector
