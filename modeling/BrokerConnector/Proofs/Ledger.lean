import BrokerConnector.Proofs.Shared
import BrokerConnector.Reader
import Mathlib.Logic.Relation

/-!
# What a reader and its broker do together

A reader that shares a broker with other clients goes through a handful of transitions, and only
these matter to what it emits and acknowledges. `Ledger` is what they change: the entries that wait
for their acknowledgment, the messages to skip, the session and the consumer while the reader is
attached to them, the messages that were delivered, and the surroundings. `Ledger.Step` lists the
transitions. Each of them either makes one request of the broker as the broker is, or passes time in
which others are at work and the reader does nothing that matters (`Shared.Passes`).

A ledger is `calm` when others do nothing but publish and every session is closed in the end. What
is shown of calm ledgers holds of runs without failures.
-/

namespace BrokerConnector

/-- The session that was closed. -/
def Exchange.closed? : Exchange → Option SessionHandle
  | ⟨.broker (.closeSession session), .done _, _, _⟩ => some session
  | _ => none

/-- Where a reader stands with its session. -/
inductive Hold where
  /-- It is to attach to one yet. -/
  | free
  /-- It is attached to a session, with a consumer. -/
  | held (session : SessionHandle) (consumer : ConsumerHandle)
  /-- It has let go of it. -/
  | gone

/-- Whether a reader is attached. -/
def Hold.isHeld : Hold → Bool
  | held _ _ => true
  | _ => false

/-- Whether a session, by its position, is the one that a reader is attached to. -/
def Hold.Keeps (hold : Hold) (index : Nat) : Prop :=
  ∃ handle consumer, hold = .held handle consumer ∧ handle.index = index

/-- What a reader knows of its messages, in its surroundings. -/
structure Ledger where
  pending : List PendingDelivery
  skipped : List MessageId
  hold : Hold
  /-- The messages that were received and not skipped, in order. -/
  delivered : List Message
  env : Shared

namespace Contents

/-- The only thing that happens to messages is that more are accepted. -/
def Appends (before after : Contents) : Prop :=
  ∃ new, after.accepted = before.accepted ++ new ∧
    after.waiting = before.waiting ++ new.flatMap (fun entry => entry.2.queuedFor entry.1) ∧
      after.acknowledged = before.acknowledged

namespace Appends

variable {first second third : Contents}

theorem refl (contents : Contents) : Appends contents contents := ⟨[], by simp⟩

theorem trans (hfirst : Appends first second) (hsecond : Appends second third) :
    Appends first third := by
  obtain ⟨new, haccepted, hwaiting, hacknowledged⟩ := hfirst
  obtain ⟨new', haccepted', hwaiting', hacknowledged'⟩ := hsecond
  refine ⟨new ++ new', ?_, ?_, hacknowledged'.trans hacknowledged⟩
  · rw [haccepted', haccepted, List.append_assoc]
  · rw [hwaiting', hwaiting, List.flatMap_append, List.append_assoc]

/-- A step through no session accepts messages at most. -/
theorem of_step {now : Int64} {departures : List Departure}
    (h : Step now first none departures second) : Appends first second := by
  cases h with
  | accept destination message identified => exact ⟨[(destination, message)], by simp [accept]⟩
  | _ => exact ⟨[], by simp⟩

end Appends

end Contents

/-- An operation that changes no deliveries accepts messages at most. -/
theorem Broker.appends_operate (broker : Broker) (now : Int64) {operation : Operation}
    (h : broker.touched? operation = none) :
    Contents.Appends broker.contents (broker.operate now operation).contents := by
  obtain ⟨through, hthrough, hstep⟩ := broker.operate_step now operation
  cases through with
  | none => exact .of_step hstep
  | some index => simp [h] at hthrough

/-- Nobody's connection changes when a message is published. -/
theorem Broker.connections_publish (broker : Broker) (now : Int64) (destination : Destination)
    (message : Message) :
    (broker.publish now destination message).2.connections = broker.connections := by
  unfold publish deliver
  cases message.id <;> cases destination <;> rfl

/-- Whether a request leaves all deliveries alone. -/
def BrokerRequest.isQuiet : BrokerRequest → Bool
  | acknowledge _ _ | closeSession _ | receive _ => false
  | _ => true

/-- A quiet request changes the deliveries of no session. -/
theorem Broker.touched?_of_isQuiet (broker : Broker) {request : BrokerRequest}
    (h : request.isQuiet = true) : broker.touched? (.request request) = none := by
  cases request with
  | acknowledge | closeSession | receive => cases h
  | _ => rfl

/-- Whether a request concerns no connection, and no producer's messages. -/
def BrokerRequest.isSteady : BrokerRequest → Bool
  | connect _ | startConnection _ | stopConnection _ | closeConnection _ | send _ _ _ => false
  | _ => true

/-- Only requests about connections change them. -/
theorem Broker.connections_perform (broker : Broker) (now : Int64) {request : BrokerRequest}
    (h : request.isSteady = true) :
    (broker.perform now request).2.connections = broker.connections := by
  have hbooks := broker.books_perform now request
  cases request with
  | connect | startConnection | stopConnection | closeConnection | send => cases h
  | _ => exact congrArg Books.connections hbooks

/-- A schedule by which others do nothing but publish. -/
def Schedule.Publishes (schedule : Schedule) : Prop :=
  ∀ number, ∀ entry ∈ (schedule number).others, ∃ destination message,
    entry.2 = .publish destination message

/-- A schedule by which no acknowledgment fails as if the session did not hold the delivery. -/
def Schedule.NeverDenies (schedule : Schedule) : Prop :=
  ∀ number session id error,
    (schedule number).failure (.broker (.acknowledge session id)) = some error →
      error.isNotPending = false

namespace Shared

/-- What may happen while a reader does nothing that matters: some sessions are left alone, nothing
is received, and in a calm and steady time no connection changes. -/
structure Passes (calm steady : Prop) (kept : Nat → Prop) (before after : Shared) : Prop where
  spares : Contents.Spares kept before.broker.contents after.broker.contents
  log : ∃ new, after.log = before.log ++ new ∧
    ∀ exchange ∈ new, exchange.received? = none ∧
      ∀ handle, exchange.closed? = some handle → ¬kept handle.index
  appends : calm → Contents.Appends before.broker.contents after.broker.contents
  connections : calm → steady → after.broker.connections = before.broker.connections

namespace Passes

variable {calm steady : Prop} {kept : Nat → Prop} {first second third : Shared}

theorem refl (calm steady : Prop) (kept : Nat → Prop) (shared : Shared) :
    Passes calm steady kept shared shared where
  spares := .refl _ _
  log := ⟨[], by simp⟩
  appends := fun _ => .refl _
  connections := fun _ _ => rfl

theorem trans (hfirst : Passes calm steady kept first second)
    (hsecond : Passes calm steady kept second third) : Passes calm steady kept first third where
  spares := hfirst.spares.trans hsecond.spares
  log := by
    obtain ⟨new, hnew, hquiet⟩ := hfirst.log
    obtain ⟨new', hnew', hquiet'⟩ := hsecond.log
    refine ⟨new ++ new', by rw [hnew', hnew, List.append_assoc], fun exchange h => ?_⟩
    exact (List.mem_append.1 h).elim (hquiet exchange) (hquiet' exchange)
  appends := fun hcalm => (hfirst.appends hcalm).trans (hsecond.appends hcalm)
  connections := fun hcalm hsteady =>
    (hsecond.connections hcalm hsteady).trans (hfirst.connections hcalm hsteady)

/-- Less may be claimed. -/
theorem mono {calm' steady' : Prop} {fewer : Nat → Prop} (h : Passes calm steady kept first second)
    (hcalm : calm' → calm) (hsteady : steady' → steady)
    (hfewer : ∀ index, fewer index → kept index) : Passes calm' steady' fewer first second where
  spares := h.spares.mono hfewer
  log := by
    obtain ⟨new, hnew, hquiet⟩ := h.log
    exact ⟨new, hnew, fun exchange he => ⟨(hquiet exchange he).1,
      fun handle hclosed hkept => (hquiet exchange he).2 handle hclosed (hfewer _ hkept)⟩⟩
  appends := fun hc => h.appends (hcalm hc)
  connections := fun hc hs => h.connections (hcalm hc) (hsteady hs)

/-- What was received stays the same. -/
theorem received (h : Passes calm steady kept first second) : second.received = first.received := by
  obtain ⟨new, hnew, hquiet⟩ := h.log
  have hnone : new.filterMap (·.received?) = [] :=
    List.filterMap_eq_nil_iff.2 fun exchange he => (hquiet exchange he).1
  rw [Shared.received, hnew, List.filterMap_append, hnone, List.append_nil, Shared.received]

/-- Sessions that were opened stay known. -/
theorem sessions (h : Passes calm steady kept first second) : first.sessions ⊆ second.sessions := by
  obtain ⟨new, hnew, -⟩ := h.log
  rw [Shared.sessions, Shared.sessions, hnew, List.filterMap_append]
  exact List.subset_append_left _ _

end Passes

/-! ## What passes -/

variable {calm steady : Prop} {kept : Nat → Prop} {shared : Shared}

/-- Another client performs an operation. -/
theorem passes_disturb (shared : Shared) (now : Int64) (operation : Operation)
    (hkept : ∀ index, kept index → index ∈ shared.sessions)
    (hcalm : calm → ∃ destination message, operation = .publish destination message) :
    Passes calm steady kept shared (shared.disturb now operation) where
  spares := (shared.spares_others [(now, operation)]).mono hkept
  log := ⟨[], by rw [List.append_nil]; exact shared.log_others [(now, operation)], by simp⟩
  appends := by
    intro h
    obtain ⟨destination, message, rfl⟩ := hcalm h
    unfold disturb
    split
    · exact .refl _
    · exact shared.broker.appends_operate _ rfl
  connections := by
    intro h _
    obtain ⟨destination, message, rfl⟩ := hcalm h
    unfold disturb
    split
    · rfl
    · exact shared.broker.connections_publish _ _ _

/-- Others are at work. -/
theorem passes_others (shared : Shared) (operations : List (Int64 × Operation))
    (hkept : ∀ index, kept index → index ∈ shared.sessions)
    (hcalm : calm → ∀ entry ∈ operations, ∃ destination message,
      entry.2 = .publish destination message) :
    Passes calm steady kept shared (shared.others operations) := by
  induction operations generalizing shared with
  | nil => exact .refl _ _ _ _
  | cons entry rest ih =>
    have hsessions : (shared.disturb entry.1 entry.2).sessions = shared.sessions :=
      shared.sessions_others [entry]
    refine (shared.passes_disturb entry.1 entry.2 hkept fun h =>
      hcalm h entry List.mem_cons_self).trans (ih _ ?_ fun h other hother =>
        hcalm h other (List.mem_cons_of_mem _ hother))
    rw [hsessions]
    exact hkept

/-- A request was granted that concerns no deliveries, and no connection in a steady time. -/
theorem passes_granted {now : Int64} {request : BrokerRequest} {answer : request.Answer}
    {broker : Broker} (h : shared.broker.perform now request = (.ok answer, broker))
    (hquiet : request.isQuiet = true) (hsteady : steady → request.isSteady = true) :
    Passes calm steady kept shared (shared.add (.broker request) (.done answer) broker) := by
  have htouched := shared.broker.touched?_of_isQuiet hquiet
  have hoperate : shared.broker.operate now (.request request) = broker := by
    rw [Broker.operate, h]
  constructor
  · change Contents.Spares _ _ broker.contents
    rw [← hoperate]
    exact shared.broker.spares_operate now fun index _ => by simp [htouched]
  · refine ⟨[_], rfl, fun exchange hexchange => ?_⟩
    obtain rfl := List.mem_singleton.1 hexchange
    cases request with
    | receive | closeSession => cases hquiet
    | _ => exact ⟨rfl, by simp [Exchange.closed?]⟩
  · intro _
    change Contents.Appends _ broker.contents
    rw [← hoperate]
    exact shared.broker.appends_operate now htouched
  · intro _ hs
    have hsame := shared.broker.connections_perform now (hsteady hs)
    rw [h] at hsame
    exact hsame

/-- A session was closed that nobody keeps. -/
theorem passes_closeSession {now : Int64} {handle : SessionHandle} {broker : Broker}
    (h : shared.broker.perform now (.closeSession handle) = (.ok (), broker))
    (hkept : ¬kept handle.index) :
    Passes False steady kept shared
      (shared.add (.broker (.closeSession handle)) (.done ()) broker) where
  spares := by
    have hoperate : shared.broker.operate now (.request (.closeSession handle)) = broker := by
      rw [Broker.operate, h]
    change Contents.Spares _ _ broker.contents
    rw [← hoperate]
    refine shared.broker.spares_operate now fun index hindex he => hkept ?_
    obtain rfl : handle.index = index := Option.some.inj he
    exact hindex
  log := by
    refine ⟨[_], rfl, fun exchange hexchange => ?_⟩
    obtain rfl := List.mem_singleton.1 hexchange
    refine ⟨rfl, fun other hother => ?_⟩
    obtain rfl : handle = other := Option.some.inj hother
    exact hkept
  appends := False.elim
  connections := False.elim

/-- A request failed, and the broker is as it was. -/
theorem passes_failed (request : Request) (error : BrokerError) :
    Passes calm steady kept shared (shared.add request (.failed error) shared.broker) where
  spares := .refl _ _
  log := by
    refine ⟨[_], rfl, fun exchange hexchange => ?_⟩
    obtain rfl := List.mem_singleton.1 hexchange
    cases request with
    | broker request => cases request <;> exact ⟨rfl, by simp [Exchange.closed?]⟩
    | _ => exact ⟨rfl, by simp [Exchange.closed?]⟩
  appends := fun _ => .refl _
  connections := fun _ _ => rfl

/-- A request of an estimator leaves the broker as it was. -/
theorem passes_estimator {request : Request} (outcome : Outcome BrokerError request.Answer)
    (h : ∀ asked, request ≠ .broker asked) :
    Passes calm steady kept shared (shared.add request outcome shared.broker) where
  spares := .refl _ _
  log := by
    refine ⟨[_], rfl, fun exchange hexchange => ?_⟩
    obtain rfl := List.mem_singleton.1 hexchange
    cases request with
    | broker request => exact (h request rfl).elim
    | _ => exact ⟨rfl, by simp [Exchange.closed?]⟩
  appends := fun _ => .refl _
  connections := fun _ _ => rfl

end Shared

/-! ## Transitions -/

namespace Ledger

/-- What a reader of a queue and its broker do together. -/
inductive Step (calm : Prop) (name : String) (before : Ledger) : Ledger → Prop where
  | pass (env : Shared)
    (passes : Shared.Passes calm before.hold.isHeld before.hold.Keeps before.env env) :
    Step calm name before { before with env := env }
  /-- The reader attaches to a fresh session with a consumer of its queue. What the mark listed is
  to be skipped. -/
  | attach (handle : SessionHandle) (consumer : ConsumerHandle) (session : Session)
    (free : before.hold = .free) (opened : handle.index ∈ before.env.sessions)
    (found : before.env.broker.sessions[handle.index]? = some session)
    (client : session.mode = .client) (isOpen : session.closed = false) (empty : session.held = [])
    (bound : ∃ of, before.env.broker.consumers[consumer.index]? = some of ∧
      of.destination = .queue name ∧ of.session = handle.index)
    (started : calm → before.env.broker.isStarted session.connection) :
    Step calm name before
      { before with
        pending := []
        skipped := before.skipped ++ before.pending.map (·.id)
        hold := .held handle consumer }
  | findNothing (handle : SessionHandle) (consumer : ConsumerHandle) (now : Int64)
    (broker : Broker) (hold : before.hold = .held handle consumer)
    (granted : before.env.broker.perform now (.receive consumer) = (.ok none, broker)) :
    Step calm name before
      { before with env := before.env.add (.broker (.receive consumer)) (.done none) broker }
  /-- The reader refuses a message that it cannot list. -/
  | refuse (handle : SessionHandle) (consumer : ConsumerHandle) (now : Int64) (broker : Broker)
    (message : Message) (hold : before.hold = .held handle consumer)
    (granted : before.env.broker.perform now (.receive consumer) = (.ok (some message), broker))
    (anonymous : message.id = none) :
    Step calm name before
      { before with
        env := before.env.add (.broker (.receive consumer)) (.done (some message)) broker }
  /-- The reader lists a message that it receives, and delivers it unless it is to be skipped. -/
  | receive (handle : SessionHandle) (consumer : ConsumerHandle) (now : Int64) (broker : Broker)
    (message : Message) (id : MessageId) (hold : before.hold = .held handle consumer)
    (granted : before.env.broker.perform now (.receive consumer) = (.ok (some message), broker))
    (identified : message.id = some id) :
    Step calm name before
      { before with
        pending := before.pending ++ [⟨id, message.timestamp⟩]
        skipped := before.skipped.filter (· ≠ id)
        delivered := before.delivered ++ if id ∈ before.skipped then [] else [message]
        env := before.env.add (.broker (.receive consumer)) (.done (some message)) broker }
  | acknowledge (handle : SessionHandle) (consumer : ConsumerHandle) (now : Int64)
    (broker : Broker) (entry : PendingDelivery) (rest : List PendingDelivery)
    (hold : before.hold = .held handle consumer) (first : before.pending = entry :: rest)
    (granted : before.env.broker.perform now (.acknowledge handle entry.id) = (.ok (), broker)) :
    Step calm name before
      { before with
        pending := rest
        env := before.env.add (.broker (.acknowledge handle entry.id)) (.done ()) broker }
  /-- The broker tells that the session does not hold an entry. -/
  | drop (handle : SessionHandle) (consumer : ConsumerHandle) (now : Int64) (error : BrokerError)
    (entry : PendingDelivery) (rest : List PendingDelivery)
    (hold : before.hold = .held handle consumer) (first : before.pending = entry :: rest)
    (refused : (before.env.broker.perform now (.acknowledge handle entry.id)).1 = .error error)
    (notPending : error.isNotPending = true) :
    Step calm name before
      { before with
        pending := rest
        env := before.env.add (.broker (.acknowledge handle entry.id)) (.failed error)
          before.env.broker }
  | release (handle : SessionHandle) (consumer : ConsumerHandle) (now : Int64) (broker : Broker)
    (hold : before.hold = .held handle consumer)
    (granted : before.env.broker.perform now (.closeSession handle) = (.ok (), broker)) :
    Step calm name before
      { before with
        hold := .gone
        env := before.env.add (.broker (.closeSession handle)) (.done ()) broker }
  /-- The reader detaches from a session that could not be closed. -/
  | letGo (rough : ¬calm) (hold : before.hold.isHeld = true) :
    Step calm name before { before with hold := .gone }
  /-- A reader that never attached goes. -/
  | leave (free : before.hold = .free) : Step calm name before { before with hold := .gone }

/-- What a reader of a queue and its broker do together, in many steps. -/
abbrev Steps (calm : Prop) (name : String) : Ledger → Ledger → Prop :=
  Relation.ReflTransGen (Step calm name)

/-- The broker denies that the session holds the first entry. -/
def Denied (ledger : Ledger) : Prop :=
  ∃ handle consumer entry rest now error, ledger.hold = .held handle consumer ∧
    ledger.pending = entry :: rest ∧
      (ledger.env.broker.perform now (.acknowledge handle entry.id)).1 = .error error ∧
        error.isNotPending = true

/-- The broker denies a delivery between two ledgers. -/
def Disputed (calm : Prop) (name : String) (before after : Ledger) : Prop :=
  ∃ denied, denied.Denied ∧ Steps calm name before denied ∧ Steps calm name denied after

/-- The last thing that happens between two ledgers is that the broker has no message. -/
def Exhausted (calm : Prop) (name : String) (before after : Ledger) : Prop :=
  ∃ (last : Ledger) (handle : SessionHandle) (consumer : ConsumerHandle) (now : Int64)
    (broker : Broker), Steps calm name before last ∧ last.hold = .held handle consumer ∧
      last.env.broker.perform now (.receive consumer) = (.ok none, broker) ∧
        after = { last with env := last.env.add (.broker (.receive consumer)) (.done none) broker }

variable {calm : Prop} {name : String} {before after : Ledger}

/-- Less is claimed when nothing is said of calm. -/
theorem Step.rough (h : Step calm name before after) : Step False name before after := by
  cases h with
  | pass env passes => exact .pass env (passes.mono False.elim id fun _ => id)
  | attach handle consumer session free opened found client isOpen empty bound started =>
    exact .attach handle consumer session free opened found client isOpen empty bound False.elim
  | findNothing handle consumer now broker hold granted =>
    exact .findNothing handle consumer now broker hold granted
  | refuse handle consumer now broker message hold granted anonymous =>
    exact .refuse handle consumer now broker message hold granted anonymous
  | receive handle consumer now broker message id hold granted identified =>
    exact .receive handle consumer now broker message id hold granted identified
  | acknowledge handle consumer now broker entry rest hold first granted =>
    exact .acknowledge handle consumer now broker entry rest hold first granted
  | drop handle consumer now error entry rest hold first refused notPending =>
    exact .drop handle consumer now error entry rest hold first refused notPending
  | release handle consumer now broker hold granted =>
    exact .release handle consumer now broker hold granted
  | letGo rough hold => exact .letGo id hold
  | leave free => exact .leave free

theorem Steps.rough (h : Steps calm name before after) : Steps False name before after :=
  Relation.ReflTransGen.mono (fun _ _ => Step.rough) _ _ h

end Ledger

end BrokerConnector
