import BrokerConnector.Proofs.Order
import Mathlib.Logic.Function.Basic

/-!
# A queue that readers share

Several readers take the messages of one queue, each on a session of its own. A `Pool` is the books
that they would keep together: who sits at which session and what waits there for its
acknowledgment, which messages left the queue, and who took and who acknowledged which, in order.
`Pool.Even` says that the books agree with the broker. What left the queue and what waits on it are
what was accepted for it, the readers took every message of it that was not expired, and each took
what it acknowledged and what waits at its session.

Every request of one of the readers keeps the books even, whatever the others do in between.
-/

namespace BrokerConnector

open BrokerConnector.Action

/-! ## Requests that disturb nobody -/

/-- Whether a request belongs to what a reader acquires. It disturbs no other reader. -/
def BrokerRequest.isGentle : BrokerRequest → Bool
  | connect _ | startConnection _ | createSession _ _ | resolve _ _ | createConsumer _ _ => true
  | _ => false

/-- A gentle request leaves all deliveries alone. -/
theorem BrokerRequest.isQuiet_of_isGentle {request : BrokerRequest} (h : request.isGentle = true) :
    request.isQuiet = true := by
  cases request with
  | stopConnection | closeConnection | acknowledge | closeSession | receive | send => cases h
  | _ => rfl

namespace Broker

variable {broker after : Broker} {now : Int64}

/-- A connection that is started is one of the broker. -/
theorem isStarted_iff {connection : Nat} : broker.isStarted connection = true ↔
    ∃ found, broker.connections[connection]? = some found ∧ found.started = true := by
  unfold isStarted
  cases broker.connections[connection]? <;> simp

/-- A gentle request stops no connection. -/
theorem isStarted_perform (broker : Broker) (now : Int64) {request : BrokerRequest}
    (h : request.isGentle = true) {connection : Nat}
    (hstarted : broker.isStarted connection = true) :
    (broker.perform now request).2.isStarted connection = true := by
  obtain ⟨found, hfound, hon⟩ := isStarted_iff.1 hstarted
  have hlt := (List.getElem?_eq_some_iff.1 hfound).1
  refine perform_snd hstarted ?_
  intro _ _ hgranted
  cases hgranted with
  | connect =>
    exact isStarted_iff.2 ⟨found, (List.getElem?_append_left hlt).trans hfound, hon⟩
  | startConnection handle old =>
    by_cases he : handle.index = connection
    · refine isStarted_iff.2 ⟨{ old with started := true }, ?_, rfl⟩
      rw [← he] at hlt ⊢
      exact List.getElem?_set_self hlt
    · exact isStarted_iff.2 ⟨found, (List.getElem?_set_ne he).trans hfound, hon⟩
  | createSession | resolve | createConsumer => exact hstarted
  | _ => cases h

/-- A request that changes what one session holds leaves the other sessions alone. -/
theorem spares_of_touched {request : BrokerRequest} {answer : request.Answer} {index : Nat}
    (h : broker.perform now request = (.ok answer, after))
    (htouched : broker.touched? (.request request) = some index) :
    Contents.Spares (· ≠ index) broker.contents after.contents := by
  have hoperate : broker.operate now (.request request) = after := by rw [operate, h]
  rw [← hoperate]
  refine broker.spares_operate now fun other hother he => hother ?_
  exact Option.some.inj (he.symm.trans htouched)

/-- A session that holds a delivery acknowledges it. -/
theorem exists_acknowledge {handle : SessionHandle} {session : Session} {id : MessageId}
    (found : broker.sessions[handle.index]? = some session) (isOpen : session.closed = false)
    (held : ∃ delivery ∈ session.held, delivery.id = id) (now : Int64) :
    ∃ after, broker.perform now (.acknowledge handle id) = (.ok (), after) := by
  have hopen : broker.openSession? handle.index = .ok session := by
    simp [openSession?, found, isOpen]
  simp only [perform, acknowledge, hopen]
  cases session.mode with
  | auto => exact ⟨_, rfl⟩
  | client =>
    rw [if_pos (by simpa using held)]
    exact ⟨_, rfl⟩

/-- A session that is given a message holds it after the others. -/
theorem exists_held_of_receive {handle : ConsumerHandle} {consumer : Consumer} {session : Session}
    {message : Message} {id : MessageId}
    (hgranted : broker.perform now (.receive handle) = (.ok (some message), after))
    (bound : broker.consumers[handle.index]? = some consumer)
    (found : broker.sessions[consumer.session]? = some session) (client : session.mode = .client)
    (identified : message.id = some id) (hnew : id ∉ session.held.map (·.id)) :
    ∃ later, after.sessions[consumer.session]? = some later ∧ later.mode = .client ∧
      later.closed = session.closed ∧
        later.held.map (·.id) = session.held.map (·.id) ++ [id] := by
  have hkept : session.held.filter (·.id ≠ id) = session.held := by
    refine List.filter_eq_self.2 fun delivery hdelivery => ?_
    simpa using fun he : delivery.id = id => hnew (he ▸ List.mem_map_of_mem hdelivery)
  refine ⟨_, session_of_receive hgranted bound found client identified, client, rfl, ?_⟩
  rw [hkept, List.map_append, List.map_singleton]

/-- A session that acknowledges the first message that it holds lets go of this one alone. -/
theorem exists_held_of_acknowledge {handle : SessionHandle} {session : Session} {id : MessageId}
    {rest : List MessageId}
    (hgranted : broker.perform now (.acknowledge handle id) = (.ok (), after))
    (found : broker.sessions[handle.index]? = some session) (client : session.mode = .client)
    (hheld : session.held.map (·.id) = id :: rest) (hnew : id ∉ rest) :
    ∃ later, after.sessions[handle.index]? = some later ∧ later.mode = .client ∧
      later.closed = session.closed ∧ later.held.map (·.id) = rest := by
  refine ⟨_, session_of_acknowledge hgranted found client, client, rfl, ?_⟩
  calc (session.held.filter (·.id ≠ id)).map (·.id)
      = (session.held.map (·.id)).filter (· ≠ id) := by rw [List.filter_map]; rfl
    _ = rest.filter (· ≠ id) := by rw [hheld, List.filter_cons_of_neg (by simp)]
    _ = rest := List.filter_eq_self.2 fun other hother => by
      simpa using fun he : other = id => hnew (he ▸ hother)

end Broker

namespace Shared

/-- Whoever has a session can go on: others publish at most, every session that was opened here is
left alone, and no connection is stopped. -/
structure Proceeds (first second : Shared) : Prop where
  passes : Passes True False (· ∈ first.sessions) first second
  started : ∀ connection, first.broker.isStarted connection = true →
    second.broker.isStarted connection = true

variable {schedule : Schedule} {first second third shared : Shared}

theorem Proceeds.trans (h : first.Proceeds second) (h' : second.Proceeds third) :
    first.Proceeds third where
  passes := h.passes.trans (h'.passes.mono id id fun _ hindex => h.passes.sessions hindex)
  started := fun connection hstarted => h'.started connection (h.started connection hstarted)

/-- Others publish. -/
theorem proceeds_others {operations : List (Int64 × Operation)}
    (hcalm : ∀ entry ∈ operations, ∃ destination message, entry.2 = .publish destination message) :
    shared.Proceeds (shared.others operations) where
  passes := shared.passes_others _ (fun _ => id) fun _ => hcalm
  started := by
    have hpasses : Passes True True (fun _ => False) shared (shared.others operations) :=
      shared.passes_others _ (fun _ => False.elim) fun _ => hcalm
    exact fun connection => isStarted_of_passes trivial trivial hpasses

/-- A gentle request was granted. -/
theorem proceeds_granted {now : Int64} {request : BrokerRequest} {answer : request.Answer}
    {broker : Broker} (hgentle : request.isGentle = true)
    (h : shared.broker.perform now request = (.ok answer, broker)) :
    shared.Proceeds (shared.add (.broker request) (.done answer) broker) where
  passes := passes_granted h (BrokerRequest.isQuiet_of_isGentle hgentle) False.elim
  started := by
    intro connection hstarted
    have hafter := shared.broker.isStarted_perform now hgentle hstarted
    rwa [h] at hafter

/-- A request failed. -/
theorem proceeds_failed (request : Request) (error : BrokerError) :
    shared.Proceeds (shared.add request (.failed error) shared.broker) :=
  ⟨passes_failed request error, fun _ => id⟩

/-- An estimator was asked. -/
theorem proceeds_estimator (shared : Shared) {request : Request}
    (outcome : Outcome BrokerError request.Answer) (h : ∀ asked, request ≠ .broker asked) :
    shared.Proceeds (shared.add request outcome shared.broker) :=
  ⟨passes_estimator outcome h, fun _ => id⟩

/-- A session that is offered stays so. -/
theorem Offers.proceeds {handle : SessionHandle} (h : first.Offers True handle)
    (hproceeds : first.Proceeds second) : second.Offers True handle := by
  obtain ⟨session, found, client, isOpen, empty, started⟩ := h.fresh
  exact ⟨hproceeds.passes.sessions h.opened, session,
    hproceeds.passes.spares.sessions _ _ h.opened found, client, isOpen, empty,
    fun hcalm => hproceeds.started _ (started hcalm)⟩

end Shared

/-- A gentle request leaves everybody to go on. -/
theorem Scene.ensures_gentle {ρ : Type} {schedule : Schedule} {s : Scene ρ Shared}
    {request : BrokerRequest} {done : request.Answer → Scene ρ Shared → Prop}
    (hcalm : schedule.Publishes) (hgentle : request.isGentle = true)
    (granted : ∀ (middle : Shared) now answer broker, s.env.Proceeds middle →
      middle.broker.perform now request = (.ok answer, broker) →
      middle.Proceeds (middle.add (.broker request) (.done answer) broker) →
      done answer { s with env := middle.add (.broker request) (.done answer) broker }) :
    Ensures (ask (Shared.endpoint schedule) (.broker request)) s done (fun _ _ => True) :=
  Scene.ensures_ask
    (fun number answer broker h => granted _ _ answer broker
      (Shared.proceeds_others (hcalm number)) h (Shared.proceeds_granted hgentle h))
    fun _ _ _ => trivial

namespace Crew

/-! ## What belongs to one reader -/

section

variable {β : Type} (index : Nat) (tagged more : List (Nat × β))

/-- What is tagged with a reader, by its position, in order. -/
def own (index : Nat) (tagged : List (Nat × β)) : List β :=
  (tagged.filter (·.1 = index)).map (·.2)

@[simp]
theorem own_append : own index (tagged ++ more) = own index tagged ++ own index more := by
  simp [own]

@[simp]
theorem own_self (items : List β) : own index (items.map (index, ·)) = items := by
  simp [own, List.filter_eq_self.2, Function.comp_def]

/-- What is tagged with another reader does not belong to a reader. -/
theorem own_of_ne {index other : Nat} (h : other ≠ index) (items : List β) :
    own index (items.map (other, ·)) = [] := by
  simp [own, h]

/-- What belongs to a reader is part of the whole. -/
theorem own_sublist : (own index tagged).Sublist (tagged.map (·.2)) :=
  List.filter_sublist.map _

/-- What belongs to some reader is the whole. -/
theorem mem_own {index : Nat} {tagged : List (Nat × β)} {item : β} :
    item ∈ own index tagged ↔ (index, item) ∈ tagged := by
  simp [own]

/-- Lists are the same up to their order if the same belongs to each reader. -/
theorem perm_of_own [DecidableEq β] {first second : List (Nat × β)}
    (h : ∀ index, own index first = own index second) : first.Perm second := by
  -- How often an entry occurs can be told from what belongs to its reader.
  have hcount : ∀ (tagged : List (Nat × β)) index item,
      (own index tagged).count item = tagged.count (index, item) := by
    intro tagged index item
    induction tagged with
    | nil => rfl
    | cons entry rest ih =>
      obtain ⟨other, found⟩ := entry
      by_cases ho : other = index
      · simpa [own, ho, List.count_cons] using ih
      · simpa [own, ho, List.count_cons] using ih
  refine List.perm_iff_count.2 fun entry => ?_
  rw [← hcount first entry.1 entry.2, h, hcount]

end

/-! ## Seats -/

/-- The session that a reader is attached to, and its consumer there. -/
structure Seat where
  session : SessionHandle
  consumer : ConsumerHandle

/-- A reader sits at a session of a queue, which holds what waits for its acknowledgment. -/
structure Seated (name : String) (shared : Shared) (seat : Seat)
    (pending : List PendingDelivery) : Prop where
  opened : seat.session.index ∈ shared.sessions
  holds : ∃ session, shared.broker.sessions[seat.session.index]? = some session ∧
    session.mode = .client ∧ session.closed = false ∧
      session.held.map (·.id) = pending.map (·.id)
  bound : ∃ of, shared.broker.consumers[seat.consumer.index]? = some of ∧
    of.destination = .queue name ∧ of.session = seat.session.index
  delivers : shared.broker.Delivers seat.session.index

section

variable {name : String} {shared after : Shared} {seat : Seat} {pending : List PendingDelivery}

/-- A reader keeps its seat as long as its session is left alone. -/
theorem Seated.of_spares {kept : Nat → Prop} (h : Seated name shared seat pending)
    (hspares : Contents.Spares kept shared.broker.contents after.broker.contents)
    (hkept : kept seat.session.index) (sessions : shared.sessions ⊆ after.sessions)
    (delivers : after.broker.Delivers seat.session.index) : Seated name after seat pending := by
  obtain ⟨session, found, hsession⟩ := h.holds
  obtain ⟨of, hof, hqueue, hindex⟩ := h.bound
  obtain ⟨later, hlater, hdestination, hsame⟩ := hspares.consumers _ _ hof
  exact ⟨sessions h.opened, ⟨session, hspares.sessions _ _ hkept found, hsession⟩,
    ⟨later, hlater, hdestination.trans hqueue, hsame.trans hindex⟩, delivers⟩

/-- A reader keeps its seat while others go on. -/
theorem Seated.proceeds (h : Seated name shared seat pending) (hproceeds : shared.Proceeds after) :
    Seated name after seat pending := by
  obtain ⟨session, found, hstarted⟩ := h.delivers
  exact h.of_spares hproceeds.passes.spares h.opened hproceeds.passes.sessions
    ⟨session, hproceeds.passes.spares.sessions _ _ h.opened found, hproceeds.started _ hstarted⟩

end

/-! ## The books -/

/-- What readers that share a queue know of it together. Each reader has its position. -/
structure Pool where
  seats : Nat → Option Seat
  /-- What waits for its acknowledgment. -/
  pending : Nat → List PendingDelivery
  /-- The messages that left the queue, in order. -/
  gone : List Message
  /-- The messages that readers took, in order. -/
  taken : List (Nat × Message)
  /-- The messages that readers acknowledged, in order. -/
  paid : List (Nat × MessageId)
  env : Shared

end Crew

/-- A schedule by which no request fails before it takes effect. -/
def Schedule.NeverFails (schedule : Schedule) : Prop :=
  ∀ number request, (schedule number).failure request = none

namespace Shared

variable {schedule : Schedule} {name : String} {lasts : Message → Bool} {shared : Shared}

/-- The messages of a queue have identifiers of their own. Those that last are never found expired
by a request, and the others always, from the moment when they are accepted. -/
structure Settles (schedule : Schedule) (name : String) (lasts : Message → Bool)
    (shared : Shared) : Prop where
  distinct : ((shared.broker.published (.queue name)).map (·.id)).Nodup
  lasting : ∀ number exchange, shared.log[number]? = some exchange →
    ∀ message ∈ exchange.before.published (.queue name),
      message.isExpired (schedule number).now = !lasts message

/-- What the last request found of a message is whether it lasts. -/
theorem Settles.isExpired {request : Request} {outcome : Outcome BrokerError request.Answer}
    {broker : Broker} (h : (shared.add request outcome broker).Settles schedule name lasts)
    {number : Nat} (hnumber : number = shared.log.length) {message : Message}
    (hmem : message ∈ shared.broker.published (.queue name)) :
    message.isExpired (schedule number).now = !lasts message := by
  subst hnumber
  exact h.lasting _ _ List.getElem?_concat_length message hmem

/-- None of the messages lasts that a request finds expired. -/
theorem filter_lasts_eq_nil {messages : List Message} {now : Int64}
    (h : ∀ message ∈ messages, message.isExpired now = !lasts message)
    (hexpired : ∀ message ∈ messages, message.isExpired now = true) :
    messages.filter lasts = [] := by
  refine List.filter_eq_nil_iff.2 fun message hmem => ?_
  have hlasts := h message hmem
  rw [hexpired message hmem] at hlasts
  simpa using hlasts.symm

end Shared

namespace Crew

namespace Pool

/-- The books of readers agree with their broker. -/
structure Even (lasts : Message → Bool) (name : String) (pool : Pool) : Prop where
  sound : pool.env.broker.contents.Sound
  seated : ∀ index seat, pool.seats index = some seat →
    Seated name pool.env seat (pool.pending index)
  apart : ∀ index other seat seat', pool.seats index = some seat →
    pool.seats other = some seat' → seat.session.index = seat'.session.index → index = other
  queue : pool.env.broker.published (.queue name) = pool.gone ++ pool.env.broker.queue name
  taken : pool.taken.map (·.2) = pool.gone.filter lasts
  nodup : (pool.taken.map (·.2.id)).Nodup
  paid : pool.paid.map (·.2) = pool.env.broker.acknowledged
  settled : ∀ index, (own index pool.paid ++ (pool.pending index).map (·.id)).map some =
    (own index pool.taken).map (·.id)

variable {schedule : Schedule} {lasts : Message → Bool} {name : String} {pool : Pool}

/-- The books stay even while others go on. -/
theorem Even.proceeds (h : pool.Even lasts name) {env : Shared}
    (hproceeds : pool.env.Proceeds env) : Even lasts name { pool with env := env } := by
  have happends := hproceeds.passes.appends trivial
  obtain ⟨new, hqueue, hhistory⟩ := happends.queue name
  constructor
  · exact h.sound.of_spares hproceeds.passes.spares
  · exact fun index seat hseat => (h.seated index seat hseat).proceeds hproceeds
  · exact h.apart
  · change env.broker.contents.history name = pool.gone ++ env.broker.contents.queue name
    rw [hhistory, hqueue, ← List.append_assoc]
    exact congrArg (· ++ new) h.queue
  · exact h.taken
  · exact h.nodup
  · obtain ⟨-, -, -, hacknowledged⟩ := happends
    exact h.paid.trans hacknowledged.symm
  · exact h.settled

/-- The books after a reader sat down. -/
def sit (pool : Pool) (index : Nat) (seat : Seat) (env : Shared) : Pool :=
  { pool with seats := Function.update pool.seats index (some seat), env := env }

/-- A reader that sits down at a session of its own has nothing there yet. -/
theorem Even.sit (h : pool.Even lasts name) {index : Nat} {seat : Seat} {env : Shared}
    (hproceeds : pool.env.Proceeds env) (hpending : pool.pending index = [])
    (hseated : Seated name env seat [])
    (hfresh : ∀ other seat', pool.seats other = some seat' →
      seat'.session.index ≠ seat.session.index) :
    (pool.sit index seat env).Even lasts name := by
  have hbefore := h.proceeds hproceeds
  constructor
  · exact hbefore.sound
  · intro other found hfound
    change Function.update pool.seats index (some seat) other = some found at hfound
    by_cases ho : other = index
    · subst ho
      rw [Function.update_self] at hfound
      obtain rfl := Option.some.inj hfound
      change Seated name env seat (pool.pending other)
      rwa [hpending]
    · rw [Function.update_of_ne ho] at hfound
      exact hbefore.seated other found hfound
  · intro first second seat₁ seat₂ h₁ h₂ hsame
    change Function.update pool.seats index (some seat) first = some seat₁ at h₁
    change Function.update pool.seats index (some seat) second = some seat₂ at h₂
    -- Nobody sat at the new session before, so only the reader itself does.
    by_cases hf : first = index
    · by_cases hs : second = index
      · exact hf.trans hs.symm
      · rw [hf, Function.update_self] at h₁
        rw [Function.update_of_ne hs] at h₂
        obtain rfl := Option.some.inj h₁
        exact (hfresh second seat₂ h₂ hsame.symm).elim
    · by_cases hs : second = index
      · rw [Function.update_of_ne hf] at h₁
        rw [hs, Function.update_self] at h₂
        obtain rfl := Option.some.inj h₂
        exact (hfresh first seat₁ h₁ hsame).elim
      · rw [Function.update_of_ne hf] at h₁
        rw [Function.update_of_ne hs] at h₂
        exact h.apart first second seat₁ seat₂ h₁ h₂ hsame
  · exact hbefore.queue
  · exact h.taken
  · exact h.nodup
  · exact hbefore.paid
  · exact h.settled

/-- Who goes on when one reader changes what its session holds: everybody, as long as the reader
itself does. -/
theorem Even.reseat (h : pool.Even lasts name) {index : Nat} {seat : Seat}
    (hseat : pool.seats index = some seat) {pending : List PendingDelivery}
    {request : BrokerRequest} {answer : request.Answer} {now : Int64} {broker : Broker}
    (hgranted : pool.env.broker.perform now request = (.ok answer, broker))
    (htouched : pool.env.broker.touched? (.request request) = some seat.session.index)
    (hsteady : request.isSteady = true)
    (hown : ∃ session, broker.sessions[seat.session.index]? = some session ∧
      session.mode = .client ∧ session.closed = false ∧
        session.held.map (·.id) = pending.map (·.id))
    {other : Nat} {seat' : Seat} (hother : pool.seats other = some seat') :
    Seated name (pool.env.add (.broker request) (.done answer) broker) seat'
      (Function.update pool.pending index pending other) := by
  have hspares := Broker.spares_of_touched hgranted htouched
  have hsessions := pool.env.subset_sessions_add (.broker request) (.done answer) broker
  by_cases ho : other = index
  · subst ho
    obtain rfl := Option.some.inj (hseat.symm.trans hother)
    obtain ⟨hopened, -, ⟨of, hof, hqueue, hindex⟩, hdelivers⟩ := h.seated other seat hseat
    obtain ⟨later, hlater, hdestination, hsame⟩ := hspares.consumers _ _ hof
    rw [Function.update_self]
    exact ⟨hsessions hopened, hown,
      ⟨later, hlater, hdestination.trans hqueue, hsame.trans hindex⟩,
      hdelivers.perform hsteady hgranted⟩
  · -- The others sit at other sessions, which are left alone.
    rw [Function.update_of_ne ho]
    have hseated := h.seated other seat' hother
    exact hseated.of_spares hspares
      (fun he => ho (h.apart other index seat' seat hother hseat he)) hsessions
      (hseated.delivers.perform hsteady hgranted)

/-- A message that a reader is given has an identifier. -/
theorem Even.exists_id (h : pool.Even lasts name) {index : Nat} {seat : Seat}
    (hseat : pool.seats index = some seat) {now : Int64} {message : Message} {broker : Broker}
    (hgranted : pool.env.broker.perform now (.receive seat.consumer) =
      (.ok (some message), broker)) : ∃ id, message.id = some id := by
  obtain ⟨-, -, ⟨of, hof, hqueue, -⟩, -⟩ := h.seated index seat hseat
  have hmem := Contents.mem_waiting_of_next? hqueue (Broker.next?_of_receive hgranted hof)
  have hcirculating : Waiting.flagged ⟨name, message⟩ ∈ pool.env.broker.contents.circulating :=
    List.mem_append_left _ (List.mem_map_of_mem hmem)
  exact Option.isSome_iff_exists.1 (h.sound.isSome_id hcirculating)

/-- A message waits on a queue only if it was accepted for it. -/
theorem Even.mem_published (h : pool.Even lasts name) {message : Message}
    (hmem : message ∈ pool.env.broker.queue name) :
    message ∈ pool.env.broker.published (.queue name) := by
  rw [h.queue]
  exact List.mem_append_right _ hmem

/-- What waits for its acknowledgment was taken. -/
theorem Even.mem_taken (h : pool.Even lasts name) {index : Nat} {entry : PendingDelivery}
    (hmem : entry ∈ pool.pending index) : some entry.id ∈ pool.taken.map (·.2.id) := by
  have hown : some entry.id ∈ (own index pool.taken).map (·.id) := by
    rw [← h.settled index]
    exact List.mem_map_of_mem (List.mem_append_right _ (List.mem_map_of_mem hmem))
  obtain ⟨message, hmessage, hid⟩ := List.mem_map.1 hown
  exact List.mem_map.2 ⟨(index, message), mem_own.1 hmessage, hid⟩

/-- The books after a reader took a message. Expired messages in front of it left the queue too. -/
def take (pool : Pool) (index : Nat) (message : Message) (id : MessageId) (expired : List Message)
    (env : Shared) : Pool :=
  { pool with
    pending := Function.update pool.pending index (pool.pending index ++ [⟨id, message.timestamp⟩])
    gone := pool.gone ++ (expired ++ [message])
    taken := pool.taken ++ [(index, message)]
    env := env }

/-- What was taken has identifiers of its own. -/
theorem nodup_taken {taken : List (Nat × Message)} {gone rest : List Message}
    (htaken : taken.map (·.2) = gone.filter lasts) (hdistinct : ((gone ++ rest).map (·.id)).Nodup) :
    (taken.map (·.2.id)).Nodup := by
  have hids : taken.map (·.2.id) = (taken.map (·.2)).map (·.id) := by simp
  rw [hids, htaken]
  exact hdistinct.sublist
    ((List.filter_sublist.trans (List.sublist_append_left gone rest)).map _)

/-- The settlements of readers after one took a message. -/
theorem Even.settled_receive (h : pool.Even lasts name) {index : Nat} {message : Message}
    {id : MessageId} (identified : message.id = some id) (expired : List Message) (env : Shared)
    (other : Nat) :
    (own other (pool.take index message id expired env).paid ++
        ((pool.take index message id expired env).pending other).map (·.id)).map some =
      (own other (pool.take index message id expired env).taken).map (·.id) := by
  change (own other pool.paid ++ (Function.update pool.pending index _ other).map (·.id)).map
    some = (own other (pool.taken ++ [message].map (index, ·))).map (·.id)
  rw [own_append]
  by_cases ho : other = index
  · subst ho
    rw [Function.update_self, own_self]
    calc (own other pool.paid ++ (pool.pending other ++
          [PendingDelivery.mk id message.timestamp]).map (·.id)).map some
        = (own other pool.paid ++ (pool.pending other).map (·.id)).map some ++ [some id] := by
          simp
      _ = (own other pool.taken).map (·.id) ++ [message.id] := by rw [h.settled, identified]
      _ = (own other pool.taken ++ [message]).map (·.id) := by simp
  · rw [Function.update_of_ne ho, own_of_ne (Ne.symm ho), List.append_nil]
    exact h.settled other

/-- A reader that is given a message takes it from all the others. -/
theorem Even.receive (h : pool.Even lasts name) {index : Nat} {seat : Seat}
    (hseat : pool.seats index = some seat) {number : Nat} (hnumber : number = pool.env.log.length)
    {message : Message} {id : MessageId} {broker : Broker}
    (hgranted : pool.env.broker.perform (schedule number).now (.receive seat.consumer) =
      (.ok (some message), broker))
    (identified : message.id = some id)
    (hsettles : (pool.env.add (.broker (.receive seat.consumer)) (.done (some message))
      broker).Settles schedule name lasts) :
    ∃ expired, Even lasts name (pool.take index message id expired
      (pool.env.add (.broker (.receive seat.consumer)) (.done (some message)) broker)) := by
  obtain ⟨-, ⟨session, found, client, isOpen, hheld⟩, ⟨of, hof, hqueue, hindex⟩, -⟩ :=
    h.seated index seat hseat
  rw [← hindex] at found
  obtain ⟨expired, hsplit, hexpired, hlive, hpublished, hacknowledged⟩ :=
    Broker.exists_expired_of_receive hgranted hof hqueue found client identified
  have hfound : ∀ other ∈ expired ++ [message], other.isExpired (schedule number).now =
      !lasts other := by
    intro other hother
    refine hsettles.isExpired hnumber (h.mem_published ?_)
    rw [hsplit, List.append_cons]
    exact List.mem_append_left _ hother
  have hmessage : lasts message = true := by
    have hlast := hfound message (by simp)
    rw [hlive] at hlast
    simpa using hlast.symm
  -- Of what leaves the queue only the message itself lasts.
  have hothers : expired.filter lasts = [] :=
    Shared.filter_lasts_eq_nil (fun other hother => hfound other (List.mem_append_left _ hother))
      hexpired
  have hhistory : broker.published (.queue name) =
      (pool.gone ++ (expired ++ [message])) ++ broker.queue name := by
    rw [hpublished, h.queue, hsplit]
    simp
  have htaken : (pool.taken ++ [(index, message)]).map (·.2) =
      (pool.gone ++ (expired ++ [message])).filter lasts := by
    rw [List.map_append, h.taken, List.filter_append, List.filter_append, hothers]
    simp [hmessage]
  have hdistinct := hsettles.distinct
  change ((broker.published (.queue name)).map (·.id)).Nodup at hdistinct
  rw [hhistory] at hdistinct
  have hnodup := nodup_taken htaken hdistinct
  -- The session holds what its reader took, and no message was taken twice.
  have hnew : id ∉ session.held.map (·.id) := by
    rw [hheld]
    intro hmem
    obtain ⟨entry, hentry, rfl⟩ := List.mem_map.1 hmem
    rw [List.map_append] at hnodup
    exact (List.nodup_append.1 hnodup).2.2 _ (h.mem_taken hentry) _
      (by simp [identified]) rfl
  obtain ⟨later, hlater, hclient, hclosed, hlist⟩ :=
    Broker.exists_held_of_receive hgranted hof found client identified hnew
  refine ⟨expired, ?_⟩
  constructor
  · exact h.sound.of_spares (Broker.spares_granted hgranted)
  · intro other seat' hother
    refine h.reseat hseat hgranted (by simp [Broker.touched?, hof, hindex]) rfl ?_ hother
    rw [← hindex]
    refine ⟨later, hlater, hclient, hclosed.trans isOpen, ?_⟩
    rw [hlist, hheld, List.map_append, List.map_singleton]
  · exact h.apart
  · exact hhistory
  · exact htaken
  · exact hnodup
  · exact h.paid.trans hacknowledged.symm
  · exact h.settled_receive identified expired _

/-- The books after everything that waited on the queue was found expired. -/
def clear (pool : Pool) (expired : List Message) (env : Shared) : Pool :=
  { pool with gone := pool.gone ++ expired, env := env }

/-- A reader that is given nothing leaves an empty queue. -/
theorem Even.findNothing (h : pool.Even lasts name) {index : Nat} {seat : Seat}
    (hseat : pool.seats index = some seat) {number : Nat} (hnumber : number = pool.env.log.length)
    {broker : Broker}
    (hgranted : pool.env.broker.perform (schedule number).now (.receive seat.consumer) =
      (.ok none, broker))
    (hsettles : (pool.env.add (.broker (.receive seat.consumer)) (.done none) broker).Settles
      schedule name lasts) :
    broker.queue name = [] ∧ ∃ expired, Even lasts name (pool.clear expired
      (pool.env.add (.broker (.receive seat.consumer)) (.done none) broker)) := by
  obtain ⟨-, hholds, ⟨of, hof, hqueue, hindex⟩, hdelivers⟩ := h.seated index seat hseat
  obtain ⟨hexpired, hempty, hpublished, hacknowledged, hsessions⟩ :=
    Broker.isExpired_of_receive_none hgranted hof hqueue (hindex ▸ hdelivers)
  have hothers : (pool.env.broker.queue name).filter lasts = [] :=
    Shared.filter_lasts_eq_nil
      (fun other hother => hsettles.isExpired hnumber (h.mem_published hother)) hexpired
  refine ⟨hempty, pool.env.broker.queue name, ?_⟩
  constructor
  · exact h.sound.of_spares (Broker.spares_granted hgranted)
  · intro other seat' hother
    rw [← hsessions] at hholds
    have hseated := h.reseat hseat hgranted (by simp [Broker.touched?, hof, hindex]) rfl hholds
      hother
    rwa [Function.update_eq_self] at hseated
  · exact h.apart
  · change broker.published _ = (pool.gone ++ _) ++ broker.queue name
    rw [hpublished, hempty, List.append_nil]
    exact h.queue
  · change _ = (pool.gone ++ _).filter _
    rw [List.filter_append, hothers, List.append_nil]
    exact h.taken
  · exact h.nodup
  · exact h.paid.trans hacknowledged.symm
  · exact h.settled

/-- The books after a reader acknowledged the first message that waited for it. -/
def pay (pool : Pool) (index : Nat) (id : MessageId) (rest : List PendingDelivery) (env : Shared) :
    Pool :=
  { pool with
    pending := Function.update pool.pending index rest
    paid := pool.paid ++ [(index, id)]
    env := env }

/-- What waits for its acknowledgment at one session has identifiers of its own. -/
theorem Even.nodup_pending (h : pool.Even lasts name) (index : Nat) :
    ((pool.pending index).map (·.id)).Nodup := by
  have hown : ((own index pool.taken).map (·.id)).Nodup := by
    have hids : pool.taken.map (·.2.id) = (pool.taken.map (·.2)).map (·.id) := by simp
    exact (hids ▸ h.nodup).sublist ((own_sublist index pool.taken).map _)
  rw [← h.settled index] at hown
  exact (List.nodup_append.1 (List.Nodup.of_map _ hown)).2.1

/-- The settlements of readers after one acknowledged a message. -/
theorem Even.settled_pay (h : pool.Even lasts name) {index : Nat} {entry : PendingDelivery}
    {rest : List PendingDelivery} (hpending : pool.pending index = entry :: rest) (env : Shared)
    (other : Nat) :
    (own other (pool.pay index entry.id rest env).paid ++
        ((pool.pay index entry.id rest env).pending other).map (·.id)).map some =
      (own other (pool.pay index entry.id rest env).taken).map (·.id) := by
  change (own other (pool.paid ++ [entry.id].map (index, ·)) ++
    (Function.update pool.pending index rest other).map (·.id)).map some = _
  rw [own_append]
  by_cases ho : other = index
  · subst ho
    have hsettled := h.settled other
    rw [hpending] at hsettled
    rw [Function.update_self, own_self, List.append_assoc]
    exact hsettled
  · rw [Function.update_of_ne ho, own_of_ne (Ne.symm ho), List.append_nil]
    exact h.settled other

/-- A reader that acknowledges a message lets go of it. -/
theorem Even.acknowledge (h : pool.Even lasts name) {index : Nat} {seat : Seat}
    (hseat : pool.seats index = some seat) {entry : PendingDelivery}
    {rest : List PendingDelivery} (hpending : pool.pending index = entry :: rest) {now : Int64}
    {broker : Broker}
    (hgranted : pool.env.broker.perform now (.acknowledge seat.session entry.id) =
      (.ok (), broker)) :
    Even lasts name (pool.pay index entry.id rest
      (pool.env.add (.broker (.acknowledge seat.session entry.id)) (.done ()) broker)) := by
  obtain ⟨-, ⟨session, found, client, isOpen, hheld⟩, -, -⟩ := h.seated index seat hseat
  obtain ⟨-, hcontents⟩ := Broker.contents_of_acknowledge hgranted found client
  have hacknowledged : broker.acknowledged = pool.env.broker.acknowledged ++ [entry.id] :=
    congrArg Contents.acknowledged hcontents
  have hqueue : broker.queue name = pool.env.broker.queue name :=
    congrArg (fun contents : Contents => contents.queue name) hcontents
  have hpublished : broker.published (.queue name) = pool.env.broker.published (.queue name) :=
    congrArg (fun contents : Contents => contents.history name) hcontents
  have hnodup := h.nodup_pending index
  rw [hpending, List.map_cons] at hnodup hheld
  obtain ⟨later, hlater, hclient, hclosed, hrest⟩ :=
    Broker.exists_held_of_acknowledge hgranted found client hheld (List.nodup_cons.1 hnodup).1
  constructor
  · exact h.sound.of_spares (Broker.spares_granted hgranted)
  · intro other seat' hother
    exact h.reseat hseat hgranted rfl rfl ⟨later, hlater, hclient, hclosed.trans isOpen, hrest⟩
      hother
  · exact h.apart
  · change broker.published _ = pool.gone ++ broker.queue name
    rw [hpublished, hqueue]
    exact h.queue
  · exact h.taken
  · exact h.nodup
  · change (pool.paid ++ [(index, entry.id)]).map (·.2) = broker.acknowledged
    rw [hacknowledged, List.map_append, h.paid]
    rfl
  · exact h.settled_pay hpending _

/-- Nobody's acknowledgment fails while the session of the reader holds the message. -/
theorem Even.granted (h : pool.Even lasts name) {index : Nat} {seat : Seat}
    (hseat : pool.seats index = some seat) {entry : PendingDelivery}
    (hentry : entry ∈ pool.pending index) (now : Int64) :
    ∃ broker, pool.env.broker.perform now (.acknowledge seat.session entry.id) =
      (.ok (), broker) := by
  obtain ⟨-, ⟨session, found, -, isOpen, hheld⟩, -, -⟩ := h.seated index seat hseat
  have hmem : entry.id ∈ session.held.map (·.id) := hheld ▸ List.mem_map_of_mem hentry
  exact Broker.exists_acknowledge found isOpen (List.mem_map.1 hmem) now

/-- The books after a reader acknowledged everything that waited for it. -/
def settle (pool : Pool) (index : Nat) (env : Shared) : Pool :=
  { pool with
    pending := Function.update pool.pending index []
    paid := pool.paid ++ (pool.pending index).map fun entry => (index, entry.id)
    env := env }

/-- The first message that is acknowledged is one of all. -/
theorem settle_pay {index : Nat} {entry : PendingDelivery} {rest : List PendingDelivery}
    (h : pool.pending index = entry :: rest) (env env' : Shared) :
    (pool.pay index entry.id rest env).settle index env' = pool.settle index env' := by
  simp [settle, pay, h]

/-- Where nothing waits, nothing is to be acknowledged. -/
theorem settle_of_nil {index : Nat} (h : pool.pending index = []) (env : Shared) :
    pool.settle index env = { pool with env := env } := by
  simp [settle, h, Function.update_eq_self_iff]

/-- Once nothing waits for its acknowledgment, what was acknowledged is what was taken. -/
theorem Even.perm_of_pending (h : pool.Even lasts name)
    (hpending : ∀ index, pool.pending index = []) :
    (pool.env.broker.acknowledged.map some).Perm (pool.taken.map (·.2.id)) := by
  have hown : ∀ index, own index (pool.paid.map fun entry => (entry.1, some entry.2)) =
      own index (pool.taken.map fun entry => (entry.1, entry.2.id)) := by
    intro index
    have hsettled := h.settled index
    rw [hpending, List.map_nil, List.append_nil] at hsettled
    simpa [own, List.filter_map, Function.comp_def] using hsettled
  have hperm := (perm_of_own hown).map (·.2)
  rw [← h.paid]
  simpa [Function.comp_def] using hperm

end Pool

end Crew

end BrokerConnector
