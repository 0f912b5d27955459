import BrokerConnector.Proofs.Calls

/-!
# The mark mirrors the session

While a reader is attached to a session of a queue, the entries of its mark are the deliveries that
the session holds, in order. `Ledger.Mirrors` says so of one ledger, `Ledger.Coherent` of a ledger
that may be detached, and every transition keeps it. The two lists can only be told apart by
identifiers, so they agree as long as no identifier was accepted twice for the queue.

A broker that mirrors the mark denies no entry, so a mark that is finalized drops none. When the
session is closed, the entries that are left are what goes back to the head of the queue.
-/

namespace BrokerConnector

open BrokerConnector.Action

/-- The entry of a held delivery. -/
def Delivery.entry (delivery : Delivery) : PendingDelivery :=
  ⟨delivery.id, delivery.message.timestamp⟩

/-- What a held delivery of a queue puts back. -/
def Delivery.back (name : String) (delivery : Delivery) : Waiting :=
  ⟨name, { delivery.message with redelivered := true }⟩

/-- A delivery of a message of a queue under its identifier. -/
def Delivery.IsOf (name : String) (delivery : Delivery) : Prop :=
  delivery.destination = .queue name ∧ delivery.message.id = some delivery.id

/-- Deliveries of a queue all go back to it. -/
theorem Delivery.requeued_eq {name : String} {held : List Delivery}
    (h : ∀ delivery ∈ held, delivery.IsOf name) :
    held.filterMap Delivery.requeued = held.map (Delivery.back name) := by
  rw [← List.filterMap_eq_map]
  refine List.filterMap_congr fun delivery hdelivery => ?_
  unfold Delivery.requeued
  rw [(h delivery hdelivery).1]
  rfl

/-- What goes back has the identifiers of the deliveries. -/
theorem Contents.idsOn_requeued {name : String} {held : List Delivery}
    (h : ∀ delivery ∈ held, delivery.IsOf name) :
    idsOn name (held.filterMap Delivery.requeued) = held.map fun delivery => some delivery.id := by
  rw [Delivery.requeued_eq h, idsOn, List.filter_eq_self.2, List.map_map]
  · exact List.map_congr_left fun delivery hdelivery => (h delivery hdelivery).2
  · intro waiting hwaiting
    obtain ⟨delivery, -, rfl⟩ := List.mem_map.1 hwaiting
    simp [Delivery.back]

namespace Contents

variable {contents : Contents} {name : String} {index : Nat} {session : Session}

/-- What waits on a queue and what a session holds of it have different identifiers. -/
theorem Sound.nodup_held (hsound : contents.Sound) (hdistinct : contents.Distinct name)
    (found : contents.sessions[index]? = some session)
    (hheld : ∀ delivery ∈ session.held, delivery.IsOf name) :
    (idsOn name contents.waiting ++ session.held.map fun delivery => some delivery.id).Nodup := by
  have hnodup := hsound.nodup_circulating hdistinct
  rw [Contents.circulating, idsOn_append, idsOn_map_flagged] at hnodup
  have hsub : (session.held.filterMap Delivery.requeued).Sublist contents.held :=
    List.sublist_flatten_of_mem (List.mem_map_of_mem (List.mem_of_getElem? found))
  rw [← idsOn_requeued hheld]
  exact hnodup.sublist (((hsub.filter _).map _).append_left _)

/-- The next message of a consumer of a queue waits on the queue. -/
theorem mem_waiting_of_next? {now : Int64} {consumer : Consumer} {message : Message}
    (hqueue : consumer.destination = .queue name)
    (h : contents.next? now consumer = some message) : ⟨name, message⟩ ∈ contents.waiting := by
  unfold next? source at h
  rw [hqueue] at h
  have hmem := (List.dropWhile_sublist _).subset (List.mem_of_mem_head? h)
  obtain ⟨waiting, hwaiting, rfl⟩ := List.mem_map.1 hmem
  obtain ⟨hin, hname⟩ := List.mem_filter.1 hwaiting
  obtain rfl : waiting.queue = name := by simpa using hname
  exact hin

end Contents

/-- Whatever a broker grants, more is accepted at most. -/
theorem Broker.spares_granted {broker after : Broker} {now : Int64} {request : BrokerRequest}
    {answer : request.Answer} (h : broker.perform now request = (.ok answer, after)) :
    Contents.Spares (fun _ => False) broker.contents after.contents := by
  have hoperate : broker.operate now (.request request) = after := by
    rw [operate, h]
  rw [← hoperate]
  exact broker.spares_operate now fun _ => False.elim

namespace Ledger

variable {calm : Prop} {name : String} {before after : Ledger}

/-- Along a transition more is accepted at most. -/
theorem Step.spares (h : Step calm name before after) :
    Contents.Spares (fun _ => False) before.env.broker.contents after.env.broker.contents := by
  cases h with
  | pass env passes => exact passes.spares.mono fun _ => False.elim
  | findNothing _ _ _ _ _ granted => exact Broker.spares_granted granted
  | refuse _ _ _ _ _ _ granted => exact Broker.spares_granted granted
  | receive _ _ _ _ _ _ _ granted => exact Broker.spares_granted granted
  | acknowledge _ _ _ _ _ _ _ _ granted => exact Broker.spares_granted granted
  | release _ _ _ _ _ granted => exact Broker.spares_granted granted
  | attach => exact .refl _ _
  | drop => exact .refl _ _
  | letGo => exact .refl _ _
  | leave => exact .refl _ _

/-- Along transitions more is accepted at most. -/
theorem Steps.spares (h : Steps calm name before after) :
    Contents.Spares (fun _ => False) before.env.broker.contents after.env.broker.contents := by
  induction h with
  | refl => exact .refl _ _
  | tail _ hstep ih => exact ih.trans hstep.spares

/-- A ledger that is attached to a session of its queue, which holds what waits for its
acknowledgment. -/
structure Mirrors (name : String) (ledger : Ledger) (handle : SessionHandle)
    (consumer : ConsumerHandle) (session : Session) : Prop where
  opened : handle.index ∈ ledger.env.sessions
  found : ledger.env.broker.sessions[handle.index]? = some session
  client : session.mode = .client
  isOpen : session.closed = false
  bound : ∃ of, ledger.env.broker.consumers[consumer.index]? = some of ∧
    of.destination = .queue name ∧ of.session = handle.index
  deliveries : ∀ delivery ∈ session.held, delivery.IsOf name
  same : ledger.env.broker.contents.Distinct name → ledger.pending = session.held.map Delivery.entry

/-- A ledger whose session, if it is attached to one, holds what waits for its acknowledgment. -/
structure Coherent (name : String) (ledger : Ledger) : Prop where
  sound : ledger.env.broker.contents.Sound
  mirrored : ∀ handle consumer, ledger.hold = .held handle consumer →
    ∃ session, ledger.Mirrors name handle consumer session

variable {handle : SessionHandle} {consumer : ConsumerHandle} {session : Session}
  {ledger : Ledger}

/-- A ledger that is detached is coherent at a sound broker. -/
theorem coherent_of_not_held (hsound : ledger.env.broker.contents.Sound)
    (h : ledger.hold.isHeld = false) : ledger.Coherent name := by
  refine ⟨hsound, fun handle consumer hold => ?_⟩
  rw [hold] at h
  cases h

/-- A reader that only waits stays attached to its session. -/
theorem Mirrors.pass {env : Shared} (h : ledger.Mirrors name handle consumer session)
    (hold : ledger.hold = .held handle consumer)
    (hpasses : Shared.Passes calm True ledger.hold.Keeps ledger.env env) :
    Mirrors name { ledger with env := env } handle consumer session where
  opened := hpasses.sessions h.opened
  found := hpasses.spares.sessions _ _ ⟨handle, consumer, hold, rfl⟩ h.found
  client := h.client
  isOpen := h.isOpen
  bound := by
    obtain ⟨of, hof, hqueue, hsession⟩ := h.bound
    obtain ⟨later, hlater, hdestination, hsame⟩ := hpasses.spares.consumers _ _ hof
    exact ⟨later, hlater, hdestination.trans hqueue, hsame.trans hsession⟩
  deliveries := h.deliveries
  same := fun hdistinct => h.same (.of_spares hpasses.spares hdistinct)

/-- A reader that attaches to a fresh session has nothing to acknowledge. -/
theorem mirrors_attach (opened : handle.index ∈ ledger.env.sessions)
    (found : ledger.env.broker.sessions[handle.index]? = some session)
    (client : session.mode = .client) (isOpen : session.closed = false) (empty : session.held = [])
    (bound : ∃ of, ledger.env.broker.consumers[consumer.index]? = some of ∧
      of.destination = .queue name ∧ of.session = handle.index)
    (pending : ledger.pending = []) : ledger.Mirrors name handle consumer session where
  opened := opened
  found := found
  client := client
  isOpen := isOpen
  bound := bound
  deliveries := by simp [empty]
  same := by simp [empty, pending]

/-- A granted request leaves a reader attached to its session, whatever the session holds then. -/
theorem Mirrors.granted {now : Int64} {request : BrokerRequest} {answer : request.Answer}
    {broker : Broker} {changed : Session} (h : before.Mirrors name handle consumer session)
    (granted : before.env.broker.perform now request = (.ok answer, broker))
    (env : after.env = before.env.add (.broker request) (.done answer) broker)
    (found : broker.sessions[handle.index]? = some changed) (client : changed.mode = .client)
    (isOpen : changed.closed = false) (deliveries : ∀ delivery ∈ changed.held, delivery.IsOf name)
    (same : before.env.broker.contents.Distinct name →
      after.pending = changed.held.map Delivery.entry) :
    after.Mirrors name handle consumer changed := by
  have hspares := Broker.spares_granted granted
  have hbroker : after.env.broker = broker := by
    rw [env]
    rfl
  constructor
  · rw [env]
    exact before.env.subset_sessions_add _ _ _ h.opened
  · rw [hbroker]
    exact found
  · exact client
  · exact isOpen
  · obtain ⟨of, hof, hqueue, hsession⟩ := h.bound
    obtain ⟨later, hlater, hdestination, hsame⟩ := hspares.consumers _ _ hof
    rw [hbroker]
    exact ⟨later, hlater, hdestination.trans hqueue, hsame.trans hsession⟩
  · exact deliveries
  · intro hdistinct
    rw [hbroker] at hdistinct
    exact same (.of_spares hspares hdistinct)

/-- A consumer that is given nothing leaves the sessions as they are. -/
theorem Mirrors.findNothing {now : Int64} {broker : Broker}
    (h : before.Mirrors name handle consumer session)
    (granted : before.env.broker.perform now (.receive consumer) = (.ok none, broker)) :
    Mirrors name { before with
      env := before.env.add (.broker (.receive consumer)) (.done none) broker }
      handle consumer session := by
  obtain ⟨of, hof, -, hsession⟩ := h.bound
  have hsessions : broker.sessions = before.env.broker.sessions := by
    rcases Broker.contents_of_receive_none granted hof (hsession ▸ h.found) with
      ⟨hsame, -⟩ | ⟨-, hsame⟩
    · exact congrArg Contents.sessions hsame
    · exact (congrArg Contents.sessions hsame).trans (Contents.sessions_withoutTaken _ _ _ _)
  refine h.granted granted rfl ?_ h.client h.isOpen h.deliveries h.same
  rw [hsessions]
  exact h.found

/-- A message that a consumer of a queue is given waited on the queue. -/
theorem Mirrors.waited {now : Int64} {broker : Broker} {message : Message}
    (h : before.Mirrors name handle consumer session)
    (granted : before.env.broker.perform now (.receive consumer) = (.ok (some message), broker)) :
    ⟨name, message⟩ ∈ before.env.broker.waiting := by
  obtain ⟨of, hof, hqueue, hsession⟩ := h.bound
  exact Contents.mem_waiting_of_next? hqueue (Broker.next?_of_receive granted hof)

/-- A reader of a queue is given no message without identifier. -/
theorem Mirrors.isSome_id {now : Int64} {broker : Broker} {message : Message}
    (h : before.Mirrors name handle consumer session)
    (hsound : before.env.broker.contents.Sound)
    (granted : before.env.broker.perform now (.receive consumer) = (.ok (some message), broker)) :
    message.id.isSome := by
  have hwaiting := List.mem_map_of_mem (f := Waiting.flagged) (h.waited granted)
  exact hsound.isSome_id (List.mem_append_left _ hwaiting)

/-- A message that is received joins what the session holds and what the mark lists. -/
theorem Mirrors.receive {now : Int64} {broker : Broker} {message : Message} {id : MessageId}
    (h : before.Mirrors name handle consumer session)
    (hsound : before.env.broker.contents.Sound)
    (granted : before.env.broker.perform now (.receive consumer) = (.ok (some message), broker))
    (identified : message.id = some id)
    (pending : after.pending = before.pending ++ [⟨id, message.timestamp⟩])
    (env : after.env = before.env.add (.broker (.receive consumer)) (.done (some message)) broker) :
    after.Mirrors name handle consumer { session with
      held := session.held.filter (·.id ≠ id) ++ [⟨id, .queue name, message⟩] } := by
  obtain ⟨of, hof, hqueue, hsession⟩ := h.bound
  have hsessions := Broker.session_of_receive granted hof (hsession ▸ h.found) h.client identified
  rw [hsession, hqueue] at hsessions
  refine h.granted granted env hsessions h.client h.isOpen ?_ ?_
  · intro delivery hdelivery
    rcases List.mem_append.1 hdelivery with hold | hnew
    · exact h.deliveries delivery (List.mem_of_mem_filter hold)
    · obtain rfl := List.mem_singleton.1 hnew
      exact ⟨rfl, identified⟩
  · intro hdistinct
    -- The message waited, so the session does not hold its identifier and loses no delivery to it.
    have hnodup := hsound.nodup_held hdistinct h.found h.deliveries
    have hwaits : some id ∈ Contents.idsOn name before.env.broker.contents.waiting := by
      refine List.mem_map.2 ⟨_, List.mem_filter.2 ⟨h.waited granted, by simp⟩, identified⟩
    have hfilter : session.held.filter (·.id ≠ id) = session.held := by
      refine List.filter_eq_self.2 fun delivery hdelivery => ?_
      have hne := (List.nodup_append.1 hnodup).2.2 _ hwaits _ (List.mem_map_of_mem hdelivery)
      simpa using fun he : delivery.id = id => hne (he ▸ rfl)
    rw [pending, h.same hdistinct, hfilter, List.map_append]
    rfl

/-- A delivery that is acknowledged leaves the session and the mark. -/
theorem Mirrors.acknowledge {now : Int64} {broker : Broker} {entry : PendingDelivery}
    {rest : List PendingDelivery} (h : before.Mirrors name handle consumer session)
    (hsound : before.env.broker.contents.Sound) (first : before.pending = entry :: rest)
    (granted : before.env.broker.perform now (.acknowledge handle entry.id) = (.ok (), broker))
    (pending : after.pending = rest)
    (env : after.env = before.env.add (.broker (.acknowledge handle entry.id)) (.done ()) broker) :
    after.Mirrors name handle consumer { session with
      held := session.held.filter (·.id ≠ entry.id) } := by
  have hsessions := Broker.session_of_acknowledge granted h.found h.client
  refine h.granted granted env hsessions h.client h.isOpen ?_ ?_
  · exact fun delivery hdelivery => h.deliveries delivery (List.mem_of_mem_filter hdelivery)
  · intro hdistinct
    have hnodup := (List.nodup_append.1 (hsound.nodup_held hdistinct h.found h.deliveries)).2.1
    have hsame := first.symm.trans (h.same hdistinct)
    cases hheld : session.held with
    | nil => simp [hheld] at hsame
    | cons delivery others =>
      rw [hheld, List.map_cons, List.cons.injEq] at hsame
      obtain ⟨rfl, rfl⟩ := hsame
      rw [hheld, List.map_cons, List.nodup_cons] at hnodup
      have hothers : others.filter (·.id ≠ delivery.id) = others := by
        refine List.filter_eq_self.2 fun other hother => ?_
        simpa using fun he : other.id = delivery.id =>
          hnodup.1 (List.mem_map.2 ⟨other, hother, congrArg some he⟩)
      rw [pending, List.filter_cons_of_neg (by simp [Delivery.entry])]
      exact congrArg _ hothers.symm

/-- A broker whose session mirrors the mark denies none of its entries. -/
theorem Mirrors.not_denied {now : Int64} {error : BrokerError} {entry : PendingDelivery}
    {rest : List PendingDelivery} (h : before.Mirrors name handle consumer session)
    (hdistinct : before.env.broker.contents.Distinct name) (first : before.pending = entry :: rest)
    (refused : (before.env.broker.perform now (.acknowledge handle entry.id)).1 = .error error) :
    error.isNotPending = false := by
  refine Broker.isNotPending_of_acknowledge refused h.found ?_
  have hmem : entry ∈ session.held.map Delivery.entry := by
    rw [← h.same hdistinct, first]
    exact List.mem_cons_self
  obtain ⟨delivery, hdelivery, rfl⟩ := List.mem_map.1 hmem
  exact ⟨delivery, hdelivery, rfl⟩

/-- When the session of a reader is closed, what the mark lists goes back to the head. -/
theorem Mirrors.closeSession {now : Int64} {broker : Broker}
    (h : before.Mirrors name handle consumer session)
    (granted : before.env.broker.perform now (.closeSession handle) = (.ok (), broker)) :
    broker.contents.waiting =
      session.held.map (Delivery.back name) ++ before.env.broker.contents.waiting := by
  have hcontents := Broker.contents_of_closeSession granted h.found
  rw [hcontents, ← Delivery.requeued_eq h.deliveries]
  rfl

/-- Every transition keeps the session a mirror of the mark. -/
theorem Coherent.step (h : before.Coherent name) (hstep : Step calm name before after) :
    after.Coherent name := by
  refine ⟨h.sound.of_spares hstep.spares, fun handle consumer hold => ?_⟩
  cases hstep with
  | pass env passes =>
    obtain ⟨session, hmirrors⟩ := h.mirrored handle consumer hold
    have hheld : before.hold.isHeld = true := congrArg Hold.isHeld hold
    exact ⟨session, hmirrors.pass hold (passes.mono id (fun _ => hheld) fun _ => id)⟩
  | attach handle' consumer' session free opened found client isOpen empty bound started =>
    obtain ⟨rfl, rfl⟩ : handle' = handle ∧ consumer' = consumer := by simpa using hold
    exact ⟨session, mirrors_attach opened found client isOpen empty bound rfl⟩
  | findNothing handle' consumer' now broker hold' granted =>
    obtain ⟨rfl, rfl⟩ : handle = handle' ∧ consumer = consumer' := by simpa [hold'] using hold.symm
    obtain ⟨session, hmirrors⟩ := h.mirrored handle consumer hold
    exact ⟨session, hmirrors.findNothing granted⟩
  | refuse handle' consumer' now broker message hold' granted anonymous =>
    obtain ⟨rfl, rfl⟩ : handle = handle' ∧ consumer = consumer' := by simpa [hold'] using hold.symm
    obtain ⟨session, hmirrors⟩ := h.mirrored handle consumer hold
    -- What the consumer takes has an identifier, so the step cannot happen.
    have hsome := hmirrors.isSome_id h.sound granted
    simp [anonymous] at hsome
  | receive handle' consumer' now broker message id hold' granted identified =>
    obtain ⟨rfl, rfl⟩ : handle = handle' ∧ consumer = consumer' := by simpa [hold'] using hold.symm
    obtain ⟨session, hmirrors⟩ := h.mirrored handle consumer hold
    exact ⟨_, hmirrors.receive h.sound granted identified rfl rfl⟩
  | acknowledge handle' consumer' now broker entry rest hold' first granted =>
    obtain ⟨rfl, rfl⟩ : handle = handle' ∧ consumer = consumer' := by simpa [hold'] using hold.symm
    obtain ⟨session, hmirrors⟩ := h.mirrored handle consumer hold
    exact ⟨_, hmirrors.acknowledge h.sound first granted rfl rfl⟩
  | drop handle' consumer' now error entry rest hold' first refused notPending =>
    obtain ⟨rfl, rfl⟩ : handle = handle' ∧ consumer = consumer' := by simpa [hold'] using hold.symm
    obtain ⟨session, hmirrors⟩ := h.mirrored handle consumer hold
    have hpasses : Shared.Passes calm True before.hold.Keeps before.env _ :=
      Shared.passes_failed (.broker (.acknowledge handle entry.id)) error
    have hfailed := hmirrors.pass hold hpasses
    refine ⟨session, hfailed.opened, hfailed.found, hfailed.client, hfailed.isOpen, hfailed.bound,
      hfailed.deliveries, fun hdistinct => ?_⟩
    -- The session holds the first entry, so the broker did not deny it and the step cannot
    -- happen.
    rw [hmirrors.not_denied hdistinct first refused] at notPending
    cases notPending
  | release => cases hold
  | letGo => cases hold
  | leave => cases hold

/-- Transitions keep the session a mirror of the mark. -/
theorem Coherent.steps (h : before.Coherent name) (hsteps : Steps calm name before after) :
    after.Coherent name := by
  induction hsteps with
  | refl => exact h
  | tail _ hstep ih => exact ih.step hstep

/-- No broker denies a delivery as long as no identifier was accepted twice. -/
theorem Coherent.not_disputed (h : before.Coherent name)
    (hdistinct : after.env.broker.contents.Distinct name) : ¬Disputed calm name before after := by
  rintro ⟨denied, ⟨handle, consumer, entry, rest, now, error, hold, first, refused, hnot⟩, hto,
    hfrom⟩
  obtain ⟨session, hmirrors⟩ := (h.steps hto).mirrored handle consumer hold
  rw [hmirrors.not_denied (.of_spares hfrom.spares hdistinct) first refused] at hnot
  cases hnot

end Ledger

/-! ## Watermarks -/

namespace Mark

/-- The watermark of a mark is no later than any of its entries. -/
theorem watermark_le {mark : Mark} {entry : PendingDelivery} (h : entry ∈ mark.pending) :
    mark.watermark ≤ entry.timestamp := by
  have hall : ∀ entries : List PendingDelivery, entry ∈ entries →
      entries.foldr (fun delivery oldest => min delivery.timestamp oldest) noTimestamp ≤
        entry.timestamp := by
    intro entries hmem
    induction entries with
    | nil => cases hmem
    | cons first rest ih =>
      rw [List.foldr_cons]
      rcases List.mem_cons.1 hmem with rfl | hmem
      · exact Std.min_le_left
      · exact Std.le_trans Std.min_le_right (ih hmem)
  exact hall mark.pending h

/-- The watermark of a mark is the timestamp of one of its entries, unless it has none. -/
theorem exists_watermark_eq {mark : Mark} (h : mark.pending ≠ []) :
    ∃ entry ∈ mark.pending, mark.watermark = entry.timestamp := by
  -- With no entry left, the watermark is the latest timestamp, so the entry before has it too.
  have hall : ∀ entries : List PendingDelivery, ∀ first : PendingDelivery,
      ∃ entry ∈ first :: entries,
        (first :: entries).foldr (fun delivery oldest => min delivery.timestamp oldest)
          noTimestamp = entry.timestamp := by
    intro entries
    induction entries with
    | nil =>
      intro first
      have hle : first.timestamp ≤ noTimestamp := Int64.le_maxValue _
      exact ⟨first, List.mem_cons_self, Std.le_antisymm Std.min_le_left
        (Std.le_min_iff.2 ⟨Std.le_refl _, hle⟩)⟩
    | cons second rest ih =>
      intro first
      obtain ⟨entry, hentry, heq⟩ := ih second
      rw [List.foldr_cons, heq]
      have hmin : min first.timestamp entry.timestamp = first.timestamp ∨
          min first.timestamp entry.timestamp = entry.timestamp := Std.min_eq_or
      rcases hmin with hfirst | hrest
      · exact ⟨first, List.mem_cons_self, hfirst⟩
      · exact ⟨entry, List.mem_cons_of_mem _ hentry, hrest⟩
  cases hpending : mark.pending with
  | nil => exact (h hpending).elim
  | cons first rest =>
    rw [watermark, hpending]
    exact hall rest first

end Mark

/-! ## Readers -/

namespace Reader

variable {α : Type} {schedule : Schedule} {name : String}

/-- A reader whose mark lists what its own session of a queue holds, in order. -/
structure MirrorsSession (name : String) (s : Scene (Reader α) Shared) (handle : SessionHandle)
    (session : Session) : Prop where
  attached : s.client.mark.session = some handle
  own : s.client.link.session = some handle
  found : s.env.broker.sessions[handle.index]? = some session
  isOpen : session.closed = false
  deliveries : ∀ delivery ∈ session.held, delivery.IsOf name
  same : s.client.mark.pending = session.held.map Delivery.entry

/-- Whatever is done with a reader of a queue and around it, its ledger stays coherent. -/
theorem coherent_run (hhonest : schedule.NeverDenies) {config : ReadConfig α}
    (hqueue : config.destination = .queue name) {restored : Option Mark}
    (hrestored : ∀ mark, restored = some mark → mark.isAttached = false) (journal : Journal)
    {broker : Broker} (hsound : broker.contents.Sound) (moves : List Move) :
    let s := run schedule moves (opening config restored journal broker)
    ∃ hold delivered, Standing s hold ∧ (s.ledger hold delivered).Coherent name := by
  obtain ⟨hold, delivered, hstanding, hleads⟩ : Continues name _ .free [] _ :=
    (standing_opening config hrestored journal broker).run hhonest hqueue moves
  refine ⟨hold, delivered, hstanding, ?_⟩
  have hcoherent : ((opening config restored journal broker).ledger .free []).Coherent name :=
    Ledger.coherent_of_not_held hsound rfl
  exact hcoherent.steps hleads.steps

variable {s : Scene (Reader α) Shared}

/-- A reader that is at work and whose ledger is coherent mirrors its session. -/
theorem Standing.mirrors_session {hold : Hold} {delivered : List Message}
    (hstanding : Standing s hold) (hcoherent : (s.ledger hold delivered).Coherent name)
    (hdistinct : s.env.broker.contents.Distinct name) (hconsuming : s.client.state = .consuming) :
    ∃ handle consumer session, hold = .held handle consumer ∧
      (s.ledger hold delivered).Mirrors name handle consumer session ∧
        MirrorsSession name s handle session := by
  cases hstanding with
  | fresh state => simp [state] at hconsuming
  | closed state => simp [state] at hconsuming
  | working handle consumer state attached attends =>
    obtain ⟨session, hmirrors⟩ := hcoherent.mirrored handle consumer rfl
    exact ⟨handle, consumer, session, rfl, hmirrors, attached.session,
      (attends handle consumer rfl).1, hmirrors.found, hmirrors.isOpen, hmirrors.deliveries,
      hmirrors.same hdistinct⟩

/-- The watermark of a reader that mirrors its session is the oldest timestamp of what the session
holds. -/
theorem MirrorsSession.watermark {handle : SessionHandle} {session : Session}
    (h : MirrorsSession name s handle session) :
    (session.held = [] → s.client.watermark = Int64.maxValue) ∧
      (session.held ≠ [] → ∃ delivery ∈ session.held,
        s.client.watermark = delivery.message.timestamp) ∧
      ∀ delivery ∈ session.held, s.client.watermark ≤ delivery.message.timestamp := by
  refine ⟨fun hempty => ?_, fun hne => ?_, fun delivery hdelivery => ?_⟩
  · rw [Reader.watermark, Mark.watermark, h.same, hempty]
    rfl
  · have hpending : s.client.mark.pending ≠ [] := by
      rw [h.same]
      simpa using hne
    obtain ⟨entry, hentry, heq⟩ := Mark.exists_watermark_eq hpending
    rw [h.same] at hentry
    obtain ⟨delivery, hdelivery, rfl⟩ := List.mem_map.1 hentry
    exact ⟨delivery, hdelivery, heq⟩
  · have hmem : delivery.entry ∈ s.client.mark.pending := by
      rw [h.same]
      exact List.mem_map_of_mem hdelivery
    exact Mark.watermark_le hmem

/-- A broker that closes the session of a reader puts what the mark lists back at the head of the
queue. -/
theorem requeued_of_closed {hold : Hold} {delivered : List Message} {handle : SessionHandle}
    {consumer : ConsumerHandle} {session : Session} {errors : List BrokerError} {env : Shared}
    {exchange : Exchange} (hhold : hold = .held handle consumer)
    (hmirrors : (s.ledger hold delivered).Mirrors name handle consumer session)
    (hreleases : s.env.Releases False hold.Keeps (some handle) errors env)
    (hmem : exchange ∈ env.log.drop s.env.log.length) (hclosed : exchange.closed? = some handle) :
    exchange.after.contents.waiting =
      session.held.map (Delivery.back name) ++ exchange.before.contents.waiting := by
  have hkept : hold.Keeps handle.index := ⟨handle, consumer, hhold, rfl⟩
  obtain ⟨middle, now, broker, hpasses, hgranted, rfl, -⟩ :=
    hreleases.closed hmem hclosed hkept
  exact (hmirrors.pass hhold hpasses).closeSession hgranted

/-- What goes back at the head of the list of waiting messages is at the head of its queue. -/
theorem queue_of_waiting {before after : Broker} {held : List Delivery}
    (h : after.contents.waiting = held.map (Delivery.back name) ++ before.contents.waiting) :
    after.queue name = held.map (fun delivery => { delivery.message with redelivered := true }) ++
      before.queue name := by
  have hback : (held.map (Delivery.back name)).filter (·.queue = name) =
      held.map (Delivery.back name) := by
    refine List.filter_eq_self.2 fun waiting hwaiting => ?_
    obtain ⟨delivery, -, rfl⟩ := List.mem_map.1 hwaiting
    simp [Delivery.back]
  have hwaiting : after.waiting = held.map (Delivery.back name) ++ before.waiting := h
  rw [Broker.queue, hwaiting, List.filter_append, hback, List.map_append, List.map_map]
  rfl

/-- The mark of a reader that is at work mirrors its session: its entries are what the session
holds, in order. So a reader that is finalized drops no entry as not held, its watermark is the
oldest timestamp that the session holds, and a close of the session puts back exactly what the mark
lists, which keeps its entries. This holds whatever was done with the reader and around it, as long
as no identifier was accepted twice for the queue and no request failed as if the broker denied a
delivery. -/
theorem mark_mirrors_session (hhonest : schedule.NeverDenies) (config : ReadConfig α)
    (hqueue : config.destination = .queue name) (restored : Option Mark)
    (hrestored : ∀ mark, restored = some mark → mark.isAttached = false) (journal : Journal)
    (credentials : Option Credentials) (earlier : List (Int64 × Operation)) (moves : List Move)
    (hrun : run schedule moves
      (opening config restored journal (.after credentials earlier)) = s)
    (hdistinct : ((s.env.broker.published (.queue name)).map (·.id)).Nodup)
    (hconsuming : s.client.state = .consuming) :
    ∃ handle session, MirrorsSession name s handle session ∧
      ((session.held = [] → s.client.watermark = Int64.maxValue) ∧
        (session.held ≠ [] → ∃ delivery ∈ session.held,
          s.client.watermark = delivery.message.timestamp) ∧
        ∀ delivery ∈ session.held, s.client.watermark ≤ delivery.message.timestamp) ∧
      (∀ outcome finalized, finalize (Shared.endpoint schedule) s = (outcome, finalized) →
        ((finalized.env.broker.published (.queue name)).map (·.id)).Nodup →
        finalized.journal.notices = s.journal.notices) ∧
      ∀ outcome closed, close (Shared.endpoint schedule) s = (outcome, closed) →
        closed.client.mark.pending = s.client.mark.pending ∧
        closed.client.mark.isAttached = false ∧
        (∀ exchange ∈ closed.env.log.drop s.env.log.length, exchange.closed? = some handle →
          exchange.after.queue name =
            session.held.map (fun delivery => { delivery.message with redelivered := true }) ++
              exchange.before.queue name) ∧
        (outcome = .done () → ∃ exchange ∈ closed.env.log.drop s.env.log.length,
          exchange.closed? = some handle) := by
  obtain ⟨hold, delivered, hstanding, hcoherent⟩ :=
    coherent_run hhonest hqueue hrestored journal (Broker.sound_after credentials earlier) moves
  rw [hrun] at hstanding hcoherent
  obtain ⟨handle, consumer, session, hhold, hmirrors, hmirrored⟩ :=
    hstanding.mirrors_session hcoherent hdistinct hconsuming
  refine ⟨handle, session, hmirrored, hmirrored.watermark, ?_, ?_⟩
  · intro outcome finalized hfinalize hdistinct'
    have hensures : Ensures (finalize (Shared.endpoint schedule)) s
        (fun _ => Finalized False name s hold delivered)
        (fun _ => Finalized False name s hold delivered) :=
      (ensures_finalize False.elim hhonest hstanding).mono (fun _ _ h => h.1) fun _ _ h => h
    have hfinalized := hensures.state
    rw [hfinalize] at hfinalized
    exact hfinalized.noticed.resolve_right (hcoherent.not_disputed hdistinct')
  · intro outcome closed hclose
    have hensures : Ensures (close (Shared.endpoint schedule)) s
        (fun _ => Closed False name s hold delivered [])
        (fun _ s' => ∃ errors, Closed False name s hold delivered errors s') :=
      ensures_close_of_standing False.elim hstanding
    -- A close that fails has released as much as one that succeeds.
    have hstate : ∃ errors, Closed False name s hold delivered errors
        (close (Shared.endpoint schedule) s).2 :=
      (hensures.mono (fun _ s' h => ⟨[], h⟩) fun _ _ => id).state
    rw [hclose] at hstate
    obtain ⟨errors, hclosed⟩ := hstate
    have hreleases := hclosed.releases
    rw [hmirrored.own] at hreleases
    refine ⟨hclosed.retired.pending, ?_, fun exchange hmem hexchange => ?_, ?_⟩
    · have hsession : closed.client.mark.session = none := hclosed.retired.session
      rw [Mark.isAttached, hsession]
      rfl
    · exact queue_of_waiting (requeued_of_closed hhold hmirrors hreleases hmem hexchange)
    · rintro rfl
      -- Only a close that succeeds tells that the broker granted every release.
      have hgranted := (hensures.of_done hclose).releases
      rw [hmirrored.own] at hgranted
      exact hgranted.exists_closed

/-- A reader that skipped one message and delivered another acknowledges the first, and fails to
acknowledge the second. -/
theorem mark_mirrors_session_strainedSchedule :
    let s := run strainedSchedule [.start, .advance, .finalize]
      (opening (textsOf "orders") (some { pending := [⟨⟨"A"⟩, 1⟩] }) {}
        (.after none (publishing "orders" ["A", "B", "C"])))
    s.client.mark.pending = [⟨⟨"B"⟩, 1⟩, ⟨⟨"C"⟩, 1⟩] ∧
      ∃ handle session, MirrorsSession "orders" s handle session := by
  refine ⟨by decide +kernel, ?_⟩
  obtain ⟨handle, session, hmirrored, -⟩ := mark_mirrors_session neverDenies_strainedSchedule
    (textsOf "orders") rfl (some { pending := [⟨⟨"A"⟩, 1⟩] }) (by simp [Mark.isAttached]) {} none
    (publishing "orders" ["A", "B", "C"]) [.start, .advance, .finalize] rfl (by decide +kernel)
    (by decide +kernel)
  exact ⟨handle, session, hmirrored⟩

end Reader

end BrokerConnector
