import BrokerConnector.Proofs.Mirror

/-!
# What a ledger remembers

A ledger that begins with a list of entries skips the messages that they name, once each, when they
come again. `Ledger.Remembers` relates the identifiers of these entries and of the messages that
were received since to what the ledger lists, skips and delivered. What it neither lists nor skips
any more is out of circulation, so it does not come again; and a message is delivered when it is
received unless the ledger began with it.

Only what circulates is received. So a message that was out of circulation before a stretch of
transitions is not received on it.
-/

namespace BrokerConnector

open List

namespace Contents

variable {contents : Contents} {name : String} {index : Nat} {session : Session} {id : MessageId}

/-- A delivery that its session holds is one of an accepted message. -/
theorem Sound.published_of_held (hsound : contents.Sound)
    (found : contents.sessions[index]? = some session)
    (hheld : ∀ delivery ∈ session.held, delivery.IsOf name)
    (held : ∃ delivery ∈ session.held, delivery.id = id) :
    some id ∈ publishedIds name contents.accepted := by
  obtain ⟨delivery, hdelivery, rfl⟩ := held
  have hsession : some delivery.id ∈ idsOn name (session.held.filterMap Delivery.requeued) := by
    rw [idsOn_requeued hheld]
    exact List.mem_map_of_mem hdelivery
  have hsub : (session.held.filterMap Delivery.requeued).Sublist contents.held :=
    List.sublist_flatten_of_mem (List.mem_map_of_mem (List.mem_of_getElem? found))
  have hcirculating : some delivery.id ∈ idsOn name contents.circulating := by
    rw [Contents.circulating, idsOn_append]
    exact List.mem_append_right _ (((hsub.filter _).map _).subset hsession)
  rw [← idsOn_queued]
  exact (idsOn_subperm name hsound.circulating).subset hcirculating

/-- A delivery that leaves its session for good is out of circulation. -/
theorem Sound.spent_of_filter (hsound : contents.Sound) (hdistinct : contents.Distinct name)
    (found : contents.sessions[index]? = some session)
    (hheld : ∀ delivery ∈ session.held, delivery.IsOf name)
    (held : ∃ delivery ∈ session.held, delivery.id = id) (acknowledged : List MessageId) :
    Spent name id { contents with
      sessions := contents.sessions.set index
        { session with held := session.held.filter (·.id ≠ id) }
      acknowledged := acknowledged } := by
  let kept : Session := { session with held := session.held.filter (·.id ≠ id) }
  let after : Contents := { contents with sessions := contents.sessions.set index kept }
  refine ⟨hsound.published_of_held found hheld held, ?_⟩
  change some id ∉ idsOn name after.circulating
  let f : Delivery → Option MessageId := fun delivery => some delivery.id
  let gone := (session.held.filter (·.id = id)).map f
  have hkept : ∀ delivery ∈ kept.held, delivery.IsOf name := fun delivery h =>
    hheld delivery (List.mem_of_mem_filter h)
  have hsplit : session.held.map f ~ gone ++ kept.held.map f := by
    have hperm := (List.filter_append_perm (fun delivery : Delivery => decide (delivery.id = id))
      session.held).symm.map f
    simpa [gone, kept] using hperm
  have hset : idsOn name after.held ++ gone ~ idsOn name contents.held := by
    have hids := ((held_set kept found).filter (·.queue = name)).map (·.message.id)
    change idsOn name (after.held ++ _) ~ idsOn name (contents.held ++ _) at hids
    rw [idsOn_append, idsOn_append, idsOn_requeued hheld, idsOn_requeued hkept] at hids
    refine (List.perm_append_right_iff (kept.held.map f)).1 ?_
    rw [List.append_assoc]
    exact (hsplit.symm.append_left _).trans hids
  have hnodup : (idsOn name contents.waiting ++ (idsOn name after.held ++ gone)).Nodup := by
    have hall := hsound.nodup_circulating hdistinct
    rw [Contents.circulating, idsOn_append, idsOn_map_flagged] at hall
    exact ((hset.append_left _).nodup_iff).2 hall
  have hgone : some id ∈ gone := by
    obtain ⟨delivery, hdelivery, rfl⟩ := held
    exact List.mem_map_of_mem (List.mem_filter.2 ⟨hdelivery, by simp⟩)
  rw [Contents.circulating, idsOn_append, idsOn_map_flagged]
  intro hmem
  rw [← List.append_assoc] at hnodup
  exact (List.nodup_append.1 hnodup).2.2 _ hmem _ hgone rfl

end Contents

namespace Ledger

variable {calm : Prop} {name : String} {base received : List MessageId} {before after : Ledger}

/-- The identifiers that a ledger lists. -/
def listed (ledger : Ledger) : List MessageId :=
  ledger.pending.map (·.id)

/-- What a ledger that began with some identifiers and received others since knows of both. -/
structure Remembers (name : String) (base received : List MessageId) (ledger : Ledger) : Prop where
  /-- Before it attaches, it lists what it began with. -/
  free : ledger.hold = .free → ledger.listed = base ∧ ledger.skipped = [] ∧ received = []
  listed : ∀ id ∈ ledger.listed, id ∈ base ∨ id ∈ received
  skipped : ∀ id ∈ ledger.skipped, id ∈ base ∧ id ∉ ledger.listed ∧ id ∉ received
  known : ∀ id, id ∈ base ∨ id ∈ received →
    id ∈ ledger.listed ∨ id ∈ ledger.skipped ∨ ledger.env.broker.contents.Spent name id
  delivered : ∀ id, some id ∈ ledger.delivered.map (·.id) ↔ id ∈ received ∧ id ∉ base

/-- What is out of circulation stays out along a transition. -/
theorem Step.spent {id : MessageId} (h : Step calm name before after)
    (hdistinct : after.env.broker.contents.Distinct name)
    (hspent : before.env.broker.contents.Spent name id) :
    after.env.broker.contents.Spent name id :=
  hspent.of_spares h.spares hdistinct

/-- A ledger remembers as much when it lists, skips and delivered the same. -/
theorem Remembers.same (h : before.Remembers name base received)
    (hstep : Step calm name before after) (hdistinct : after.env.broker.contents.Distinct name)
    (free : after.hold = .free → before.hold = .free) (pending : after.pending = before.pending)
    (skipped : after.skipped = before.skipped) (delivered : after.delivered = before.delivered) :
    after.Remembers name base received := by
  have hlisted : after.listed = before.listed := by rw [Ledger.listed, pending, Ledger.listed]
  constructor
  · intro hfree
    rw [hlisted, skipped]
    exact h.free (free hfree)
  · rw [hlisted]
    exact h.listed
  · rw [hlisted, skipped]
    exact h.skipped
  · rw [hlisted, skipped]
    intro id hid
    exact (h.known id hid).imp_right fun hrest =>
      hrest.imp_right fun hspent => hstep.spent hdistinct hspent
  · rw [delivered]
    exact h.delivered

/-- A reader that attaches skips what it began with. -/
theorem Remembers.attach (h : before.Remembers name base received) (hfree : before.hold = .free)
    (hold : after.hold ≠ .free) (pending : after.pending = [])
    (skipped : after.skipped = before.skipped ++ before.listed)
    (delivered : after.delivered = before.delivered) :
    after.Remembers name base received := by
  obtain ⟨hlisted, hskipped, rfl⟩ := h.free hfree
  have hnone : after.listed = [] := by rw [Ledger.listed, pending, List.map_nil]
  have hall : after.skipped = base := by rw [skipped, hskipped, hlisted, List.nil_append]
  constructor
  · exact fun hafter => (hold hafter).elim
  · simp [hnone]
  · intro id hid
    rw [hall] at hid
    exact ⟨hid, by simp [hnone], by simp⟩
  · intro id hid
    rw [hall]
    exact .inr (.inl (hid.resolve_right (by simp)))
  · rw [delivered]
    exact h.delivered

/-- A message that is received was neither listed nor out of circulation. -/
theorem Mirrors.fresh {handle : SessionHandle} {consumer : ConsumerHandle} {session : Session}
    {now : Int64} {broker : Broker} {message : Message} {id : MessageId}
    (h : before.Mirrors name handle consumer session)
    (hsound : before.env.broker.contents.Sound)
    (hdistinct : before.env.broker.contents.Distinct name)
    (granted : before.env.broker.perform now (.receive consumer) = (.ok (some message), broker))
    (identified : message.id = some id) :
    id ∉ before.listed ∧ ¬before.env.broker.contents.Spent name id := by
  have hwaits : some id ∈ Contents.idsOn name before.env.broker.contents.waiting :=
    List.mem_map.2 ⟨_, List.mem_filter.2 ⟨h.waited granted, by simp⟩, identified⟩
  have hnodup := hsound.nodup_held hdistinct h.found h.deliveries
  constructor
  · intro hlisted
    rw [Ledger.listed, h.same hdistinct, List.map_map] at hlisted
    obtain ⟨delivery, hdelivery, rfl⟩ := List.mem_map.1 hlisted
    exact (List.nodup_append.1 hnodup).2.2 _ hwaits _ (List.mem_map_of_mem hdelivery) rfl
  · intro hspent
    refine hspent.2 ?_
    rw [Contents.circulating, Contents.idsOn_append, Contents.idsOn_map_flagged]
    exact List.mem_append_left _ hwaits

/-- A message that is received is listed and no longer skipped. It is delivered unless the ledger
began with it. -/
theorem Remembers.receive (h : before.Remembers name base received)
    (hstep : Step calm name before after) (hdistinct : after.env.broker.contents.Distinct name)
    {message : Message} {id : MessageId} (identified : message.id = some id)
    (hfresh : id ∉ before.listed ∧ ¬before.env.broker.contents.Spent name id)
    (hold : after.hold ≠ .free)
    (listed : after.listed = before.listed ++ [id])
    (skipped : after.skipped = before.skipped.filter (· ≠ id))
    (delivered : after.delivered =
      before.delivered ++ if id ∈ before.skipped then [] else [message]) :
    after.Remembers name base (received ++ [id]) := by
  -- What was known before and is neither listed nor spent is still to be skipped.
  have hskipped : id ∈ before.skipped ↔ id ∈ base := by
    refine ⟨fun hid => (h.skipped id hid).1, fun hid => ?_⟩
    exact ((h.known id (.inl hid)).resolve_left hfresh.1).resolve_right hfresh.2
  constructor
  · exact fun hfree => (hold hfree).elim
  · intro other hother
    rw [listed] at hother
    rcases List.mem_append.1 hother with hother | hother
    · exact (h.listed other hother).imp_right (List.mem_append_left _)
    · exact .inr (List.mem_append_right _ hother)
  · intro other hother
    rw [skipped] at hother
    obtain ⟨hother, hne⟩ := List.mem_filter.1 hother
    obtain ⟨hbase, hlisted, hreceived⟩ := h.skipped other hother
    have hne' : other ≠ id := by simpa using hne
    rw [listed]
    exact ⟨hbase, by simp [hlisted, hne'], by simp [hreceived, hne']⟩
  · intro other hother
    rw [listed, skipped]
    by_cases he : other = id
    · exact .inl (by simp [he])
    · have hknown : other ∈ base ∨ other ∈ received := by
        simpa [he] using hother
      rcases h.known other hknown with hlisted | hskips | hspent
      · exact .inl (List.mem_append_left _ hlisted)
      · exact .inr (.inl (List.mem_filter.2 ⟨hskips, by simpa using he⟩))
      · exact .inr (.inr (hstep.spent hdistinct hspent))
  · intro other
    rw [delivered, List.map_append, List.mem_append, h.delivered other, List.mem_append]
    -- A message of the mark that the reader was restored with is passed over, and any other one is
    -- handed on.
    by_cases hbase : id ∈ base
    · rw [if_pos (hskipped.2 hbase)]
      have hne : other ∉ base → other ≠ id := fun hother he => hother (he ▸ hbase)
      simp only [List.map_nil, List.not_mem_nil, or_false, List.mem_singleton]
      exact ⟨fun hother => ⟨.inl hother.1, hother.2⟩,
        fun hother => ⟨hother.1.resolve_right (hne hother.2), hother.2⟩⟩
    · rw [if_neg fun hid => hbase (hskipped.1 hid)]
      simp only [List.map_cons, List.map_nil, identified, List.mem_singleton, Option.some.injEq]
      refine ⟨fun hother => ?_, fun hother => ?_⟩
      · rcases hother with ⟨hreceived, hnot⟩ | rfl
        · exact ⟨.inl hreceived, hnot⟩
        · exact ⟨.inr rfl, hbase⟩
      · exact hother.1.imp_left fun hreceived => ⟨hreceived, hother.2⟩

/-- An entry that is acknowledged is out of circulation from then on. -/
theorem Remembers.acknowledge (h : before.Remembers name base received)
    (hstep : Step calm name before after) (hdistinct : after.env.broker.contents.Distinct name)
    {entry : PendingDelivery} {rest : List PendingDelivery} (first : before.pending = entry :: rest)
    (hspent : after.env.broker.contents.Spent name entry.id) (hold : after.hold ≠ .free)
    (pending : after.pending = rest) (skipped : after.skipped = before.skipped)
    (delivered : after.delivered = before.delivered) :
    after.Remembers name base received := by
  have hlisted : before.listed = entry.id :: after.listed := by
    rw [Ledger.listed, first, List.map_cons, Ledger.listed, pending]
  have hkept : ∀ id ∈ after.listed, id ∈ before.listed := by
    rw [hlisted]
    exact fun id => List.mem_cons_of_mem _
  constructor
  · exact fun hfree => (hold hfree).elim
  · exact fun id hid => h.listed id (hkept id hid)
  · rw [skipped]
    intro id hid
    obtain ⟨hbase, hnot, hreceived⟩ := h.skipped id hid
    exact ⟨hbase, fun hafter => hnot (hkept id hafter), hreceived⟩
  · rw [skipped]
    intro id hid
    -- The first entry is listed no more, but the broker has spent it.
    rcases h.known id hid with hbefore | hskips | hout
    · rw [hlisted] at hbefore
      rcases List.mem_cons.1 hbefore with rfl | hrest
      · exact .inr (.inr hspent)
      · exact .inl hrest
    · exact .inr (.inl hskips)
    · exact .inr (.inr (hstep.spent hdistinct hout))
  · rw [delivered]
    exact h.delivered

/-- A transition after which a ledger remembers what it received on it. Only what circulated was
received. -/
def Keeps (name : String) (base received : List MessageId) (before after : Ledger) : Prop :=
  ∃ new, after.env.received = before.env.received ++ new ∧
    after.Remembers name base (received ++ new.filterMap (·.id)) ∧
      ∀ message ∈ new, ∀ id, message.id = some id → ¬before.env.broker.contents.Spent name id

/-- A ledger that remembers as much received nothing. -/
theorem Remembers.keeps (h : after.Remembers name base received)
    (hreceived : after.env.received = before.env.received) :
    Keeps name base received before after :=
  ⟨[], by rw [hreceived, List.append_nil], by simpa using h, by simp⟩

/-- Every transition keeps what a ledger remembers. -/
theorem Remembers.step (h : before.Remembers name base received) (hcoherent : before.Coherent name)
    (hstep : Step calm name before after)
    (hdistinct : after.env.broker.contents.Distinct name) :
    Keeps name base received before after := by
  -- What was accepted before the step is accepted after it, so its identifiers are distinct too.
  have hbefore : before.env.broker.contents.Distinct name := .of_spares hstep.spares hdistinct
  have hstep' := hstep
  cases hstep with
  | pass env passes =>
    exact (h.same hstep' hdistinct id rfl rfl rfl).keeps passes.received
  | attach handle consumer session free opened found client isOpen empty bound started =>
    refine Remembers.keeps ?_ rfl
    exact h.attach free (by simp) rfl rfl rfl
  | findNothing handle consumer now broker hold granted =>
    refine (h.same hstep' hdistinct id rfl rfl rfl).keeps ?_
    rw [Shared.received_add]
    exact List.append_nil _
  | refuse handle consumer now broker message hold granted anonymous =>
    obtain ⟨session, hmirrors⟩ := hcoherent.mirrored handle consumer hold
    -- What a coherent reader takes has an identifier, so the step cannot happen.
    have hsome := hmirrors.isSome_id hcoherent.sound granted
    simp [anonymous] at hsome
  | receive handle consumer now broker message id hold granted identified =>
    obtain ⟨session, hmirrors⟩ := hcoherent.mirrored handle consumer hold
    have hfresh := hmirrors.fresh hcoherent.sound hbefore granted identified
    refine ⟨[message], ?_, ?_, ?_⟩
    · rw [Shared.received_add]
      rfl
    · have hids : [message].filterMap (·.id) = [id] := by simp [identified]
      rw [hids]
      refine h.receive hstep' hdistinct identified hfresh (by simp [hold]) ?_ rfl rfl
      simp [Ledger.listed]
    · intro other hother id' hid'
      obtain rfl := List.mem_singleton.1 hother
      obtain rfl := Option.some.inj (identified.symm.trans hid')
      exact hfresh.2
  | acknowledge handle consumer now broker entry rest hold first granted =>
    obtain ⟨session, hmirrors⟩ := hcoherent.mirrored handle consumer hold
    obtain ⟨hheld, hcontents⟩ :=
      Broker.contents_of_acknowledge granted hmirrors.found hmirrors.client
    have hspent := hcoherent.sound.spent_of_filter hbefore hmirrors.found hmirrors.deliveries hheld
      (before.env.broker.acknowledged ++ [entry.id])
    have hout : broker.contents.Spent name entry.id := by
      rw [hcontents]
      exact hspent
    refine (h.acknowledge hstep' hdistinct first hout (by simp [hold]) rfl rfl rfl).keeps ?_
    rw [Shared.received_add]
    exact List.append_nil _
  | drop handle consumer now error entry rest hold first refused notPending =>
    obtain ⟨session, hmirrors⟩ := hcoherent.mirrored handle consumer hold
    -- The session holds the first entry, so the broker did not deny it and the step cannot happen.
    rw [hmirrors.not_denied hbefore first refused] at notPending
    cases notPending
  | release handle consumer now broker hold granted =>
    refine (h.same hstep' hdistinct (by simp) rfl rfl rfl).keeps ?_
    rw [Shared.received_add]
    exact List.append_nil _
  | letGo rough hold => exact (h.same hstep' hdistinct (by simp) rfl rfl rfl).keeps rfl
  | leave free => exact (h.same hstep' hdistinct (by simp) rfl rfl rfl).keeps rfl

/-- Transitions keep what a ledger remembers. -/
theorem Remembers.steps (h : before.Remembers name base received) (hcoherent : before.Coherent name)
    (hsteps : Steps calm name before after)
    (hdistinct : after.env.broker.contents.Distinct name) :
    Keeps name base received before after := by
  induction hsteps with
  | refl => exact h.keeps rfl
  | @tail middle last hbefore hstep ih =>
    have hmiddle : middle.env.broker.contents.Distinct name := .of_spares hstep.spares hdistinct
    obtain ⟨new, hnew, hremembers, hfresh⟩ := ih hmiddle
    obtain ⟨new', hnew', hremembers', hfresh'⟩ :=
      hremembers.step (hcoherent.steps hbefore) hstep hdistinct
    refine ⟨new ++ new', ?_, ?_, ?_⟩
    · rw [hnew', hnew, List.append_assoc]
    · rw [List.filterMap_append, ← List.append_assoc]
      exact hremembers'
    · intro message hmessage id hid hspent
      rcases List.mem_append.1 hmessage with hold | hlate
      · exact hfresh message hold id hid hspent
      · exact hfresh' message hlate id hid (hspent.of_spares (Steps.spares hbefore) hmiddle)

end Ledger

end BrokerConnector
