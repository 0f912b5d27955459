import BrokerConnector.Proofs.Settlement

/-!
# The calls of a reader as transitions

Every call of a reader that shares a broker with others is a sequence of the transitions of a
ledger. What each call comes down to is shown here once, by running through its requests; nothing
behind this module looks at the requests again.
-/

namespace BrokerConnector

open BrokerConnector.Action

variable {schedule : Schedule} {calm : Prop}

/-- The ledger of a reader. -/
def Scene.ledger {α : Type} (s : Scene (Reader α) Shared) (hold : Hold)
    (delivered : List Message) : Ledger where
  pending := s.client.mark.pending
  skipped := s.client.skipped
  hold := hold
  delivered := delivered
  env := s.env

namespace Reader

variable {α : Type} {name : String}

@[simp]
theorem pending_attach (session : SessionHandle) (reader : Reader α) (journal : Journal) :
    (attach session reader journal).1.mark.pending = [] := by
  simp [attach, Mark.attach]

/-- A reader that is attached to a session has it in its link. -/
def Attends (s : Scene (Reader α) Shared) (hold : Hold) : Prop :=
  ∀ handle consumer, hold = .held handle consumer →
    s.client.link.session = some handle ∧ handle.index ∈ s.env.sessions

/-- A reader that holds no session attends to none. -/
theorem attends_of_not_held {s : Scene (Reader α) Shared} {hold : Hold} (h : hold.isHeld = false) :
    Attends s hold := by
  rintro handle consumer rfl
  cases h

/-- A reader stays attached as long as its link is the same. -/
theorem Attends.mono {s s' : Scene (Reader α) Shared} {hold : Hold} (h : Attends s hold)
    (link : s'.client.link = s.client.link) (hsub : s.env.sessions ⊆ s'.env.sessions) :
    Attends s' hold := by
  intro handle consumer he
  rw [link]
  exact ⟨(h handle consumer he).1, hsub (h handle consumer he).2⟩

/-- The session that a reader is attached to was opened here. -/
theorem Attends.kept {s : Scene (Reader α) Shared} {hold : Hold} (h : Attends s hold) (index : Nat)
    (hkept : hold.Keeps index) : index ∈ s.env.sessions := by
  obtain ⟨handle, consumer, rfl, rfl⟩ := hkept
  exact (h handle consumer rfl).2

/-- What a reader did from one scene to another. -/
structure Leads (calm : Prop) (name : String) (s : Scene (Reader α) Shared) (hold : Hold)
    (delivered : List Message) (s' : Scene (Reader α) Shared) (hold' : Hold)
    (delivered' : List Message) : Prop where
  config : s'.client.config = s.client.config
  attends : Attends s' hold'
  steps : Ledger.Steps calm name (s.ledger hold delivered) (s'.ledger hold' delivered')

/-- A reader that is attached holds the handles of its session and its consumer. -/
structure Attached (s : Scene (Reader α) Shared) (handle : SessionHandle)
    (consumer : ConsumerHandle) : Prop where
  session : s.client.mark.session = some handle
  consumer : s.client.consumer = some consumer

/-- A reader that has attached to a session skips what its mark listed. -/
theorem Leads.of_attach {s s' : Scene (Reader α) Shared} {delivered : List Message}
    {handle : SessionHandle} {consumer : ConsumerHandle} {skipped : List MessageId}
    (config : s'.client.config = s.client.config) (session : s'.client.link.session = some handle)
    (opened : handle.index ∈ s'.env.sessions) (pending : s'.client.mark.pending = [])
    (hskipped : s'.client.skipped = skipped)
    (steps : Ledger.Steps calm name (s.ledger .free delivered)
      ⟨[], skipped, .held handle consumer, delivered, s'.env⟩) :
    Leads calm name s .free delivered s' (.held handle consumer) delivered where
  config := config
  attends := by
    rintro _ _ he
    cases he
    exact ⟨session, opened⟩
  steps := by
    have hledger : s'.ledger (.held handle consumer) delivered =
        ⟨[], skipped, .held handle consumer, delivered, s'.env⟩ := by
      rw [Scene.ledger, pending, hskipped]
    rw [hledger]
    exact steps

/-- A reader that acquires its resources attaches to a session in the end. If it fails, it may
already be attached. -/
theorem ensures_acquire (hcalm : calm → schedule.Publishes) (s : Scene (Reader α) Shared)
    (delivered : List Message) (hsession : s.client.link.session = none)
    (hdestination : s.client.config.destination = .queue name) :
    Ensures (acquire (Shared.endpoint schedule)) s
      (fun _ s' => ∃ handle consumer, Attached s' handle consumer ∧
        Leads calm name s .free delivered s' (.held handle consumer) delivered)
      (fun _ s' => ∃ hold, Leads calm name s .free delivered s' hold delivered) := by
  simp only [acquire, ensures_bind, Scene.ensures_get, withLink, Scene.ensures_within, setupStep,
    ensures_mapError, Scene.ensures_modify, Scene.ensures_modifyJournaled]
  have hpass : ∀ env, Shared.Passes calm False (fun _ => False) s.env env →
      Ledger.Steps calm name (s.ledger .free delivered)
        { s.ledger .free delivered with env := env } := by
    intro env hpasses
    refine .single (.pass env (hpasses.mono id (by simp [Scene.ledger, Hold.isHeld]) ?_))
    rintro index ⟨handle, consumer, he, -⟩
    cases he
  have hweaken : ∀ {handle : SessionHandle} {first second : Shared},
      Shared.Passes calm True (· = handle.index) first second →
      Shared.Passes calm False (fun _ => False) first second :=
    fun h => h.mono id False.elim fun _ => False.elim
  -- Until the reader attaches, whatever happens between its requests counts as what others do.
  refine (Link.ensures_acquire hcalm _ _ hsession).mono ?_ ?_
  · rintro handle s' ⟨hhandle, hoffers, hlink⟩
    have hkept : ∀ {env : Shared}, env.Offers calm handle →
        ∀ index, index = handle.index → index ∈ env.sessions :=
      fun hoffers index h => h ▸ hoffers.opened
    refine Scene.ensures_quiet True hcalm rfl (fun _ => rfl) (hkept hoffers) ?_ ?_
    · intro middle now destination broker hgranted hresolve
      obtain ⟨-, rfl, -⟩ := Broker.named_of_resolve hgranted
      replace hoffers := hoffers.passes hresolve
      replace hlink := hlink.trans (hweaken hresolve)
      refine Scene.ensures_quiet True hcalm rfl (fun _ => rfl) (hkept hoffers) ?_ ?_
      · intro middle' now' consumer broker' hgranted' hcreate
        obtain ⟨of, hof, hdest, hof'⟩ := Broker.consumers_of_createConsumer hgranted'
        replace hoffers := hoffers.passes hcreate
        replace hlink := hlink.trans (hweaken hcreate)
        obtain ⟨session, found, client, isOpen, empty, started⟩ := hoffers.fresh
        -- The consumer is there, so this is the moment at which the reader attaches.
        have hattached := (hpass _ hlink).tail (.attach handle consumer session rfl hoffers.opened
          found client isOpen empty ⟨of, hof, hdest.trans hdestination, hof'⟩ started)
        refine Scene.ensures_ask_estimator (by simp) fun number outcome => ?_
        have hothers : Shared.Passes calm True (· = handle.index) _ _ :=
          (Shared.passes_others _ (schedule number).others (hkept hoffers) fun hc =>
            hcalm hc number).trans (Shared.passes_estimator outcome (by simp))
        have hpassed := hattached.tail (.pass _ (hothers.mono id (fun _ => trivial) (by
          rintro index ⟨_, _, he, hindex⟩
          cases he
          exact hindex.symm)))
        have hopened := hothers.sessions hoffers.opened
        exact ⟨fun estimator => ⟨handle, consumer, ⟨rfl, rfl⟩,
            .of_attach rfl hhandle hopened (pending_attach _ _ _) rfl hpassed⟩,
          fun _ => ⟨.held handle consumer,
            .of_attach rfl hhandle hopened (pending_attach _ _ _) rfl hpassed⟩⟩
      · intro error env hpasses
        exact ⟨.free, rfl, attends_of_not_held rfl, hpass env (hlink.trans (hweaken hpasses))⟩
    · intro error env hpasses
      exact ⟨.free, rfl, attends_of_not_held rfl, hpass env (hlink.trans (hweaken hpasses))⟩
  · rintro error s' ⟨hnone, hlink⟩
    exact ⟨.free, rfl, attends_of_not_held rfl, hpass _ hlink⟩

/-! ## Closing -/

/-- A reader that is closed keeps what its mark lists and what it was to skip. -/
structure Retired (before after : Reader α) : Prop where
  config : after.config = before.config
  state : after.state = .closed
  link : after.link = {}
  consumer : after.consumer = none
  estimator : after.estimator = none
  pending : after.mark.pending = before.mark.pending
  sessionId : after.mark.sessionId = before.mark.sessionId
  session : after.mark.session = none
  skipped : after.skipped = before.skipped

/-- A reader without resources retires. -/
theorem retired_retire {before reader : Reader α} (journal : Journal)
    (config : reader.config = before.config) (link : reader.link = {})
    (consumer : reader.consumer = none) (estimator : reader.estimator = none)
    (mark : reader.mark = before.mark) (skipped : reader.skipped = before.skipped) :
    Retired before (retire reader journal).1 := by
  refine ⟨config, rfl, link, consumer, estimator, ?_, ?_, rfl, skipped⟩
  · simp [retire, Mark.detach, mark]
  · simp [retire, Mark.detach, mark]

/-- A reader that releases its consumer leaves deliveries alone. -/
theorem ensures_releaseConsumer (hcalm : calm → schedule.Publishes) {kept : Nat → Prop}
    (s : Scene (Reader α) Shared) (hkept : ∀ index, kept index → index ∈ s.env.sessions) :
    Ensures (releaseConsumer (Shared.endpoint schedule)) s
      (fun _ s' => s'.client = { s.client with consumer := none } ∧
        Shared.Passes calm True kept s.env s'.env ∧ (s.client.consumer = none → s'.env = s.env))
      (fun _ _ => False) := by
  simp only [releaseConsumer, ensures_bind, Scene.ensures_get]
  cases hconsumer : s.client.consumer with
  | none =>
    refine ⟨?_, .refl _ _ _ _, fun _ => rfl⟩
    rw [← hconsumer]
  | some consumer =>
    simp only [ensures_bind, Scene.ensures_modify, Scene.ensures_release]
    refine Scene.ensures_quiet True hcalm rfl (fun _ => rfl) hkept ?_ ?_
    · intro middle now answer broker _ hpasses
      exact ⟨rfl, hpasses, by simp⟩
    · intro error env hpasses
      exact ⟨rfl, hpasses, by simp⟩

/-- A reader that releases its estimator leaves deliveries alone. -/
theorem ensures_releaseEstimator (hcalm : calm → schedule.Publishes) {kept : Nat → Prop}
    (s : Scene (Reader α) Shared) (hkept : ∀ index, kept index → index ∈ s.env.sessions) :
    Ensures (releaseEstimator (Shared.endpoint schedule)) s
      (fun _ s' => s'.client = { s.client with estimator := none } ∧
        Shared.Passes calm False kept s.env s'.env ∧
          (s.client.estimator = none → s'.env = s.env))
      (fun _ _ => False) := by
  simp only [releaseEstimator, ensures_bind, Scene.ensures_get]
  cases hestimator : s.client.estimator with
  | none =>
    refine ⟨?_, .refl _ _ _ _, fun _ => rfl⟩
    rw [← hestimator]
  | some estimator =>
    simp only [ensures_bind, Scene.ensures_modify, ensures_attempt, ensures_pure]
    refine Scene.ensures_ask_estimator (by simp) fun number outcome => ?_
    have hpasses : Shared.Passes calm False kept s.env _ :=
      (s.env.passes_others (schedule number).others hkept fun h => hcalm h number).trans
        (Shared.passes_estimator outcome (by simp))
    exact ⟨fun _ => ⟨rfl, hpasses, by simp⟩, fun _ => ⟨rfl, hpasses, by simp⟩⟩

/-- What a reader does when it is closed: it asks for the release of what it holds, if anything. -/
structure Closing (calm : Prop) (kept : Nat → Prop) (s : Scene (Reader α) Shared)
    (errors : List BrokerError) (s' : Scene (Reader α) Shared) : Prop where
  retired : Retired s.client s'.client
  releases : s.env.Releases calm kept s.client.link.session errors s'.env
  idle : s.client.link = {} → s.client.consumer = none → s.client.estimator = none →
    s'.env = s.env

/-- A reader that is closed releases its link and retires, whatever fails. -/
theorem ensures_close (hcalm : calm → schedule.Publishes) {kept : Nat → Prop}
    (s : Scene (Reader α) Shared) (hkept : ∀ index, kept index → index ∈ s.env.sessions) :
    Ensures (close (Shared.endpoint schedule)) s (fun _ => Closing calm kept s [])
      (fun _ s' => ∃ errors, Closing calm kept s errors s') := by
  simp only [close, ensures_bind, withLink, Scene.ensures_within, Scene.ensures_modifyJournaled]
  refine (ensures_releaseConsumer hcalm s hkept).mono ?_ fun _ _ => False.elim
  rintro ofConsumer s₁ ⟨hclient₁, hpasses₁, hidle₁⟩
  refine (Link.ensures_release hcalm _ fun index h => hpasses₁.sessions (hkept index h)).mono ?_
    fun _ _ => False.elim
  rintro ofLink s₂ ⟨hclient₂, hreleases, hidle₂⟩
  refine (ensures_releaseEstimator hcalm _ fun index h =>
    hreleases.sessions (hpasses₁.sessions (hkept index h))).mono ?_ fun _ _ => False.elim
  rintro _ s₃ ⟨hclient₃, hpasses₃, hidle₃⟩
  have hretired : Retired s.client (retire s₃.client s₃.journal).1 := by
    apply retired_retire
    · rw [hclient₃, hclient₁]
    · rw [hclient₃]
      exact hclient₂
    · rw [hclient₃, hclient₁]
    · rw [hclient₃]
    · rw [hclient₃, hclient₁]
    · rw [hclient₃, hclient₁]
  have hsession : s₁.client.link.session = s.client.link.session := by rw [hclient₁]
  rw [hsession] at hreleases
  have hall := (hreleases.before hpasses₁).after hpasses₃
  have hidle : s.client.link = {} → s.client.consumer = none → s.client.estimator = none →
      s₃.env = s.env := by
    intro hlink hconsumer hestimator
    rw [hidle₃ (by rw [hclient₁]; exact hestimator)]
    exact (hidle₂ (by rw [hclient₁]; exact hlink)).trans (hidle₁ hconsumer)
  split
  · rename_i hempty
    have hlink : ofLink = [] := (List.append_eq_nil_iff.1 (List.isEmpty_iff.1 hempty)).2
    exact ⟨hretired, hall.mono fun _ => hlink, hidle⟩
  · exact ⟨ofLink, hretired, hall, hidle⟩

/-! ## Reading -/

/-- A reader that emits a message maps it. -/
theorem ensures_emit {σ : Type} (s : Scene (Reader α) σ) (message : Message) (id : MessageId) :
    Ensures (emit message id) s
      (fun found s' => found = true ∧ ∃ value, s.client.config.mapper message = .ok value ∧
        s'.client =
          { s.client with record := some value, timestamp := some message.timestamp } ∧
          s'.env = s.env)
      (fun _ s' => s' = s ∧ ∃ reason, s.client.config.mapper message = .error reason) := by
  simp only [emit, ensures_bind, Scene.ensures_get]
  cases h : s.client.config.mapper message with
  | error reason => exact ⟨rfl, reason, rfl⟩
  | ok value => exact ⟨rfl, value, rfl, rfl, rfl⟩

/-- The value and the timestamp that a reader shows, asked for one after the other, are its current
record. Both are missing, or one of them, if there is none. -/
theorem leaves_current {σ : Type} {reader : Reader α} {s : σ} {done : α → Int64 → σ → Prop}
    {failed : ConnectorError → σ → Prop} {dropped : σ → Prop} :
    Leaves (ofExcept reader.currentValue) s
      (fun value s' => Leaves (ofExcept reader.currentTimestamp) s' (done value) failed dropped)
      failed dropped ↔
      match reader.current with
      | some current => done current.value current.timestamp s
      | none => failed .noCurrentRecord s := by
  simp only [leaves_ofExcept, currentValue, currentTimestamp, current]
  cases reader.record <;> cases reader.timestamp <;> rfl

/-- What a reader ends with when it looked for its next message: it delivered one, or the broker
had none. -/
inductive Found (calm : Prop) (name : String) (s : Scene (Reader α) Shared) (hold : Hold)
    (delivered : List Message) (s' : Scene (Reader α) Shared) (hold' : Hold) :
    Bool → List Message → Prop where
  | message (message : Message) (id : MessageId) (value : α) (identified : message.id = some id)
    (received : s'.env.received.getLast? = some message)
    (last : s'.client.mark.pending.getLast? = some ⟨id, message.timestamp⟩)
    (mapped : s'.client.config.mapper message = .ok value)
    (current : s'.client.current = some ⟨value, message.timestamp⟩) :
    Found calm name s hold delivered s' hold' true (delivered ++ [message])
  | nothing (exhausted :
      Ledger.Exhausted calm name (s.ledger hold delivered) (s'.ledger hold' delivered)) :
    Found calm name s hold delivered s' hold' false delivered

/-- What a reader ends with when it failed to look for its next message: if it received one that it
was not to skip, it could not map it. -/
def Missed (s : Scene (Reader α) Shared) (delivered delivered' : List Message) : Prop :=
  delivered' = delivered ∨ ∃ message reason, delivered' = delivered ++ [message] ∧
    s.client.config.mapper message = .error reason

/-- What a reader does in one place and in another, it does on the way. -/
theorem Leads.trans {s s' s'' : Scene (Reader α) Shared} {hold hold' hold'' : Hold}
    {delivered delivered' delivered'' : List Message}
    (h : Leads calm name s hold delivered s' hold' delivered')
    (h' : Leads calm name s' hold' delivered' s'' hold'' delivered'') :
    Leads calm name s hold delivered s'' hold'' delivered'' where
  config := h'.config.trans h.config
  attends := h'.attends
  steps := h.steps.trans h'.steps

/-- A reader waits. -/
theorem Leads.pass {s : Scene (Reader α) Shared} {handle : SessionHandle}
    {consumer : ConsumerHandle} {delivered : List Message} {env : Shared}
    (hattends : Attends s (.held handle consumer))
    (h : Shared.Passes calm True (· = handle.index) s.env env) :
    Leads calm name s (.held handle consumer) delivered { s with env := env }
      (.held handle consumer) delivered where
  config := rfl
  attends := by
    rintro _ _ he
    cases he
    exact ⟨(hattends _ _ rfl).1, h.sessions (hattends _ _ rfl).2⟩
  steps := .single (.pass env (h.mono id (fun _ => trivial) (by
    rintro index ⟨_, _, he, hindex⟩
    cases he
    exact hindex.symm)))

/-- A reader that stays attached does one thing more. -/
theorem Leads.tail {s s' s'' : Scene (Reader α) Shared} {hold hold' : Hold}
    {delivered delivered' delivered'' : List Message} {ledger : Ledger}
    (h : Leads calm name s hold delivered s' hold' delivered')
    (hstep : Ledger.Step calm name (s'.ledger hold' delivered') ledger)
    (hledger : s''.ledger hold' delivered'' = ledger)
    (config : s''.client.config = s'.client.config) (link : s''.client.link = s'.client.link)
    (hsub : s'.env.sessions ⊆ s''.env.sessions) :
    Leads calm name s hold delivered s'' hold' delivered'' where
  config := config.trans h.config
  attends := h.attends.mono link hsub
  steps := by
    rw [hledger]
    exact h.steps.tail hstep

/-- What a reader found after it delivered nothing, it found on the whole. -/
theorem Found.of_leads {s s' s'' : Scene (Reader α) Shared} {hold hold' hold'' : Hold}
    {delivered delivered' : List Message} {found : Bool}
    (h : Found calm name s' hold' delivered s'' hold'' found delivered')
    (hleads : Leads calm name s hold delivered s' hold' delivered) :
    Found calm name s hold delivered s'' hold'' found delivered' := by
  cases h with
  | message message id value identified received last mapped current =>
    exact .message message id value identified received last mapped current
  | nothing exhausted =>
    obtain ⟨last, handle, consumer, now, broker, hsteps, hrest⟩ := exhausted
    exact .nothing ⟨last, handle, consumer, now, broker, hleads.steps.trans hsteps, hrest⟩

section

variable {handle : SessionHandle} {consumer : ConsumerHandle} {delivered : List Message}

/-- What a reader that polls from one scene ends with when it found a message or none. -/
structure Polled (calm : Prop) (name : String) (s : Scene (Reader α) Shared)
    (handle : SessionHandle) (consumer : ConsumerHandle) (delivered : List Message) (found : Bool)
    (s' : Scene (Reader α) Shared) : Prop where
  state : s'.client.state = s.client.state
  attached : Attached s' handle consumer
  leads : ∃ delivered', Leads calm name s (.held handle consumer) delivered s'
    (.held handle consumer) delivered' ∧
      Found calm name s (.held handle consumer) delivered s' (.held handle consumer) found
        delivered'

/-- What a reader that polls from one scene ends with when it fails. -/
structure Failed (calm : Prop) (name : String) (s : Scene (Reader α) Shared)
    (handle : SessionHandle) (consumer : ConsumerHandle) (delivered : List Message)
    (s' : Scene (Reader α) Shared) : Prop where
  state : s'.client.state = s.client.state
  attached : Attached s' handle consumer
  leads : ∃ delivered', Leads calm name s (.held handle consumer) delivered s'
    (.held handle consumer) delivered' ∧ Missed s delivered delivered'

/-- A reader that polls asks for a message, and goes on when it is given one that it can list. -/
theorem ensures_poll_of_receive (hcalm : calm → schedule.Publishes) (budget : Nat)
    (s : Scene (Reader α) Shared) (hattached : Attached s handle consumer)
    (hattends : Attends s (.held handle consumer))
    (hnext : ∀ (middle : Shared) now broker message id,
      Shared.Passes calm True (· = handle.index) s.env middle →
      middle.broker.perform now (.receive consumer) = (.ok (some message), broker) →
      message.id = some id →
      Ensures
        (match budget with
          | 0 => emit message id
          | budget + 1 => do
            if id ∈ (← Scene.get).skipped then
              Scene.modify (unskip id)
              Scene.count .redeliveriesSkipped 1
              poll (Shared.endpoint schedule) consumer budget
            else
              emit message id)
        { client := (track id message.timestamp s.client s.journal).1
          journal := (track id message.timestamp s.client s.journal).2
          env := middle.add (.broker (.receive consumer)) (.done (some message)) broker }
        (Polled calm name s handle consumer delivered)
        (fun _ => Failed calm name s handle consumer delivered)) :
    Ensures (poll (Shared.endpoint schedule) consumer budget) s
      (Polled calm name s handle consumer delivered)
      (fun _ => Failed calm name s handle consumer delivered) := by
  have hkept : ∀ index, index = handle.index → index ∈ s.env.sessions := fun index h =>
    h ▸ (hattends handle consumer rfl).2
  unfold poll
  simp only [ensures_bind, ensures_mapError]
  refine Scene.ensures_request hcalm hkept ?_ ?_
  · intro middle now answer broker hpasses hgranted
    have hleads : Leads calm name s (.held handle consumer) delivered _
      (.held handle consumer) delivered := Leads.pass hattends hpasses
    have hsub := middle.subset_sessions_add (.broker (.receive consumer)) (.done answer) broker
    cases answer with
    | none =>
      refine ⟨rfl, ⟨hattached.session, hattached.consumer⟩, delivered, ?_, ?_⟩
      · exact hleads.tail (.findNothing handle consumer now broker rfl hgranted) rfl rfl rfl hsub
      · exact .nothing ⟨_, handle, consumer, now, broker, hleads.steps, rfl, hgranted, rfl⟩
    | some message =>
      cases hid : message.id with
      | none =>
        simp only [hid]
        refine ⟨rfl, ⟨hattached.session, hattached.consumer⟩, delivered, ?_, .inl rfl⟩
        exact hleads.tail (.refuse handle consumer now broker message rfl hgranted hid) rfl rfl
          rfl hsub
      | some id =>
        simp only [hid]
        exact hnext middle now broker message id hpasses hgranted hid
  · intro middle number error hpasses _
    refine ⟨rfl, ⟨hattached.session, hattached.consumer⟩, delivered, ?_, .inl rfl⟩
    exact Leads.pass hattends ((hpasses.trans (Shared.passes_failed _ error)))

/-- A message that was received waits in the mark. -/
theorem Leads.receive {s s' : Scene (Reader α) Shared} {middle : Shared} {now : Int64}
    {broker : Broker} {message : Message} {id : MessageId}
    (hattends : Attends s (.held handle consumer))
    (hpasses : Shared.Passes calm True (· = handle.index) s.env middle)
    (hgranted : middle.broker.perform now (.receive consumer) = (.ok (some message), broker))
    (hid : message.id = some id) (config : s'.client.config = s.client.config)
    (link : s'.client.link = s.client.link)
    (pending : s'.client.mark.pending = s.client.mark.pending ++ [⟨id, message.timestamp⟩])
    (skipped : s'.client.skipped = s.client.skipped.filter (· ≠ id))
    (env : s'.env = middle.add (.broker (.receive consumer)) (.done (some message)) broker) :
    Leads calm name s (.held handle consumer) delivered s' (.held handle consumer)
      (delivered ++ if id ∈ s.client.skipped then [] else [message]) := by
  refine (Leads.pass hattends hpasses).tail
    (.receive handle consumer now broker message id rfl hgranted hid) ?_ config link ?_
  · rw [Scene.ledger, pending, skipped, env]
    rfl
  · rw [env]
    exact middle.subset_sessions_add _ _ _

/-- A reader emits a message that it received and was not to skip. -/
theorem ensures_emit_received {s : Scene (Reader α) Shared} {middle : Shared} {now : Int64}
    {broker : Broker} {message : Message} {id : MessageId} (hattached : Attached s handle consumer)
    (hattends : Attends s (.held handle consumer))
    (hpasses : Shared.Passes calm True (· = handle.index) s.env middle)
    (hgranted : middle.broker.perform now (.receive consumer) = (.ok (some message), broker))
    (hid : message.id = some id) (hskipped : id ∉ s.client.skipped) :
    Ensures (emit message id)
      { client := (track id message.timestamp s.client s.journal).1
        journal := (track id message.timestamp s.client s.journal).2
        env := middle.add (.broker (.receive consumer)) (.done (some message)) broker }
      (Polled calm name s handle consumer delivered)
      (fun _ => Failed calm name s handle consumer delivered) := by
  -- The message is not one to be skipped, so nothing changes about what is.
  have hsame : s.client.skipped = s.client.skipped.filter (· ≠ id) := by
    refine (List.filter_eq_self.2 fun other hother => ?_).symm
    simpa using fun he : other = id => hskipped (he ▸ hother)
  have hdelivered : delivered ++ [message] =
      delivered ++ if id ∈ s.client.skipped then [] else [message] := by rw [if_neg hskipped]
  refine (ensures_emit _ message id).mono ?_ ?_
  · rintro found s' ⟨rfl, value, hmapped, hclient, henv⟩
    refine ⟨by rw [hclient]; rfl, ⟨?_, ?_⟩, delivered ++ [message], ?_, ?_⟩
    · rw [hclient]
      exact hattached.session
    · rw [hclient]
      exact hattached.consumer
    · rw [hdelivered]
      refine .receive hattends hpasses hgranted hid ?_ ?_ ?_ ?_ henv
      · rw [hclient]; rfl
      · rw [hclient]; rfl
      · rw [hclient]; rfl
      · rw [hclient]; exact hsame
    · refine .message message id value hid ?_ ?_ ?_ ?_
      · rw [henv, Shared.received_add]
        exact List.getLast?_concat
      · rw [hclient]
        exact List.getLast?_concat
      · rw [hclient]
        exact hmapped
      · rw [hclient]
        rfl
  · rintro error s' ⟨rfl, reason, hreason⟩
    refine ⟨rfl, ⟨hattached.session, hattached.consumer⟩, delivered ++ [message], ?_,
      .inr ⟨message, reason, rfl, hreason⟩⟩
    rw [hdelivered]
    exact .receive hattends hpasses hgranted hid rfl rfl rfl hsame rfl

/-- What a reader does after it skipped a message, it does after it polled. -/
theorem Polled.of_skipped {s s' s'' : Scene (Reader α) Shared} {found : Bool}
    (state : s'.client.state = s.client.state)
    (hleads : Leads calm name s (.held handle consumer) delivered s'
      (.held handle consumer) delivered)
    (h : Polled calm name s' handle consumer delivered found s'') :
    Polled calm name s handle consumer delivered found s'' where
  state := h.state.trans state
  attached := h.attached
  leads := by
    obtain ⟨delivered', hleads', hfound⟩ := h.leads
    exact ⟨delivered', hleads.trans hleads', hfound.of_leads hleads⟩

/-- What a reader fails with after it skipped a message, it fails with after it polled. -/
theorem Failed.of_skipped {s s' s'' : Scene (Reader α) Shared}
    (state : s'.client.state = s.client.state)
    (hleads : Leads calm name s (.held handle consumer) delivered s'
      (.held handle consumer) delivered)
    (h : Failed calm name s' handle consumer delivered s'') :
    Failed calm name s handle consumer delivered s'' where
  state := h.state.trans state
  attached := h.attached
  leads := by
    obtain ⟨delivered', hleads', hmissed⟩ := h.leads
    refine ⟨delivered', hleads.trans hleads', ?_⟩
    rw [Missed, hleads.config] at hmissed
    exact hmissed

/-- A reader that polls skips messages until it delivers one or finds none. -/
theorem ensures_poll (hcalm : calm → schedule.Publishes) (budget : Nat)
    (s : Scene (Reader α) Shared) (hattached : Attached s handle consumer)
    (hattends : Attends s (.held handle consumer))
    (hbudget : s.client.skipped.length ≤ budget) :
    Ensures (poll (Shared.endpoint schedule) consumer budget) s
      (Polled calm name s handle consumer delivered)
      (fun _ => Failed calm name s handle consumer delivered) := by
  induction budget generalizing s with
  | zero =>
    refine ensures_poll_of_receive hcalm 0 s hattached hattends
      fun middle now broker message id hpasses hgranted hid => ?_
    -- Nothing is left to be skipped, so the message is emitted.
    have hempty : s.client.skipped = [] := List.eq_nil_of_length_eq_zero (by omega)
    exact ensures_emit_received hattached hattends hpasses hgranted hid (by simp [hempty])
  | succ budget ih =>
    refine ensures_poll_of_receive hcalm (budget + 1) s hattached hattends
      fun middle now broker message id hpasses hgranted hid => ?_
    simp only [ensures_bind, Scene.ensures_get]
    split
    · rename_i hskipped
      replace hskipped : id ∈ s.client.skipped := hskipped
      simp only [ensures_bind, Scene.ensures_modify, Scene.ensures_count]
      have hleads : Leads calm name s (.held handle consumer) delivered
          { client := unskip id (track id message.timestamp s.client s.journal).1
            journal := (track id message.timestamp s.client s.journal).2.change
              .redeliveriesSkipped 1
            env := middle.add (.broker (.receive consumer)) (.done (some message)) broker }
          (.held handle consumer) delivered := by
        have hsame : delivered = delivered ++ if id ∈ s.client.skipped then [] else [message] := by
          rw [if_pos hskipped, List.append_nil]
        nth_rewrite 2 [hsame]
        exact .receive hattends hpasses hgranted hid rfl rfl rfl rfl rfl
      -- A message is skipped only once, which is why the budget suffices.
      have hfewer : (s.client.skipped.filter (· ≠ id)).length < s.client.skipped.length :=
        List.length_filter_lt_length_iff_exists.2 ⟨id, hskipped, by simp⟩
      refine (ih _ ?_ hleads.attends ?_).mono ?_ ?_
      · exact ⟨hattached.session, hattached.consumer⟩
      · change (s.client.skipped.filter (· ≠ id)).length ≤ budget
        omega
      · exact fun _ _ => .of_skipped rfl hleads
      · exact fun _ _ => .of_skipped rfl hleads
    · rename_i hskipped
      exact ensures_emit_received hattached hattends hpasses hgranted hid hskipped

end

/-! ## Between calls -/

/-- What a reader holds between two calls. -/
inductive Standing (s : Scene (Reader α) Shared) : Hold → Prop where
  | fresh (state : s.client.state = .uninitialized) (link : s.client.link = {})
    (consumer : s.client.consumer = none) (estimator : s.client.estimator = none)
    (skipped : s.client.skipped = []) (session : s.client.mark.session = none) : Standing s .free
  | working (handle : SessionHandle) (consumer : ConsumerHandle)
    (state : s.client.state = .consuming) (attached : Attached s handle consumer)
    (attends : Attends s (.held handle consumer)) : Standing s (.held handle consumer)
  | closed (state : s.client.state = .closed) (link : s.client.link = {})
    (consumer : s.client.consumer = none) (estimator : s.client.estimator = none)
    (session : s.client.mark.session = none) : Standing s .gone

/-- A reader that stays where it is. -/
theorem Leads.refl {s : Scene (Reader α) Shared} {hold : Hold} {delivered : List Message}
    (hattends : Attends s hold) : Leads calm name s hold delivered s hold delivered :=
  ⟨rfl, hattends, .refl⟩

/-- Less is claimed when nothing is said of calm. -/
theorem Leads.rough {s s' : Scene (Reader α) Shared} {hold hold' : Hold}
    {delivered delivered' : List Message}
    (h : Leads calm name s hold delivered s' hold' delivered') :
    Leads False name s hold delivered s' hold' delivered' :=
  ⟨h.config, h.attends, h.steps.rough⟩

/-- A reader between two calls attends to what it holds. -/
theorem Standing.attends {s : Scene (Reader α) Shared} {hold : Hold} (h : Standing s hold) :
    Attends s hold := by
  cases h with
  | working _ _ _ _ attends => exact attends
  | _ => exact attends_of_not_held rfl

variable {s : Scene (Reader α) Shared} {hold : Hold} {delivered : List Message}

/-- A reader that advances delivers a message or finds none. -/
theorem ensures_advance (hcalm : calm → schedule.Publishes) {handle : SessionHandle}
    {consumer : ConsumerHandle} (state : s.client.state = .consuming)
    (hattached : Attached s handle consumer) (hattends : Attends s (.held handle consumer)) :
    Ensures (advance (Shared.endpoint schedule)) s
      (Polled calm name s handle consumer delivered)
      (fun _ => Failed calm name s handle consumer delivered) := by
  let cleared : Scene (Reader α) Shared :=
    { s with client := { s.client with record := none, timestamp := none } }
  have hleads : Leads calm name s (.held handle consumer) delivered cleared
      (.held handle consumer) delivered :=
    ⟨rfl, hattends.mono rfl (List.Subset.refl _), .refl⟩
  simp only [advance, ensures_bind, Scene.ensures_get]
  rw [if_neg fun h => h state]
  simp only [ensures_bind, Scene.ensures_modify]
  split
  · rename_i hnone
    cases hnone.symm.trans hattached.consumer
  · rename_i found hsome
    obtain rfl := Option.some.inj (hsome.symm.trans hattached.consumer)
    have hpoll : Ensures (poll (Shared.endpoint schedule) found s.client.skipped.length) cleared
        (Polled calm name cleared handle found delivered)
        (fun _ => Failed calm name cleared handle found delivered) :=
      ensures_poll hcalm _ cleared ⟨hattached.session, hattached.consumer⟩ hleads.attends
        (Nat.le_refl _)
    have hstate : cleared.client.state = s.client.state := rfl
    exact hpoll.mono (fun _ _ => .of_skipped hstate hleads) fun _ _ => .of_skipped hstate hleads

/-- A reader that is not consuming does not advance. -/
theorem ensures_advance_of_ne (state : s.client.state ≠ .consuming) :
    Ensures (advance (Shared.endpoint schedule)) s (fun _ _ => False) (fun _ s' => s' = s) := by
  simp only [advance, ensures_bind, Scene.ensures_get]
  rw [if_pos state]
  rfl

/-- A reader that is closed is detached, and every session that it was attached to is closed
unless that failed. -/
theorem leads_of_releases {s' : Scene (Reader α) Shared} {errors : List BrokerError}
    (hattends : Attends s hold) (hretired : Retired s.client s'.client)
    (hreleases : s.env.Releases calm hold.Keeps s.client.link.session errors s'.env) :
    Leads False name s hold delivered s' .gone delivered ∧
      (errors = [] → hold.isHeld → Leads calm name s hold delivered s' .gone delivered) := by
  have hledger : s'.ledger .gone delivered =
      { s.ledger hold delivered with hold := .gone, env := s'.env } := by
    rw [Scene.ledger, hretired.pending, hretired.skipped]
    rfl
  have hsession : ∀ handle consumer, (s.ledger hold delivered).hold = .held handle consumer →
      s.client.link.session = some handle := fun handle consumer h => (hattends handle consumer h).1
  obtain ⟨hrough, hcalm⟩ := Ledger.steps_of_releases hsession hreleases
  rw [← hledger] at hrough hcalm
  have hattends' : Attends s' .gone := attends_of_not_held rfl
  exact ⟨⟨hretired.config, hattends', hrough⟩, fun herrors hsome =>
    ⟨hretired.config, hattends', hcalm herrors hsome⟩⟩

/-- What a reader ends with when it moved to its next message: it is at work, and delivered a
message or found none. -/
def Arrives (calm : Prop) (name : String) (s : Scene (Reader α) Shared) (hold : Hold)
    (delivered : List Message) (found : Bool) (s' : Scene (Reader α) Shared) : Prop :=
  ∃ handle consumer delivered', Standing s' (.held handle consumer) ∧
    Leads calm name s hold delivered s' (.held handle consumer) delivered' ∧
      Found calm name s hold delivered s' (.held handle consumer) found delivered'

/-- What a reader ends with when it failed to move to its next message. -/
def Stumbles (name : String) (s : Scene (Reader α) Shared) (hold : Hold)
    (delivered : List Message) (s' : Scene (Reader α) Shared) : Prop :=
  ∃ hold' delivered', Standing s' hold' ∧ Leads False name s hold delivered s' hold' delivered' ∧
    Missed s delivered delivered'

/-- A reader that advances is at work and delivers a message or finds none. One that is not at work
stays as it is. -/
theorem ensures_advance_of_standing (hcalm : calm → schedule.Publishes)
    (hstanding : Standing s hold) :
    Ensures (advance (Shared.endpoint schedule)) s (Arrives calm name s hold delivered)
      (fun _ => Stumbles name s hold delivered) := by
  have hidle : s.client.state ≠ .consuming →
      Ensures (advance (Shared.endpoint schedule)) s (Arrives calm name s hold delivered)
        (fun _ => Stumbles name s hold delivered) := by
    intro hstate
    refine (ensures_advance_of_ne hstate).mono (fun _ _ => False.elim) ?_
    rintro error s' rfl
    exact ⟨hold, delivered, hstanding, .refl hstanding.attends, .inl rfl⟩
  cases hstanding with
  | fresh state => exact hidle (by simp [state])
  | closed state => exact hidle (by simp [state])
  | working handle consumer state attached attends =>
    have hadvance : Ensures (advance (Shared.endpoint schedule)) s
        (Polled calm name s handle consumer delivered)
        (fun _ => Failed calm name s handle consumer delivered) :=
      ensures_advance hcalm state attached attends
    refine hadvance.mono ?_ ?_
    · rintro found s' ⟨state', attached', delivered', hleads, hfound⟩
      exact ⟨handle, consumer, delivered',
        .working _ _ (state'.trans state) attached' hleads.attends, hleads, hfound⟩
    · rintro error s' ⟨state', attached', delivered', hleads, hmissed⟩
      exact ⟨_, delivered', .working _ _ (state'.trans state) attached' hleads.attends,
        hleads.rough, hmissed⟩

/-- A reader that moves on after it delivered nothing arrives on the whole. -/
theorem Arrives.of_leads {s' s'' : Scene (Reader α) Shared} {hold' : Hold} {found : Bool}
    (hleads : Leads calm name s hold delivered s' hold' delivered)
    (h : Arrives calm name s' hold' delivered found s'') :
    Arrives calm name s hold delivered found s'' := by
  obtain ⟨handle, consumer, delivered', hstanding, hleads', hfound⟩ := h
  exact ⟨handle, consumer, delivered', hstanding, hleads.trans hleads', hfound.of_leads hleads⟩

/-- A reader that fails to move on after it delivered nothing stumbles on the whole. -/
theorem Stumbles.of_leads {s' s'' : Scene (Reader α) Shared} {hold' : Hold}
    (hleads : Leads calm name s hold delivered s' hold' delivered)
    (h : Stumbles name s' hold' delivered s'') : Stumbles name s hold delivered s'' := by
  obtain ⟨hold'', delivered', hstanding, hleads', hmissed⟩ := h
  refine ⟨hold'', delivered', hstanding, hleads.rough.trans hleads', ?_⟩
  rw [Missed, hleads.config] at hmissed
  exact hmissed

/-- A reader that is closed since it failed to start stumbles. -/
theorem Leads.stumbles {s' s'' : Scene (Reader α) Shared} {hold' : Hold}
    {errors : List BrokerError} (hleads : Leads calm name s hold delivered s' hold' delivered)
    (hretired : Retired s'.client s''.client)
    (hreleases : s'.env.Releases calm hold'.Keeps s'.client.link.session errors s''.env) :
    Stumbles name s hold delivered s'' := by
  refine ⟨.gone, delivered, .closed hretired.state hretired.link hretired.consumer
    hretired.estimator hretired.session, ?_, .inl rfl⟩
  exact hleads.rough.trans (leads_of_releases hleads.attends hretired hreleases).1

/-- A reader that starts is at work and delivers a message or finds none. If it fails, it is closed
or at work. -/
theorem ensures_start (hcalm : calm → schedule.Publishes) (hstanding : Standing s hold)
    (hdestination : s.client.config.destination = .queue name) :
    Ensures (start (Shared.endpoint schedule)) s (Arrives calm name s hold delivered)
      (fun _ => Stumbles name s hold delivered) := by
  simp only [start, ensures_bind, Scene.ensures_get]
  split
  · exact ⟨hold, delivered, hstanding, .refl hstanding.attends, .inl rfl⟩
  · rename_i hstate
    cases hstanding with
    | working _ _ state => simp [state] at hstate
    | closed state => simp [state] at hstate
    | fresh state link consumer estimator skipped session =>
      simp only [ensures_bind, Scene.ensures_modify, ensures_attempt]
      let connecting : Scene (Reader α) Shared :=
        { s with client := { s.client with state := .connecting } }
      refine (ensures_acquire hcalm connecting delivered (by rw [link]) hdestination).mono ?_ ?_
      · -- Its resources acquired, the reader is at work and moves to its first message.
        rintro _ s₁ ⟨handle, consumer', hattached, hleads⟩
        let working : Scene (Reader α) Shared :=
          { s₁ with client := { s₁.client with state := .consuming } }
        have hworking : Leads calm name s .free delivered working (.held handle consumer')
            delivered := ⟨hleads.config, hleads.attends, hleads.steps⟩
        have hadvance : Ensures (advance (Shared.endpoint schedule)) working
            (Arrives calm name working (.held handle consumer') delivered)
            (fun _ => Stumbles name working (.held handle consumer') delivered) :=
          ensures_advance_of_standing hcalm
            (.working _ _ rfl ⟨hattached.session, hattached.consumer⟩ hworking.attends)
        exact hadvance.mono (fun _ _ => .of_leads hworking) fun _ _ => .of_leads hworking
      · -- What it did acquire, it releases.
        rintro error s₁ ⟨hold₁, hleads⟩
        simp only [Scene.ensures_note, ensures_fail]
        have hleads' : Leads calm name s .free delivered s₁ hold₁ delivered :=
          ⟨hleads.config, hleads.attends, hleads.steps⟩
        let failing : Scene (Reader α) Shared :=
          { s₁ with journal := s₁.journal.note (.readerNotStarted error) }
        refine (ensures_close hcalm failing hleads.attends.kept).mono ?_ ?_
        · exact fun _ s₂ h => hleads'.stumbles h.retired h.releases
        · rintro failure s₂ ⟨errors, h⟩
          exact hleads'.stumbles h.retired h.releases

/-- What a reader ends with when it was finalized. Nothing is noted unless the broker denied an
entry. -/
structure Finalized (calm : Prop) (name : String) (s : Scene (Reader α) Shared) (hold : Hold)
    (delivered : List Message) (s' : Scene (Reader α) Shared) : Prop where
  standing : Standing s' hold
  leads : Leads calm name s hold delivered s' hold delivered
  skipped : s'.client.skipped = s.client.skipped
  noticed : s'.journal.notices = s.journal.notices ∨
    Ledger.Disputed calm name (s.ledger hold delivered) (s'.ledger hold delivered)

/-- A reader that is finalized settles its entries. If that did not fail, none is left. -/
theorem ensures_finalize (hcalm : calm → schedule.Publishes) (hhonest : schedule.NeverDenies)
    (hstanding : Standing s hold) :
    Ensures (finalize (Shared.endpoint schedule)) s
      (fun _ s' => Finalized calm name s hold delivered s' ∧ s'.client.mark.pending = [])
      (fun _ s' => Finalized calm name s hold delivered s') := by
  have hheld : ∀ handle, s.client.mark.session = some handle →
      handle.index ∈ s.env.sessions ∧ ∃ consumer, hold = .held handle consumer := by
    intro handle hsession
    cases hstanding with
    | working other consumer state attached attends =>
      obtain rfl := Option.some.inj (attached.session.symm.trans hsession)
      exact ⟨(attends _ _ rfl).2, consumer, rfl⟩
    | fresh state link consumer estimator skipped session => cases session.symm.trans hsession
    | closed state link consumer estimator session => cases session.symm.trans hsession
  let marked : Scene Mark Shared := ⟨s.client.mark, s.journal, s.env⟩
  have hmark : Ensures (Mark.finalize (Shared.endpoint schedule)) marked
      (fun _ s' => Mark.Finalized calm name hold s.client.skipped delivered marked s' ∧
        s'.client.pending = [])
      (fun _ s' => Mark.Finalized calm name hold s.client.skipped delivered marked s') :=
    Mark.ensures_finalize hcalm hhonest marked hheld
  have hfinalized : ∀ s' : Scene Mark Shared,
      Mark.Finalized calm name hold s.client.skipped delivered marked s' →
      Finalized calm name s hold delivered
        ⟨{ s.client with mark := s'.client }, s'.journal, s'.env⟩ := by
    intro s' h
    have hattends : Attends ⟨{ s.client with mark := s'.client }, s'.journal, s'.env⟩ hold :=
      hstanding.attends.mono rfl h.sessions
    refine ⟨?_, ⟨rfl, hattends, h.steps⟩, rfl, h.noticed⟩
    cases hstanding with
    | fresh state link consumer estimator skipped session =>
      exact .fresh state link consumer estimator skipped (h.session.trans session)
    | working handle consumer state attached attends =>
      exact .working handle consumer state ⟨h.session.trans attached.session, attached.consumer⟩
        hattends
    | closed state link consumer estimator session =>
      exact .closed state link consumer estimator (h.session.trans session)
  simp only [finalize, Scene.ensures_within]
  exact hmark.mono (fun _ s' h => ⟨hfinalized s' h.1, h.2⟩) fun _ s' h => hfinalized s' h

/-- What a reader ends with when it was closed, and what failed about its link. -/
structure Closed (calm : Prop) (name : String) (s : Scene (Reader α) Shared) (hold : Hold)
    (delivered : List Message) (errors : List BrokerError) (s' : Scene (Reader α) Shared) :
    Prop where
  retired : Retired s.client s'.client
  leads : Leads False name s hold delivered s' .gone delivered
  granted : errors = [] → Leads calm name s hold delivered s' .gone delivered
  releases : s.env.Releases calm hold.Keeps s.client.link.session errors s'.env

/-- A reader that is closed has nothing left. Its session is closed unless that failed. -/
theorem ensures_close_of_standing (hcalm : calm → schedule.Publishes)
    (hstanding : Standing s hold) :
    Ensures (close (Shared.endpoint schedule)) s
      (fun _ => Closed calm name s hold delivered [])
      (fun _ s' => ∃ errors, Closed calm name s hold delivered errors s') := by
  have hattends := hstanding.attends
  have hclosed : ∀ errors s', Closing calm hold.Keeps s errors s' →
      Closed calm name s hold delivered errors s' := by
    rintro errors s' ⟨hretired, hreleases, hidle⟩
    obtain ⟨hrough, hgranted⟩ := leads_of_releases hattends hretired hreleases
    refine ⟨hretired, hrough, fun herrors => ?_, hreleases⟩
    have hledger : s'.env = s.env → s'.ledger .gone delivered =
        { s.ledger .gone delivered with hold := .gone } := by
      intro henv
      rw [Scene.ledger, hretired.pending, hretired.skipped, henv]
      rfl
    refine ⟨hretired.config, attends_of_not_held rfl, ?_⟩
    -- A reader that holds nothing asks for nothing, so not even time passes.
    cases hstanding with
    | fresh state link consumer estimator =>
      rw [hledger (hidle link consumer estimator)]
      exact .single (.leave rfl)
    | closed state link consumer estimator =>
      rw [hledger (hidle link consumer estimator)]
      exact .refl
    | working => exact (hgranted herrors rfl).steps
  refine (ensures_close hcalm s hattends.kept).mono (fun _ s' => hclosed [] s') ?_
  rintro failure s' ⟨errors, h⟩
  exact ⟨errors, hclosed errors s' h⟩

/-! ## Runs -/

/-- What is done with a reader, or around it. -/
inductive Move where
  | start
  | advance
  | finalize
  | close
  /-- Other clients perform operations, each at its moment. -/
  | others (operations : List (Int64 × Operation))
  deriving DecidableEq, Inhabited

/-- A reader in its surroundings after a move. -/
def move (schedule : Schedule) (s : Scene (Reader α) Shared) : Move → Scene (Reader α) Shared
  | .start => (start (Shared.endpoint schedule) s).2
  | .advance => (advance (Shared.endpoint schedule) s).2
  | .finalize => (finalize (Shared.endpoint schedule) s).2
  | .close => (close (Shared.endpoint schedule) s).2
  | .others operations => { s with env := s.env.others operations }

/-- A reader in its surroundings after moves in order. -/
def run (schedule : Schedule) (moves : List Move) (s : Scene (Reader α) Shared) :
    Scene (Reader α) Shared :=
  moves.foldl (move schedule) s

/-- A reader without resources that begins with a mark or without one, at a broker. -/
def opening (config : ReadConfig α) (restored : Option Mark) (journal : Journal)
    (broker : Broker) : Scene (Reader α) Shared where
  client := create config restored
  journal := journal
  env := { broker := broker }

/-- A read of the texts of a queue. A message that is none counts as an empty text. -/
def textsOf (queue : String) : ReadConfig String where
  factory := ⟨0, "broker"⟩
  destination := .queue queue
  credentials := none
  maxNumRecords := none
  maxReadTime := none
  mapper message := .ok (message.text?.getD "")
  estimator := none

/-- Messages of a queue under names of their own, each published at its moment. -/
def publishing (queue : String) (names : List String) : List (Int64 × Operation) :=
  names.map fun name => (1, .publish (.queue queue) { Message.ofText name with id := some ⟨name⟩ })

/-- A schedule by which others stay away and nothing fails. -/
def undisturbed : Schedule := fun _ => {}

theorem neverDenies_undisturbed : undisturbed.NeverDenies := by
  simp [undisturbed, Schedule.NeverDenies]

theorem publishes_undisturbed : undisturbed.Publishes := by
  simp [undisturbed, Schedule.Publishes]

/-- Others that publish once, just before a request, do nothing else. -/
theorem publishes_of_publishing {schedule : Schedule} {request : Nat} {queue : String}
    {names : List String}
    (h : ∀ number, (schedule number).others =
      if number = request then publishing queue names else []) : schedule.Publishes := by
  intro number entry hentry
  rw [h] at hentry
  split at hentry
  · obtain ⟨other, -, rfl⟩ := List.mem_map.1 hentry
    exact ⟨_, _, rfl⟩
  · cases hentry

/-- Others publish one more message in time, and one acknowledgment fails. -/
def strainedSchedule : Schedule := fun number =>
  { others := if number = 7 then publishing "orders" ["D"] else []
    failure := fun request => match request with
      | .broker (.acknowledge _ ⟨"B"⟩) => some (.unavailable "maintenance")
      | _ => none }

theorem neverDenies_strainedSchedule : strainedSchedule.NeverDenies := by
  intro number session id error h
  dsimp only [strainedSchedule] at h
  split at h
  · obtain rfl := Option.some.inj h
    rfl
  · cases h

theorem publishes_strainedSchedule : strainedSchedule.Publishes :=
  publishes_of_publishing fun _ => rfl

/-- A reader that begins with a mark that is detached, or without one, is free. -/
theorem standing_opening (config : ReadConfig α) {restored : Option Mark}
    (hrestored : ∀ mark, restored = some mark → mark.isAttached = false) (journal : Journal)
    (broker : Broker) : Standing (opening config restored journal broker) .free := by
  have hdetached : (restored.getD {}).session = none := by
    cases restored with
    | none => rfl
    | some mark => simpa [Mark.isAttached] using hrestored mark rfl
  exact .fresh rfl rfl rfl rfl rfl hdetached

/-- A reader that is closed stands by itself. -/
theorem Retired.standing {before : Reader α} {s' : Scene (Reader α) Shared}
    (h : Retired before s'.client) : Standing s' .gone :=
  .closed h.state h.link h.consumer h.estimator h.session

/-- Others are at work while a reader does nothing. -/
theorem Standing.others (hstanding : Standing s hold) {operations : List (Int64 × Operation)}
    (hcalm : calm → ∀ entry ∈ operations, ∃ destination message,
      entry.2 = .publish destination message) :
    Standing { s with env := s.env.others operations } hold ∧
      Leads calm name s hold delivered { s with env := s.env.others operations } hold
        delivered := by
  have hattends : Attends { s with env := s.env.others operations } hold :=
    hstanding.attends.mono rfl (by simp)
  refine ⟨?_, rfl, hattends,
    .single (.pass _ (s.env.passes_others operations hstanding.attends.kept hcalm))⟩
  cases hstanding with
  | fresh state link consumer estimator skipped session =>
    exact .fresh state link consumer estimator skipped session
  | working handle consumer state attached attends =>
    exact .working handle consumer state ⟨attached.session, attached.consumer⟩ hattends
  | closed state link consumer estimator session =>
    exact .closed state link consumer estimator session

/-- Whether a move looks for the next message. -/
def Move.isReading : Move → Bool
  | start | advance => true
  | _ => false

/-- What a reader ends with after a move that delivers nothing. -/
def Rests (name : String) (s : Scene (Reader α) Shared) (hold : Hold) (delivered : List Message)
    (s' : Scene (Reader α) Shared) : Prop :=
  ∃ hold', Standing s' hold' ∧ Leads False name s hold delivered s' hold' delivered

/-- A move that does not look for the next message delivers nothing. -/
theorem Standing.rests (hhonest : schedule.NeverDenies) (hstanding : Standing s hold) {move : Move}
    (hmove : move.isReading = false) :
    Rests name s hold delivered (Reader.move schedule s move) := by
  cases move with
  | start => cases hmove
  | advance => cases hmove
  | finalize =>
    have hfinalize : Ensures (finalize (Shared.endpoint schedule)) s
        (fun _ => Rests name s hold delivered) (fun _ => Rests name s hold delivered) :=
      (ensures_finalize False.elim hhonest hstanding).mono
        (fun _ _ h => ⟨hold, h.1.standing, h.1.leads⟩) fun _ _ h => ⟨hold, h.standing, h.leads⟩
    exact hfinalize.state
  | close =>
    have hclose : Ensures (close (Shared.endpoint schedule)) s
        (fun _ => Rests name s hold delivered) (fun _ => Rests name s hold delivered) := by
      refine (ensures_close_of_standing False.elim hstanding).mono
        (fun _ _ h => ⟨.gone, h.retired.standing, h.leads⟩) ?_
      rintro error s' ⟨errors, h⟩
      exact ⟨.gone, h.retired.standing, h.leads⟩
    exact hclose.state
  | others operations => exact ⟨hold, hstanding.others False.elim⟩

/-- What a reader ends with after any move. -/
def Continues (name : String) (s : Scene (Reader α) Shared) (hold : Hold)
    (delivered : List Message) (s' : Scene (Reader α) Shared) : Prop :=
  ∃ hold' delivered', Standing s' hold' ∧ Leads False name s hold delivered s' hold' delivered'

/-- After every move a reader stands somewhere, and transitions led it there. -/
theorem Standing.move (hhonest : schedule.NeverDenies)
    (hdestination : s.client.config.destination = .queue name) (hstanding : Standing s hold)
    (move : Move) : Continues name s hold delivered (Reader.move schedule s move) := by
  have harrives : ∀ found s', Arrives False name s hold delivered found s' →
      Continues name s hold delivered s' := by
    rintro found s' ⟨handle, consumer, delivered', hstanding', hleads, -⟩
    exact ⟨_, delivered', hstanding', hleads⟩
  have hstumbles : ∀ s', Stumbles name s hold delivered s' →
      Continues name s hold delivered s' := by
    rintro s' ⟨hold', delivered', hstanding', hleads, -⟩
    exact ⟨hold', delivered', hstanding', hleads⟩
  have hrests : ∀ {move : Move}, move.isReading = false →
      Continues name s hold delivered (Reader.move schedule s move) := by
    intro move hmove
    obtain ⟨hold', hstanding', hleads⟩ : Rests name s hold delivered
      (Reader.move schedule s move) := hstanding.rests hhonest hmove
    exact ⟨hold', delivered, hstanding', hleads⟩
  cases move with
  | start =>
    have hstart : Ensures (start (Shared.endpoint schedule)) s
        (fun _ => Continues name s hold delivered) (fun _ => Continues name s hold delivered) :=
      (ensures_start False.elim hstanding hdestination).mono harrives fun _ => hstumbles
    exact hstart.state
  | advance =>
    have hadvance : Ensures (advance (Shared.endpoint schedule)) s
        (fun _ => Continues name s hold delivered) (fun _ => Continues name s hold delivered) :=
      (ensures_advance_of_standing False.elim hstanding).mono harrives fun _ => hstumbles
    exact hadvance.state
  | finalize => exact hrests rfl
  | close => exact hrests rfl
  | others operations => exact hrests rfl

/-- After every run a reader stands somewhere, and transitions led it there. -/
theorem Standing.run (hhonest : schedule.NeverDenies)
    (hdestination : s.client.config.destination = .queue name) (hstanding : Standing s hold)
    (moves : List Move) : Continues name s hold delivered (Reader.run schedule moves s) := by
  induction moves generalizing s hold delivered with
  | nil => exact ⟨hold, delivered, hstanding, .refl hstanding.attends⟩
  | cons first rest ih =>
    obtain ⟨hold', delivered', hstanding', hleads⟩ : Continues name s hold delivered
        (Reader.move schedule s first) := hstanding.move hhonest hdestination first
    obtain ⟨hold'', delivered'', hstanding'', hleads'⟩ :=
      ih (by rw [hleads.config, hdestination]) hstanding'
    exact ⟨hold'', delivered'', hstanding'', hleads.trans hleads'⟩

end Reader

end BrokerConnector
