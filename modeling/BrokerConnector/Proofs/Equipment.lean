import BrokerConnector.Proofs.Broker.Producers
import BrokerConnector.Proofs.Link
import BrokerConnector.Writer

/-!
# What a writer holds

A writer that is ready holds an open session and an open producer of it that is bound to no
destination. That is so however the writer came to be ready, whatever failed meanwhile and whatever
other clients do (`poised_run`).
-/

namespace BrokerConnector

open BrokerConnector.Action

namespace Shared

/-- A session that was opened here is open. -/
structure Serves (session : SessionHandle) (shared : Shared) : Prop where
  opened : session.index ∈ shared.sessions
  isOpen : ∃ found, shared.broker.sessions[session.index]? = some found ∧ found.closed = false

/-- A session that was opened here is open, and so is a producer of it for any destination. -/
structure Outfits (session : SessionHandle) (producer : ProducerHandle) (shared : Shared) :
    Prop extends Serves session shared where
  producer : shared.broker.producers[producer.index]? =
    some { bound := none, session := session.index }

variable {session : SessionHandle} {producer : ProducerHandle} {shared : Shared}

/-- A session is open as long as it is left alone. -/
theorem Serves.spared (h : shared.Serves session) {later : Shared}
    (sessions : shared.sessions ⊆ later.sessions)
    (spares : Contents.Spares (· = session.index) shared.broker.contents later.broker.contents) :
    later.Serves session := by
  obtain ⟨found, hfound, hopen⟩ := h.isOpen
  exact ⟨sessions h.opened, found, spares.sessions _ _ rfl hfound, hopen⟩

/-- Others leave a session open. -/
theorem Serves.others (h : shared.Serves session) (operations : List (Int64 × Operation)) :
    (shared.others operations).Serves session := by
  refine h.spared (by rw [sessions_others]; exact List.Subset.refl _) ?_
  exact (shared.spares_others operations).mono fun index hindex => hindex ▸ h.opened

/-- A request that concerns no deliveries leaves a session open, whatever becomes of it. -/
theorem Serves.add (h : shared.Serves session) {request : BrokerRequest}
    (hquiet : request.isQuiet = true) (now : Int64)
    (outcome : Outcome BrokerError request.Answer) :
    (shared.add (.broker request) outcome (shared.broker.perform now request).2).Serves
      session := by
  have hspares : Contents.Spares (· = session.index) shared.broker.contents
      (shared.broker.operate now (.request request)).contents := by
    refine shared.broker.spares_operate now fun index _ htouched => ?_
    rw [Broker.touched?_of_isQuiet _ hquiet] at htouched
    cases htouched
  exact h.spared (shared.subset_sessions_add _ _ _) hspares

/-- A request that fails leaves a session open. -/
theorem Serves.failed (h : shared.Serves session) {request : Request}
    (outcome : Outcome BrokerError request.Answer) :
    (shared.add request outcome shared.broker).Serves session :=
  h.spared (shared.subset_sessions_add _ _ _) (.refl _ _)

/-- A session that was just opened is open. -/
theorem serves_createSession {connection : ConnectionHandle} {mode : AcknowledgeMode} {now : Int64}
    {broker : Broker}
    (h : shared.broker.perform now (.createSession connection mode) = (.ok session, broker)) :
    (shared.add (.broker (.createSession connection mode)) (.done session) broker).Serves session
    where
  opened := by
    rw [sessions_add]
    exact List.mem_append_right _ (by simp [Exchange.opened?])
  isOpen := ⟨_, (Broker.sessions_of_createSession h).1, rfl⟩

/-- Others leave the producers alone that belong to a session which was opened here. -/
theorem producers_others {index : Nat} {found : Producer} (operations : List (Int64 × Operation))
    (hopened : found.session ∈ shared.sessions)
    (hfound : shared.broker.producers[index]? = some found) :
    (shared.others operations).broker.producers[index]? = some found := by
  -- An operation of others that goes through a session opened here is not carried out.
  induction operations generalizing shared with
  | nil => exact hfound
  | cons entry rest ih =>
    obtain ⟨now, operation⟩ := entry
    have hsessions : (shared.disturb now operation).sessions = shared.sessions :=
      shared.sessions_others [(now, operation)]
    refine ih (by rwa [hsessions]) ?_
    unfold disturb
    split
    · exact hfound
    · rename_i hthrough
      refine shared.broker.producers_operate now hfound fun hof => hthrough ?_
      rw [hof]
      simpa using hopened

/-- Others leave a session and its producer open. -/
theorem Outfits.others (h : shared.Outfits session producer)
    (operations : List (Int64 × Operation)) :
    (shared.others operations).Outfits session producer where
  toServes := h.toServes.others operations
  producer := producers_others operations h.opened h.producer

/-- A resolution or a send leaves a session and its producer open, whatever becomes of it. -/
theorem Outfits.add (h : shared.Outfits session producer) (request : BrokerRequest)
    (hquiet : request.isQuiet = true) (hcreate : ∀ of bound, request ≠ .createProducer of bound)
    (hclose : ∀ closed, request ≠ .closeProducer closed) (now : Int64)
    (outcome : Outcome BrokerError request.Answer) :
    (shared.add (.broker request) outcome (shared.broker.perform now request).2).Outfits session
      producer where
  toServes := h.toServes.add hquiet now outcome
  producer := by
    have hsame := shared.broker.producers_perform now hcreate hclose
    rw [Shared.add, hsame]
    exact h.producer

/-- A request that fails leaves a session and its producer open. -/
theorem Outfits.failed (h : shared.Outfits session producer) {request : Request}
    (outcome : Outcome BrokerError request.Answer) :
    (shared.add request outcome shared.broker).Outfits session producer where
  toServes := h.toServes.failed outcome
  producer := h.producer

end Shared

namespace Scene

variable {ρ : Type} {schedule : Schedule}

/-- A session that is open stays open during a request that concerns no deliveries. -/
theorem ensures_serving {s : Scene ρ Shared} (session : SessionHandle)
    (hserves : s.env.Serves session) {request : BrokerRequest} (hquiet : request.isQuiet = true)
    {done : request.Answer → Scene ρ Shared → Prop}
    {failed : BrokerError → Scene ρ Shared → Prop}
    (granted : ∀ (middle : Shared) now answer broker,
      middle.broker.perform now request = (.ok answer, broker) →
      (middle.add (.broker request) (.done answer) broker).Serves session →
      done answer { s with env := middle.add (.broker request) (.done answer) broker })
    (refused : ∀ error env, failed error { s with env := env }) :
    Ensures (ask (Shared.endpoint schedule) (.broker request)) s done failed := by
  refine ensures_ask ?_ fun _ error _ => refused error _
  intro number answer broker h
  refine granted _ _ answer broker h ?_
  have hadd := (hserves.others (schedule number).others).add hquiet (schedule number).now
    (.done answer)
  rwa [h] at hadd

end Scene

namespace Link

/-- A link that is acquired has an open session. -/
theorem ensures_acquire_serves {schedule : Schedule} (credentials : Option Credentials)
    (mode : AcknowledgeMode) (s : Scene Link Shared) :
    Ensures (acquire (Shared.endpoint schedule) credentials mode) s
      (fun session s' => s'.client.session = some session ∧ s'.env.Serves session)
      (fun _ _ => True) := by
  simp only [acquire, setupStep, ensures_bind, ensures_mapError, Scene.ensures_modify,
    ensures_pure]
  refine Scene.ensures_ask (fun number connection broker _ => ?_) fun _ _ _ => trivial
  refine Scene.ensures_ask (fun number _ broker _ => ?_) fun _ _ _ => trivial
  refine Scene.ensures_ask (fun number session broker hcreate => ?_) fun _ _ _ => trivial
  exact ⟨trivial, Shared.serves_createSession hcreate⟩

end Link

/-- The destination of every record, unless each has its own. -/
def WriteDestination.fixed? {ρ : Type} : WriteDestination ρ → Option Destination
  | fixed destination => some destination
  | topicOf _ => none

namespace Writer

variable {ρ : Type} {schedule : Schedule}

/-- What a writer holds that can send. A fixed destination of it has a name. -/
structure Equipped (session : SessionHandle) (producer : ProducerHandle)
    (s : Scene (Writer ρ) Shared) : Prop where
  link : s.client.link.session = some session
  held : s.client.producer = some producer
  destination : s.client.fixedDestination = s.client.config.destination.fixed?
  named : ∀ destination, s.client.config.destination.fixed? = some destination →
    Text.isBlank destination.name = false
  outfits : s.env.Outfits session producer

/-- A writer that is ready can send. -/
def Poised (s : Scene (Writer ρ) Shared) : Prop :=
  s.client.state = .ready → ∃ session producer, Equipped session producer s

/-- What setting up and tearing down leave alone of a writer. -/
structure Kept (before after : Writer ρ) : Prop where
  config : after.config = before.config
  failures : after.failures = before.failures

/-- A writer stays what it is. -/
theorem Kept.refl (writer : Writer ρ) : Kept writer writer := ⟨rfl, rfl⟩

/-- What is left alone twice is left alone. -/
theorem Kept.trans {first second third : Writer ρ} (h : Kept first second)
    (h' : Kept second third) : Kept first third :=
  ⟨h'.config.trans h.config, h'.failures.trans h.failures⟩

/-! ## Releasing -/

/-- A writer that releases its producer keeps the rest, and its state. -/
theorem ensures_releaseProducer (s : Scene (Writer ρ) Shared) :
    Ensures (releaseProducer (Shared.endpoint schedule)) s
      (fun _ s' => Kept s.client s'.client ∧ s'.client.state = s.client.state)
      (fun _ _ => False) := by
  simp only [releaseProducer, ensures_bind, Scene.ensures_get]
  cases s.client.producer with
  | none => exact ⟨.refl _, rfl⟩
  | some producer =>
    simp only [ensures_bind, Scene.ensures_modify, Scene.ensures_release]
    refine Scene.ensures_ask (fun _ _ _ _ => ?_) fun _ _ _ => ?_
    · exact ⟨⟨rfl, rfl⟩, rfl⟩
    · exact ⟨⟨rfl, rfl⟩, rfl⟩

/-- A writer that releases what it holds keeps the rest, and its state. -/
theorem ensures_release (s : Scene (Writer ρ) Shared) :
    Ensures (release (Shared.endpoint schedule)) s
      (fun _ s' => Kept s.client s'.client ∧ s'.client.state = s.client.state)
      (fun _ s' => Kept s.client s'.client ∧ s'.client.state = s.client.state) := by
  simp only [release, withLink, ensures_bind, Scene.ensures_within, Scene.ensures_modify]
  refine (ensures_releaseProducer s).mono ?_ fun _ _ => False.elim
  rintro ofProducer s₁ ⟨hkept, hstate⟩
  refine (Link.ensures_release False.elim _ fun _ => False.elim).mono ?_ fun _ _ => False.elim
  rintro ofLink s₂ -
  split
  · exact ⟨⟨hkept.config, hkept.failures⟩, hstate⟩
  · exact ⟨⟨hkept.config, hkept.failures⟩, hstate⟩

/-- A writer that releases what an abandoned setup left behind keeps the rest, and its state. -/
theorem ensures_releaseLeftovers (s : Scene (Writer ρ) Shared) :
    Ensures (releaseLeftovers (Shared.endpoint schedule)) s
      (fun _ s' => Kept s.client s'.client ∧ s'.client.state = s.client.state)
      (fun _ _ => False) := by
  simp only [releaseLeftovers, ensures_bind, Scene.ensures_get]
  split
  · exact ⟨.refl _, rfl⟩
  · simp only [ensures_bind, ensures_attempt]
    exact (ensures_release s).mono (fun _ _ => id) fun _ _ => id

/-! ## Acquiring -/

/-- A writer that creates its producer, as the last of its resources, can send. -/
theorem ensures_createProducer {session : SessionHandle} {s : Scene (Writer ρ) Shared}
    {before : Writer ρ} (kept : Kept before s.client) (state : s.client.state = before.state)
    (link : s.client.link.session = some session)
    (destination : s.client.fixedDestination = s.client.config.destination.fixed?)
    (named : ∀ destination, s.client.config.destination.fixed? = some destination →
      Text.isBlank destination.name = false) (serves : s.env.Serves session) :
    Ensures (do
        let producer ← setupStep (Shared.endpoint schedule) .createProducer
          (.broker (.createProducer session none))
        Scene.modify ({ · with producer := some producer }) : Call (Writer ρ) Shared Unit) s
      (fun _ s' => (∃ session producer, Equipped session producer s') ∧
        Kept before s'.client ∧ s'.client.state = before.state)
      (fun _ s' => Kept before s'.client ∧ s'.client.state = before.state) := by
  simp only [setupStep, ensures_bind, ensures_mapError, Scene.ensures_modify]
  refine Scene.ensures_serving session serves rfl ?_ fun _ _ => ⟨kept, state⟩
  intro middle now producer broker hcreate hserves
  have hequipped : Equipped session producer
      { client := { s.client with producer := some producer }, journal := s.journal
        env := middle.add (.broker (.createProducer session none)) (.done producer) broker } :=
    ⟨link, rfl, destination, named, hserves, Broker.producers_of_createProducer hcreate⟩
  exact ⟨⟨session, producer, hequipped⟩, ⟨kept.config, kept.failures⟩, state⟩

/-- A writer that acquires its resources can send. If it fails, it keeps the rest, and its
state. -/
theorem ensures_acquire (s : Scene (Writer ρ) Shared) :
    Ensures (acquire (Shared.endpoint schedule)) s
      (fun _ s' => (∃ session producer, Equipped session producer s') ∧
        Kept s.client s'.client ∧ s'.client.state = s.client.state)
      (fun _ s' => Kept s.client s'.client ∧ s'.client.state = s.client.state) := by
  simp only [acquire, withLink, ensures_bind, Scene.ensures_get, Scene.ensures_within]
  refine (Link.ensures_acquire_serves _ .auto _).mono ?_ fun _ _ _ => ⟨⟨rfl, rfl⟩, trivial⟩
  rintro session s₁ ⟨hsession, hserves⟩
  -- Only a fixed destination is resolved before the producer is created.
  cases hdestination : s.client.config.destination with
  | topicOf name =>
    rw [ensures_bind, Scene.ensures_modify]
    refine ensures_createProducer ⟨rfl, rfl⟩ rfl ?_ ?_ ?_ ?_
    · exact hsession
    · show none = s.client.config.destination.fixed?
      rw [hdestination]
      rfl
    · intro destination hfixed
      rw [show s.client.config.destination.fixed? = none by rw [hdestination]; rfl] at hfixed
      cases hfixed
    · exact hserves
  | fixed destination =>
    rw [ensures_bind]
    refine (ensures_mapError _ _).2 ?_
    refine Scene.ensures_serving session ?_ ?_ ?_ ?_
    · exact hserves
    · rfl
    · intro middle now resolved broker hresolve hserves'
      obtain ⟨hnamed, hresolved, -⟩ := Broker.named_of_resolve hresolve
      rw [ensures_bind, Scene.ensures_modify]
      refine ensures_createProducer ⟨rfl, rfl⟩ rfl ?_ ?_ ?_ ?_
      · exact hsession
      · show some resolved = s.client.config.destination.fixed?
        rw [hdestination, hresolved]
        rfl
      · intro other hfixed
        rw [show s.client.config.destination.fixed? = some destination by
          rw [hdestination]; rfl] at hfixed
        exact Option.some.inj hfixed ▸ hnamed
      · exact hserves'
    · exact fun _ _ => ⟨⟨rfl, rfl⟩, rfl⟩

/-- A writer that is set up is ready and can send. One that is not keeps the rest. -/
theorem ensures_setup {s : Scene (Writer ρ) Shared} (hpoised : Poised s) :
    Ensures (setup (Shared.endpoint schedule)) s
      (fun _ s' => (∃ session producer, Equipped session producer s') ∧ Kept s.client s'.client)
      (fun _ s' => s'.client.state ≠ .ready ∧ Kept s.client s'.client) := by
  simp only [setup, ensures_bind, Scene.ensures_get]
  split
  · rename_i hready
    exact ⟨hpoised hready, .refl _⟩
  · rename_i hstate
    simp only [ensures_bind, ensures_attempt]
    refine (ensures_releaseLeftovers s).mono ?_ fun _ _ => False.elim
    rintro _ s₁ ⟨hkept₁, hstate₁⟩
    refine (ensures_acquire s₁).mono ?_ ?_
    · rintro _ s₂ ⟨⟨session, producer, hequipped⟩, hkept₂, -⟩
      have hready : Equipped session producer
          { s₂ with client := { s₂.client with state := .ready } } :=
        ⟨hequipped.link, hequipped.held, hequipped.destination, hequipped.named,
          hequipped.outfits⟩
      refine ⟨⟨session, producer, hready⟩, ?_⟩
      exact hkept₁.trans ⟨hkept₂.config, hkept₂.failures⟩
    · rintro error s₂ ⟨hkept₂, hstate₂⟩
      simp only [Scene.ensures_note]
      -- Whatever the release comes to, the state is the one before, which is not ready.
      have hlost : ∀ s₃ : Scene (Writer ρ) Shared, Kept s₂.client s₃.client →
          s₃.client.state = s₂.client.state →
          s₃.client.state ≠ .ready ∧ Kept s.client s₃.client := by
        intro s₃ hkept₃ hstate₃
        rw [hstate₃, hstate₂, hstate₁]
        exact ⟨hstate, hkept₁.trans (hkept₂.trans hkept₃)⟩
      refine (ensures_release _).mono ?_ ?_
      · exact fun _ s₃ h => hlost s₃ h.1 h.2
      · exact fun _ s₃ h => hlost _ h.1 h.2

/-! ## Sending -/

/-- What sending leaves alone: a writer changes its failure output at most, and what it holds stays
open. -/
structure Aside (before after : Scene (Writer ρ) Shared) : Prop where
  client : ∃ failures, after.client = { before.client with failures := failures }
  outfits : ∀ session producer, before.env.Outfits session producer →
    after.env.Outfits session producer

/-- What is left alone twice is left alone. -/
theorem Aside.trans {first second third : Scene (Writer ρ) Shared} (h : Aside first second)
    (h' : Aside second third) : Aside first third where
  client := by
    obtain ⟨failures, hclient⟩ := h.client
    obtain ⟨failures', hclient'⟩ := h'.client
    exact ⟨failures', by rw [hclient', hclient]⟩
  outfits session producer := fun hfirst => h'.outfits _ _ (h.outfits _ _ hfirst)

/-- A writer can send, whatever is in its failure output. -/
theorem Equipped.failures {session : SessionHandle} {producer : ProducerHandle}
    {s s' : Scene (Writer ρ) Shared} (h : Equipped session producer s) {failures : FailureOutput ρ}
    (client : s'.client = { s.client with failures := failures })
    (outfits : s'.env.Outfits session producer) : Equipped session producer s' := by
  constructor
  · rw [client]
    exact h.link
  · rw [client]
    exact h.held
  · rw [client]
    exact h.destination
  · rw [client]
    exact h.named
  · exact outfits

/-- A writer that can send can send afterwards. -/
theorem Equipped.aside {session : SessionHandle} {producer : ProducerHandle}
    {s s' : Scene (Writer ρ) Shared} (h : Equipped session producer s) (haside : Aside s s') :
    Equipped session producer s' := by
  obtain ⟨failures, hclient⟩ := haside.client
  exact h.failures hclient (haside.outfits _ _ h.outfits)

/-- A request that a writer makes for a record leaves the writer alone, and what it holds open. -/
theorem ensures_ask_aside {request : BrokerRequest} (hquiet : request.isQuiet = true)
    (hcreate : ∀ of bound, request ≠ .createProducer of bound)
    (hclose : ∀ closed, request ≠ .closeProducer closed) (s : Scene (Writer ρ) Shared) :
    Ensures (Scene.ask (Shared.endpoint schedule) (.broker request)) s (fun _ => Aside s)
      (fun _ => Aside s) := by
  refine Scene.ensures_ask ?_ ?_
  · intro number answer broker h
    refine ⟨⟨s.client.failures, rfl⟩, fun session producer hbefore => ?_⟩
    have hadd := (hbefore.others (schedule number).others).add request hquiet hcreate hclose
      (schedule number).now (.done answer)
    rwa [h] at hadd
  · intro number error h
    exact ⟨⟨s.client.failures, rfl⟩, fun session producer hbefore => (hbefore.others _).failed _⟩

/-- A record that is sent, or not, changes the failure output of the writer at most. -/
theorem ensures_deliver_aside (record : ρ) (producer : ProducerHandle) (destination : Destination)
    (message : Message) (s : Scene (Writer ρ) Shared) :
    Ensures (deliver (Shared.endpoint schedule) record producer destination message) s
      (fun _ => Aside s) (fun _ _ => False) := by
  simp only [deliver, ensures_bind, ensures_attempt]
  refine (ensures_ask_aside rfl (by simp) (by simp) s).mono ?_ ?_
  · exact fun _ s' h => ⟨h.client, h.outfits⟩
  · rintro error s' h
    exact h.trans ⟨⟨_, rfl⟩, fun _ _ => id⟩

/-- A record that is processed changes the failure output of the writer at most. -/
theorem ensures_process_aside (record : ρ) (s : Scene (Writer ρ) Shared) :
    Ensures (process (Shared.endpoint schedule) record) s (fun _ => Aside s) (fun _ _ => False) := by
  simp only [process, ensures_bind, Scene.ensures_get]
  split
  · split
    · simp only [dispatch, ensures_bind, Scene.ensures_get]
      split
      · simp only [ensures_bind, ensures_attempt]
        refine (ensures_ask_aside rfl (by simp) (by simp) s).mono ?_ ?_
        · rintro destination s' h
          exact (ensures_deliver_aside _ _ _ _ s').mono (fun _ _ => h.trans) fun _ _ => id
        · rintro error s' h
          exact h.trans ⟨⟨_, rfl⟩, fun _ _ => id⟩
      · split
        · exact ensures_deliver_aside _ _ _ _ s
        · exact ⟨⟨_, rfl⟩, fun _ _ => id⟩
    · exact ⟨⟨_, rfl⟩, fun _ _ => id⟩
  · exact ⟨⟨_, rfl⟩, fun _ _ => id⟩

/-- Records that are processed change the failure output of the writer at most. -/
theorem ensures_processAll_aside (records : List ρ) (summary : WriteSummary)
    (s : Scene (Writer ρ) Shared) :
    Ensures (processAll (Shared.endpoint schedule) records summary) s (fun _ => Aside s)
      (fun _ _ => False) := by
  induction records generalizing summary s with
  | nil => exact ⟨⟨_, rfl⟩, fun _ _ => id⟩
  | cons record rest ih =>
    simp only [processAll, ensures_bind]
    refine (ensures_process_aside record s).mono ?_ fun _ _ => id
    intro outcome s' h
    exact (ih _ s').mono (fun _ _ => h.trans) fun _ _ => id

/-! ## What is done with a writer -/

/-- What can be done with a writer and with the receiving end of its failure output. -/
inductive Use (ρ : Type) where
  | setUp
  | process (record : ρ)
  | writeAll (records : List ρ)
  | tearDown
  | drainFailures
  | closeFailures
  deriving DecidableEq

/-- Does something with a writer. -/
def use {σ : Type} (endpoint : Endpoint σ) : Use ρ → Call (Writer ρ) σ Unit
  | .setUp => setup endpoint
  | .process record => do let _ ← process endpoint record
  | .writeAll records => do let _ ← writeAll endpoint records
  | .tearDown => teardown endpoint
  | .drainFailures =>
    Scene.modify fun writer => { writer with failures := writer.failures.drain.2 }
  | .closeFailures => Scene.modify fun writer => { writer with failures := writer.failures.close }

/-- What is left of a writer after one thing after another was done with it, whatever failed. -/
def run {σ : Type} (endpoint : Endpoint σ) :
    List (Use ρ) → Scene (Writer ρ) σ → Scene (Writer ρ) σ
  | [], s => s
  | next :: rest, s => run endpoint rest (use endpoint next s).2

/-- A writer as it is created, in front of a broker. -/
def opening (config : WriteConfig ρ) (journal : Journal) (broker : Broker) :
    Scene (Writer ρ) Shared where
  client := { config := config }
  journal := journal
  env := { broker := broker }

/-- A writer that is torn down is not ready. -/
theorem ensures_teardown (s : Scene (Writer ρ) Shared) :
    Ensures (teardown (Shared.endpoint schedule)) s
      (fun _ s' => Kept s.client s'.client ∧ s'.client.state = .tornDown)
      (fun _ s' => Kept s.client s'.client ∧ s'.client.state = .tornDown) := by
  simp only [teardown, ensures_bind, ensures_attempt, Scene.ensures_modify]
  refine (ensures_release s).mono ?_ ?_
  · rintro value s' ⟨hkept, -⟩
    exact ⟨⟨hkept.config, hkept.failures⟩, rfl⟩
  · rintro error s' ⟨hkept, -⟩
    exact ⟨⟨hkept.config, hkept.failures⟩, rfl⟩

/-- Whatever is done with a writer, it can send if it is ready. -/
theorem poised_use {s : Scene (Writer ρ) Shared} (h : Poised s) (next : Use ρ) :
    Poised (use (Shared.endpoint schedule) next s).2 := by
  cases next with
  | setUp =>
    refine Ensures.state ((ensures_setup h).mono ?_ ?_)
    · exact fun _ s' hs' _ => hs'.1
    · exact fun _ s' hs' hready => (hs'.1 hready).elim
  | process record =>
    have haside : Ensures (use (Shared.endpoint schedule) (.process record)) s
        (fun _ => Aside s) (fun _ => Aside s) := by
      simp only [use, ensures_bind]
      exact (ensures_process_aside record s).mono (fun _ _ => id) fun _ _ => False.elim
    intro hready
    have hafter := haside.state
    obtain ⟨failures, hclient⟩ := hafter.client
    rw [hclient] at hready
    obtain ⟨session, producer, hequipped⟩ := h hready
    exact ⟨session, producer, hequipped.aside hafter⟩
  | writeAll records =>
    -- What is written is torn down in the end, or was not set up at all.
    have hdone : Ensures (use (Shared.endpoint schedule) (.writeAll records)) s
        (fun _ => Poised) (fun _ => Poised) := by
      simp only [use, writeAll, ensures_bind]
      refine (ensures_setup h).mono ?_ fun _ _ hs' hready => (hs'.1 hready).elim
      rintro _ s₁ -
      refine (ensures_processAll_aside records _ s₁).mono ?_ fun _ _ => False.elim
      rintro summary s₂ -
      simp only [ensures_attempt]
      have hdown : ∀ s₃ : Scene (Writer ρ) Shared, s₃.client.state = .tornDown → Poised s₃ := by
        intro s₃ hstate hready
        rw [hstate] at hready
        cases hready
      refine (ensures_teardown s₂).mono ?_ ?_
      · exact fun _ s₃ hs₃ => hdown s₃ hs₃.2
      · exact fun _ s₃ hs₃ => hdown _ hs₃.2
    exact hdone.state
  | tearDown =>
    have hdown : Ensures (use (Shared.endpoint schedule) .tearDown) s
        (fun _ s' => s'.client.state = .tornDown) (fun _ s' => s'.client.state = .tornDown) :=
      (ensures_teardown s).mono (fun _ _ h' => h'.2) fun _ _ h' => h'.2
    intro hready
    rw [hdown.state] at hready
    cases hready
  | drainFailures | closeFailures =>
    intro hready
    obtain ⟨session, producer, hequipped⟩ := h hready
    exact ⟨session, producer, hequipped.aside ⟨⟨_, rfl⟩, fun _ _ => id⟩⟩

/-- Whatever was done with a writer, and whatever others do, it can send if it is ready. -/
theorem poised_run {s : Scene (Writer ρ) Shared} (h : Poised s) (uses : List (Use ρ)) :
    Poised (run (Shared.endpoint schedule) uses s) := by
  induction uses generalizing s with
  | nil => exact h
  | cons next rest ih => exact ih (poised_use h next)

/-- A writer that was just created is not ready. -/
theorem poised_opening (config : WriteConfig ρ) (journal : Journal) (broker : Broker) :
    Poised (opening config journal broker) := by
  intro hready
  cases hready

end Writer

end BrokerConnector
