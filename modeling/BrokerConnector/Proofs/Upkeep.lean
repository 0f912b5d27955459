import BrokerConnector.Proofs.Equipment
import BrokerConnector.Proofs.Holding
import BrokerConnector.World

/-!
# What a writer keeps up

A writer is set up, processes records and is torn down in any order, in any surroundings, and any
request may be granted, refused or left unanswered. What it holds is what it acquired and did not
give up since, and its state tells how much that is (`Tenable`): where every request was answered, a
writer that is ready holds all that it needs and any other holds nothing (`Orderly`). Setups and
teardowns go from there as it is told by `SetsUp` and `TearsDown` (`upholds_resources`).
-/

namespace BrokerConnector

open BrokerConnector.Action

/-- Whether a notice tells of a writer that lacks what it needs to send a record. -/
def Notice.isLack : Notice → Bool
  | writerNotReady _ _ | recordWithoutDestination _ => true
  | _ => false

namespace Writer

variable {ρ σ : Type} {endpoint : Endpoint σ} {s s' : Scene (Writer ρ) (Traced σ)}

/-! ## What a writer holds -/

/-- What a writer holds, in the order in which it gives it up. -/
def resources (writer : Writer ρ) : List Resource :=
  writer.producer.toList.map .producer ++ writer.link.resources

/-- The steps by which a writer is set up. The destinations of records are not resolved then. -/
def plan (config : WriteConfig ρ) : List SetupStep :=
  Link.plan ++
    match config.destination with
    | .fixed _ => [.resolveDestination, .createProducer]
    | .topicOf _ => [.createProducer]

/-! ## Giving up -/

/-- A producer that is held is closed. -/
theorem traces_releaseProducer (s : Scene (Writer ρ) (Traced σ)) :
    Leaves (releaseProducer endpoint.traced) s
      (fun refusals s' => s'.client = { s.client with producer := none } ∧
        Traced.Released (s.client.producer.toList.map .producer) refusals s.env s'.env)
      (fun _ _ => False)
      (fun s' => s'.client = { s.client with producer := none } ∧
        Traced.Stalls (s.client.producer.toList.map .producer) s.env [] s'.env) := by
  simp only [releaseProducer, leaves_bind, Scene.leaves_get]
  cases hproducer : s.client.producer with
  | none =>
    refine ⟨?_, .nil _⟩
    rw [← hproducer]
  | some producer =>
    simp only [leaves_bind, Scene.leaves_modify]
    exact Scene.traces_close rfl rfl rfl (fun _ _ _ h => ⟨rfl, h⟩) fun _ h => ⟨rfl, h⟩

/-- A writer without what it held. -/
def emptied (writer : Writer ρ) : Writer ρ :=
  { writer with link := {}, producer := none, fixedDestination := none }

/-- A writer gave up everything that it held, in order and whatever failed. -/
structure Emptied (before : Scene (Writer ρ) (Traced σ)) (refusals : List BrokerError)
    (after : Scene (Writer ρ) (Traced σ)) : Prop where
  client : after.client = before.client.emptied
  released : Traced.Released before.client.resources refusals before.env after.env

/-- It does not matter what is noted. -/
theorem Emptied.noted {refusals : List BrokerError} (h : Emptied s refusals s') (notice : Notice) :
    Emptied s refusals { s' with journal := s'.journal.note notice } :=
  ⟨h.client, h.released⟩

/-- A writer is in the state that it was in, and lacks a producer. -/
structure Lacking (before after : Writer ρ) : Prop extends Kept before after where
  state : after.state = before.state
  producer : after.producer = none

/-- A release is left unanswered. A writer that gives up what it holds begins with its producer. -/
structure Stalled (before after : Scene (Writer ρ) (Traced σ)) : Prop
    extends Lacking before.client after.client where
  stalls : Traced.Stalls before.client.resources before.env after.client.resources after.env

/-- A writer gives up everything that it holds, and ends with what was refused. -/
theorem traces_release (s : Scene (Writer ρ) (Traced σ)) :
    Leaves (release endpoint.traced) s (fun _ => Emptied s [])
      (fun error s' => ∃ refusal refusals, error = .release (refusal :: refusals) ∧
        Emptied s (refusal :: refusals) s')
      (Stalled s) := by
  simp only [release, leaves_bind, withLink, Scene.leaves_within, Scene.leaves_modify]
  refine (traces_releaseProducer s).mono ?_ (fun _ _ => False.elim) ?_
  · rintro ofProducer s₁ ⟨hclient₁, hproducer⟩
    refine (Link.traces_release _).mono ?_ (fun _ _ => False.elim) ?_
    · rintro ofLink s₂ ⟨hlink, hreleased⟩
      rw [hclient₁] at hreleased ⊢
      -- Both outcomes leave the writer empty, and differ in what was refused.
      have hemptied : ∀ s', s'.client = s.client.emptied → s'.env = s₂.env →
          Emptied s (ofProducer ++ ofLink) s' := by
        intro s' hclient henv
        refine ⟨hclient, ?_⟩
        rw [henv]
        exact hproducer.append hreleased
      cases hfailures : ofProducer ++ ofLink with
      | nil =>
        rw [hfailures] at hemptied
        refine hemptied _ ?_ rfl
        rw [hlink]
        rfl
      | cons refusal refusals =>
        rw [hfailures] at hemptied
        refine ⟨refusal, refusals, rfl, hemptied _ ?_ rfl⟩
        rw [hlink]
        rfl
    · rintro s₂ hstalls
      rw [hclient₁] at hstalls ⊢
      exact ⟨⟨⟨rfl, rfl⟩, rfl, rfl⟩, (hproducer.quits.append _).trans hstalls.toQuits,
        hstalls.hanging⟩
  · rintro s₁ ⟨hclient₁, hstalls⟩
    constructor
    · rw [hclient₁]
      exact ⟨⟨rfl, rfl⟩, rfl, rfl⟩
    · refine ⟨?_, hstalls.hanging⟩
      rw [hclient₁]
      exact hstalls.toQuits.append _

/-- A writer without a producer gave up what else it held. If it held nothing, it did nothing. -/
structure Cleared (before after : Scene (Writer ρ) (Traced σ)) : Prop
    extends Lacking before.client after.client where
  link : after.client.link = {}
  released : ∃ refusals, Traced.Released before.client.resources refusals before.env after.env
  idle : before.client.link = {} → after = before

/-- A writer without a producer that holds an empty link holds nothing. -/
theorem resources_eq_nil {writer : Writer ρ} (hproducer : writer.producer = none)
    (hlink : writer.link = {}) : writer.resources = [] := by
  rw [resources, hproducer, hlink]
  rfl

/-- A writer gives up what an abandoned setup left behind. -/
theorem traces_releaseLeftovers (hproducer : s.client.producer = none) :
    Leaves (releaseLeftovers endpoint.traced) s (fun _ => Cleared s) (fun _ _ => False)
      (Stalled s) := by
  simp only [releaseLeftovers, leaves_bind, Scene.leaves_get]
  split
  · rename_i hempty
    have hlink : s.client.link = {} := by
      generalize s.client.link = link at hempty
      obtain ⟨connection, session⟩ := link
      cases connection <;> cases session <;> simp_all [Link.isEmpty]
    refine ⟨⟨.refl _, rfl, hproducer⟩, hlink, ⟨[], ?_⟩, fun _ => rfl⟩
    rw [resources_eq_nil hproducer hlink]
    exact .nil _
  · rename_i hempty
    have hcleared : ∀ {refusals after}, Emptied s refusals after → Cleared s after := by
      intro refusals after hafter
      refine ⟨?_, ?_, ⟨refusals, hafter.released⟩, fun hlink => absurd ?_ hempty⟩
      · rw [hafter.client]
        exact ⟨⟨rfl, rfl⟩, rfl, rfl⟩
      · rw [hafter.client]
        rfl
      · rw [hlink]
        rfl
    simp only [leaves_bind, leaves_attempt]
    refine (traces_release s).mono ?_ ?_ (fun _ => id)
    · exact fun _ _ => hcleared
    · rintro _ s₁ ⟨refusal, refusals, -, hemptied⟩
      exact hcleared (hemptied.noted _)

/-! ## Setting up -/

/-- A writer holds all that it needs to send. -/
structure Full (writer : Writer ρ) : Prop where
  held : ∃ connection session producer, writer.link = ⟨some connection, some session⟩ ∧
    writer.producer = some producer
  destination : writer.fixedDestination.isSome = !writer.config.destination.isDynamic

/-- A writer creates its producer as the last of its resources. -/
theorem traces_createProducer {before : Writer ρ} {start : Traced σ} {steps : List SetupStep}
    {connection : ConnectionHandle} {session : SessionHandle}
    (hplan : plan before.config = steps ++ [.createProducer])
    (hlacking : Lacking before s.client) (hlink : s.client.link = ⟨some connection, some session⟩)
    (hdestination : s.client.fixedDestination.isSome = !before.config.destination.isDynamic)
    (h : Traced.Granted steps [.session session, .connection connection] start s.env) :
    Leaves (do
        let producer ← setupStep endpoint.traced .createProducer
          (.broker (.createProducer session none))
        Scene.modify ({ · with producer := some producer }) : Call (Writer ρ) (Traced σ) Unit) s
      (fun _ s' => Kept before s'.client ∧ Full s'.client ∧
        Traced.Granted (plan before.config) s'.client.resources start s'.env)
      (fun error s' => Lacking before s'.client ∧
        Traced.Refused (plan before.config) s'.client.resources start error s'.env)
      (fun s' => Lacking before s'.client ∧ Traced.Waits s'.client.resources start s'.env) := by
  have hresources : s.client.resources = [.session session, .connection connection] := by
    rw [resources, hlacking.producer, hlink]
    rfl
  rw [← hresources] at h
  simp only [leaves_bind, Scene.leaves_modify]
  refine Scene.traces_setupStep h hplan rfl ?_ ?_ (fun _ _ h => ⟨hlacking, h⟩)
    (fun _ h => ⟨hlacking, h⟩)
  · rintro producer resource hacquires hconnection
    cases hacquires
    cases hconnection
  · intro producer env hgranted
    refine ⟨⟨hlacking.config, hlacking.failures⟩, ⟨⟨connection, session, producer, hlink, rfl⟩, ?_⟩,
      ?_⟩
    · rw [hlacking.config]
      exact hdestination
    · rw [hplan]
      convert hgranted using 1
      show _ ++ s.client.link.resources = _
      rw [hresources, hlink]
      rfl

/-- A writer acquires its resources step by step. -/
theorem traces_acquire (hproducer : s.client.producer = none) (hlink : s.client.link = {})
    (h : s.env.Holds []) :
    Leaves (acquire endpoint.traced) s
      (fun _ s' => Kept s.client s'.client ∧ Full s'.client ∧
        Traced.Granted (plan s.client.config) s'.client.resources s.env s'.env)
      (fun error s' => Lacking s.client s'.client ∧
        Traced.Refused (plan s.client.config) s'.client.resources s.env error s'.env)
      (fun s' => Lacking s.client s'.client ∧
        Traced.Waits s'.client.resources s.env s'.env) := by
  obtain ⟨⟨config, state, link, producer, fixedDestination, failures⟩, journal, env⟩ := s
  obtain rfl : link = {} := hlink
  obtain rfl : producer = none := hproducer
  have hlacking : ∀ link fixed, Lacking (ρ := ρ)
      ⟨config, state, {}, none, fixedDestination, failures⟩
      ⟨config, state, link, none, fixed, failures⟩ := fun _ _ => ⟨⟨rfl, rfl⟩, rfl, rfl⟩
  simp only [acquire, leaves_bind, Scene.leaves_get, withLink, Scene.leaves_within]
  refine (Link.traces_acquire _ _ _ rfl h).mono ?_ (fun _ _ h => ⟨hlacking _ _, h⟩)
    (fun _ h => ⟨hlacking _ _, h⟩)
  rintro session ⟨_, journal₁, env₁⟩ ⟨connection, rfl, h₁⟩
  -- Only a destination of all records is resolved here.
  cases hdestination : config.destination with
  | fixed destination =>
    have hplan : plan config = Link.plan ++ [.resolveDestination, .createProducer] := by
      rw [plan, hdestination]
    rw [leaves_bind]
    refine Scene.traces_setupStep h₁ hplan rfl (by simp [Request.acquires?]) ?_
      (fun _ _ h => ⟨hlacking _ _, h⟩) (fun _ h => ⟨hlacking _ _, h⟩)
    intro resolved env₂ h₂
    rw [leaves_bind, Scene.leaves_modify]
    refine traces_createProducer hplan (hlacking _ _) rfl ?_ h₂
    simp [hdestination, WriteDestination.isDynamic]
  | topicOf name =>
    have hplan : plan config = Link.plan ++ [.createProducer] := by
      rw [plan, hdestination]
    rw [leaves_bind, Scene.leaves_modify]
    refine traces_createProducer hplan (hlacking _ _) rfl ?_ h₁
    simp [hdestination, WriteDestination.isDynamic]

/-- What a writer without a producer held is held no longer. -/
theorem Cleared.quits (h : Cleared s s') :
    Traced.Quits s.client.resources s.env s'.client.resources s'.env := by
  obtain ⟨refusals, hreleased⟩ := h.released
  rw [resources_eq_nil h.producer h.link]
  exact hreleased.quits

/-- A writer was set up: what an abandoned setup left behind was given up, then each step was
granted, and what it acquired is held. -/
structure Fitted (before after : Scene (Writer ρ) (Traced σ)) : Prop
    extends Kept before.client after.client, Full after.client where
  state : after.client.state = .ready
  granted : ∃ middle, Cleared before middle ∧
    Traced.Granted (plan before.client.config) after.client.resources middle.env after.env

/-- A writer was refused a step of its setup, and gave up what it acquired before. -/
structure Unfitted (before : Scene (Writer ρ) (Traced σ)) (error : ConnectorError)
    (after : Scene (Writer ρ) (Traced σ)) : Prop
    extends Lacking before.client after.client where
  empty : after.client = after.client.emptied
  released : ∃ middle held halfway refusals, Cleared before middle ∧
    Traced.Refused (plan before.client.config) held middle.env error halfway ∧
    Traced.Released held refusals halfway after.env

/-- A setup is left unanswered. -/
structure Suspended (before after : Scene (Writer ρ) (Traced σ)) : Prop
    extends Lacking before.client after.client where
  holds : after.env.Holds after.client.resources
  unanswered : ¬ after.env.trace.Answered

/-- What a writer holds when a release is left unanswered. -/
theorem Stalled.suspended (h : Stalled s s') (hholds : s.env.Holds s.client.resources) :
    Suspended s s' where
  toLacking := h.toLacking
  holds := h.stalls.toQuits.holds_of hholds
  unanswered hanswered := by
    have hhanging := h.stalls.hanging
    rw [hanswered.isHanging] at hhanging
    cases hhanging

/-- A writer that is set up, and is not ready, is ready then, or gives up what it acquired. -/
theorem traces_setup (hstate : s.client.state ≠ .ready) (hproducer : s.client.producer = none)
    (h : s.env.Holds s.client.resources) :
    Leaves (setup endpoint.traced) s (fun _ => Fitted s) (Unfitted s) (Suspended s) := by
  simp only [setup, leaves_bind, Scene.leaves_get]
  rw [if_neg hstate]
  simp only [leaves_bind, leaves_attempt]
  refine (traces_releaseLeftovers hproducer).mono ?_ (fun _ _ => False.elim)
    fun _ hstalled => hstalled.suspended h
  rintro _ s₁ hcleared
  -- What an abandoned setup left behind is gone, so each step starts from empty hands.
  have hholds : s₁.env.Holds [] := by
    have hquits := hcleared.quits.holds_of h
    rwa [resources_eq_nil hcleared.producer hcleared.link] at hquits
  refine (traces_acquire hcleared.producer hcleared.link hholds).mono ?_ ?_ ?_
  · rintro _ s₂ ⟨hkept, hfull, hgranted⟩
    rw [hcleared.config] at hgranted
    have hsame : Kept s.client s₂.client := hcleared.toKept.trans hkept
    exact ⟨⟨hsame.config, hsame.failures⟩, ⟨hfull.held, hfull.destination⟩, rfl, s₁, hcleared,
      hgranted⟩
  · rintro error s₂ ⟨hlacking, hrefused⟩
    rw [hcleared.config] at hrefused
    have hsame : Lacking s.client s₂.client :=
      ⟨hcleared.toKept.trans hlacking.toKept, hlacking.state.trans hcleared.state,
        hlacking.producer⟩
    simp only [Scene.leaves_note]
    let noted : Scene (Writer ρ) (Traced σ) :=
      { s₂ with journal := s₂.journal.note (.writerNotSetUp error) }
    have hunfitted : ∀ {refusals s'}, Emptied noted refusals s' → Unfitted s error s' := by
      intro refusals s' hs'
      refine ⟨?_, ?_, s₁, _, _, refusals, hcleared, hrefused, hs'.released⟩
      · rw [hs'.client]
        exact ⟨⟨hsame.config, hsame.failures⟩, hsame.state, rfl⟩
      · rw [hs'.client]
        rfl
    refine (traces_release noted).mono ?_ ?_ ?_
    · exact fun _ _ => hunfitted
    · rintro _ s' ⟨_, _, -, hs'⟩
      exact hunfitted (hs'.noted _)
    · intro s' hstalled
      have hsuspended := hstalled.suspended hrefused.holds
      exact ⟨⟨hsame.toKept.trans hstalled.toKept, hstalled.state.trans hsame.state,
        hstalled.producer⟩, hsuspended.holds, hsuspended.unanswered⟩
  · rintro s₂ ⟨hlacking, hwaits⟩
    exact ⟨⟨hcleared.toKept.trans hlacking.toKept, hlacking.state.trans hcleared.state,
      hlacking.producer⟩, hwaits.holds, hwaits.unanswered⟩

/-! ## Writing -/

/-- A writer but for its failure output. -/
def standing (writer : Writer ρ) : Writer ρ :=
  { writer with failures := {} }

theorem retains_routeFailure (record : ρ) (reason : FailureReason) :
    Scene.Retains (σ := σ) standing (fun _ => True) (routeFailure record reason) :=
  .bind (.count _ _) fun _ => .bind (.modify fun _ => rfl) fun _ => .pure _

theorem retains_deliver (record : ρ) (producer : ProducerHandle) (destination : Destination)
    (message : Message) :
    Scene.Retains standing (fun _ => True)
      (deliver endpoint.traced record producer destination message) := by
  refine .bind (.attempt (.ask (fun _ => rfl) rfl)) fun result => ?_
  cases result with
  | ok id => exact .bind (.count _ _) fun _ => .pure _
  | error error => exact .bind (.note _) fun _ => retains_routeFailure record _

/-- A writer that processes a record holds on to what it has. -/
theorem retains_process (record : ρ) :
    Scene.Retains standing (fun _ => True) (process endpoint.traced record) := by
  have hdispatch : ∀ session producer message, Scene.Retains standing (fun _ => True)
      (dispatch endpoint.traced record session producer message) := by
    intro session producer message
    refine .bind .get fun writer => ?_
    dsimp only
    split
    · refine .bind (.attempt (.ask (fun _ => rfl) rfl)) fun result => ?_
      cases result with
      | ok destination => exact retains_deliver record producer destination message
      | error error => exact .bind (.note _) fun _ => retains_routeFailure record _
    · split
      · exact retains_deliver record producer _ message
      · exact .bind (.note _) fun _ => retains_routeFailure record _
  refine .bind .get fun writer => ?_
  split
  · split
    · exact hdispatch _ _ _
    · exact .bind (.note _) fun _ => retains_routeFailure record _
  · exact .bind (.note _) fun _ => retains_routeFailure record _

/-- A writer that lacks a producer asks for nothing when it processes a record. -/
theorem env_process (hproducer : s.client.producer = none) (record : ρ) :
    (process endpoint.traced record s).2.env = s.env := by
  have hleaves : Leaves (process endpoint.traced record) s (fun _ s' => s'.env = s.env)
      (fun _ s' => s'.env = s.env) (fun s' => s'.env = s.env) := by
    simp only [process, leaves_bind, Scene.leaves_get]
    rw [hproducer]
    split
    · rename_i hsome
      cases hsome
    · rfl
  exact Leaves.result (fun _ (s' : Scene (Writer ρ) (Traced σ)) => s'.env = s.env) hleaves

/-! ## Tearing down -/

/-- A writer was torn down. -/
structure TornDown (before : Scene (Writer ρ) (Traced σ)) (refusals : List BrokerError)
    (after : Scene (Writer ρ) (Traced σ)) : Prop where
  client : after.client = { before.client.emptied with state := .tornDown }
  released : Traced.Released before.client.resources refusals before.env after.env

/-- A writer that is torn down gives up everything that it holds, and ends with what was refused. -/
theorem traces_teardown (s : Scene (Writer ρ) (Traced σ)) :
    Leaves (teardown endpoint.traced) s (fun _ => TornDown s [])
      (fun error s' => ∃ refusal refusals, error = .release (refusal :: refusals) ∧
        TornDown s (refusal :: refusals) s')
      (Stalled s) := by
  have htorn : ∀ {refusals s'}, Emptied s refusals s' →
      TornDown s refusals { s' with client := { s'.client with state := .tornDown } } := by
    intro refusals s' hs'
    refine ⟨?_, hs'.released⟩
    rw [hs'.client]
  simp only [teardown, leaves_bind, leaves_attempt, Scene.leaves_modify]
  refine (traces_release s).mono ?_ ?_ (fun _ => id)
  · exact fun _ _ => htorn
  · rintro error s' ⟨refusal, refusals, rfl, hs'⟩
    exact ⟨refusal, refusals, rfl, htorn hs'⟩

/-- A writer that was torn down, and not used since, is torn down again at once. -/
theorem teardown_of_tornDown {s : Scene (Writer ρ) σ}
    (h : s.client = { s.client.emptied with state := .tornDown }) :
    teardown endpoint s = (.done (), s) := by
  obtain ⟨⟨config, state, link, producer, fixedDestination, failures⟩, journal, env⟩ := s
  obtain ⟨rfl, rfl, rfl, rfl⟩ : state = .tornDown ∧ link = {} ∧ producer = none ∧
      fixedDestination = none := by
    simpa [emptied] using h
  rfl

/-! ## What a writer goes through -/

/-- A writer between calls: it holds what it acquired and did not give up. If it is ready, it holds
all that it needs, unless a release was left unanswered last; if it is not, it holds nothing, unless
something was left unanswered. -/
structure Tenable (s : Scene (Writer ρ) (Traced σ)) : Prop where
  holds : s.env.Holds s.client.resources
  full : s.client.state = .ready → s.env.trace.isHanging = false → Full s.client
  stalled : s.client.state = .ready → s.env.trace.isHanging = true → s.client.producer = none
  lacking : s.client.state ≠ .ready → s.client.producer = none
  empty : s.client.state ≠ .ready → s.env.trace.Answered → s.client = s.client.emptied

/-- A writer that was set up left no release hanging. -/
theorem Fitted.isHanging (h : Fitted s s') : s'.env.trace.isHanging = false := by
  obtain ⟨middle, -, hgranted⟩ := h.granted
  exact hgranted.isHanging (List.cons_ne_nil _ _)

/-- A writer that was set up holds all that it needs. -/
theorem Fitted.tenable (h : Fitted s s') : Tenable s' := by
  obtain ⟨middle, -, hgranted⟩ := h.granted
  refine ⟨hgranted.holds, fun _ _ => h.toFull, ?_, (absurd h.state ·), (absurd h.state ·)⟩
  intro _ hhanging
  rw [h.isHanging] at hhanging
  cases hhanging

/-- A writer that holds nothing and is not ready is tenable. -/
theorem tenable_of_emptied (hstate : s.client.state ≠ .ready) (hempty : s.client = s.client.emptied)
    (h : s.env.Holds []) : Tenable s := by
  have hproducer : s.client.producer = none := by
    rw [hempty]
    rfl
  refine ⟨?_, (absurd · hstate), (absurd · hstate), fun _ => hproducer, fun _ _ => hempty⟩
  rw [hempty]
  exact h

/-- A writer that was not set up holds nothing. -/
theorem Unfitted.tenable {error : ConnectorError} (hstate : s.client.state ≠ .ready)
    (h : Unfitted s error s') : Tenable s' := by
  obtain ⟨middle, held, halfway, refusals, -, hrefused, hreleased⟩ := h.released
  refine tenable_of_emptied ?_ h.empty (hreleased.quits.holds_of hrefused.holds)
  rw [h.state]
  exact hstate

/-- A writer whose setup is left unanswered lacks a producer. -/
theorem Suspended.tenable (hstate : s.client.state ≠ .ready) (h : Suspended s s') : Tenable s' := by
  have hstate' : s'.client.state ≠ .ready := by
    rw [h.state]
    exact hstate
  exact ⟨h.holds, (absurd · hstate'), (absurd · hstate'), fun _ => h.producer,
    fun _ hanswered => absurd hanswered h.unanswered⟩

/-- A writer that was torn down holds nothing. -/
theorem TornDown.tenable {refusals : List BrokerError} (h : TornDown s refusals s')
    (hholds : s.env.Holds s.client.resources) : Tenable s' := by
  refine tenable_of_emptied ?_ ?_ (h.released.quits.holds_of hholds)
  · rw [h.client]
    simp
  · rw [h.client]
    rfl

/-- A writer whose release is left unanswered lacks a producer. -/
theorem Stalled.tenable (h : Stalled s s') (hholds : s.env.Holds s.client.resources) :
    Tenable s' := by
  have hsuspended := h.suspended hholds
  refine ⟨hsuspended.holds, ?_, fun _ _ => h.producer, fun _ => h.producer,
    fun _ hanswered => absurd hanswered hsuspended.unanswered⟩
  intro _ hidle
  rw [h.stalls.hanging] at hidle
  cases hidle

namespace Tenable

/-- A writer that is set up stays tenable. -/
theorem setup (h : Tenable s) :
    Leaves (setup endpoint.traced) s (fun _ s' => Tenable s' ∧ s'.client.state = .ready)
      (fun _ => Tenable) Tenable := by
  by_cases hstate : s.client.state = .ready
  · simp only [Writer.setup, leaves_bind, Scene.leaves_get]
    rw [if_pos hstate]
    exact ⟨h, hstate⟩
  · refine (traces_setup hstate (h.lacking hstate) h.holds).mono ?_ ?_ ?_
    · exact fun _ _ hs' => ⟨hs'.tenable, hs'.state⟩
    · exact fun _ _ => Unfitted.tenable hstate
    · exact fun _ => Suspended.tenable hstate

/-- A writer that is torn down stays tenable. -/
theorem teardown (h : Tenable s) :
    Leaves (teardown endpoint.traced) s (fun _ => Tenable) (fun _ => Tenable) Tenable := by
  refine (traces_teardown s).mono ?_ ?_ ?_
  · exact fun _ _ hs' => hs'.tenable h.holds
  · rintro _ s' ⟨_, _, -, hs'⟩
    exact hs'.tenable h.holds
  · exact fun _ hs' => hs'.tenable h.holds

/-- A writer that holds on to what it has stays tenable. If it lacks a producer, it may ask for
nothing. -/
theorem retained (h : Tenable s) (hretained : Scene.Retained standing s s')
    (hidle : s.client.producer = none → s'.env = s.env) : Tenable s' := by
  obtain ⟨⟨config, state, link, producer, fixedDestination, failures⟩, journal, env⟩ := s
  obtain ⟨⟨config', state', link', producer', fixedDestination', failures'⟩, journal', env'⟩ := s'
  have hclient := hretained.client
  simp only [standing, Writer.mk.injEq] at hclient
  obtain ⟨rfl, rfl, rfl, rfl, rfl, -⟩ := hclient
  -- Only a writer with a producer asks for anything, and then the last request is no release.
  constructor
  · exact hretained.env.holds h.holds
  · intro hstate hcalm
    have hbefore : env.trace.isHanging = false := by
      by_contra hhanging
      rw [hidle (h.stalled hstate (by simpa using hhanging))] at hcalm
      exact hhanging hcalm
    obtain ⟨hheld, hdestination⟩ := h.full hstate hbefore
    exact ⟨hheld, hdestination⟩
  · intro hstate hhanging
    refine h.stalled hstate ?_
    by_contra hcalm
    rw [hretained.env.isHanging (by simpa using hcalm)] at hhanging
    cases hhanging
  · exact h.lacking
  · intro hstate hanswered
    rw [hidle (h.lacking hstate)] at hanswered
    have hempty := h.empty hstate hanswered
    simp only [emptied, Writer.mk.injEq, and_true, true_and] at hempty ⊢
    exact hempty

/-- A writer that processes a record stays tenable. -/
theorem process (h : Tenable s) (record : ρ) : Tenable (process endpoint.traced record s).2 :=
  h.retained ((retains_process record).retained s) fun hproducer => env_process hproducer record

/-- A writer that processes records stays tenable. -/
theorem processAll (h : Tenable s) (records : List ρ) (summary : WriteSummary) :
    Leaves (processAll endpoint.traced records summary) s (fun _ => Tenable) (fun _ => Tenable)
      Tenable := by
  induction records generalizing summary s with
  | nil => exact h
  | cons record rest ih =>
    simp only [Writer.processAll, leaves_bind]
    exact ((retains_process record s).and (h.process record)).mono (fun _ s' hs' => ih hs'.2 _)
      (fun _ _ => And.right) (fun _ => And.right)

/-- Whatever is done with a writer, it stays tenable. -/
theorem use (h : Tenable s) (next : Use ρ) : Tenable (use endpoint.traced next s).2 := by
  refine Leaves.result (fun _ => Tenable) ?_
  cases next with
  | setUp => exact h.setup.mono (fun _ _ => And.left) (fun _ _ => id) (fun _ => id)
  | process record =>
    simp only [Writer.use, leaves_bind, leaves_pure]
    exact ((retains_process record s).and (h.process record)).mono (fun _ _ => And.right)
      (fun _ _ => And.right) (fun _ => And.right)
  | writeAll records =>
    -- A write sets the writer up and tears it down again, whatever becomes of the records.
    simp only [Writer.use, writeAll, leaves_bind, leaves_attempt]
    refine h.setup.mono ?_ (fun _ _ => id) (fun _ => id)
    rintro _ s₁ ⟨h₁, -⟩
    refine (h₁.processAll records {}).mono ?_ (fun _ _ => id) (fun _ => id)
    intro summary s₂ h₂
    refine h₂.teardown.mono (fun _ _ => id) ?_ (fun _ => id)
    exact fun _ s₃ h₃ => h₃.retained ⟨rfl, .refl⟩ fun _ => rfl
  | tearDown => exact h.teardown
  | drainFailures | closeFailures => exact h.retained ⟨rfl, .refl⟩ fun _ => rfl

/-- A writer stays tenable, whatever is done with it. -/
theorem run (h : Tenable s) (uses : List (Use ρ)) : Tenable (run endpoint.traced uses s) := by
  induction uses generalizing s with
  | nil => exact h
  | cons next rest ih => exact ih (h.use next)

end Tenable

/-! ## Sending -/

section

variable {s : Scene (Writer ρ) σ}

/-- Nothing was noted of a writer that lacks what it needs. -/
def Untroubled (before after : Scene (Writer ρ) σ) : Prop :=
  ∃ notices, after.journal.notices = before.journal.notices ++ notices ∧
    ∀ notice ∈ notices, notice.isLack = false

theorem untroubled_of_eq {after : Scene (Writer ρ) σ}
    (h : after.journal.notices = s.journal.notices) : Untroubled s after :=
  ⟨[], by rw [h, List.append_nil], by simp⟩

theorem untroubled_of_noted {after : Scene (Writer ρ) σ} {notice : Notice}
    (h : after.journal.notices = s.journal.notices ++ [notice]) (hnotice : notice.isLack = false) :
    Untroubled s after :=
  ⟨[notice], h, by simpa using hnotice⟩

theorem untroubled_deliver (record : ρ) (producer : ProducerHandle) (destination : Destination)
    (message : Message) :
    Leaves (deliver endpoint record producer destination message) s (fun _ => Untroubled s)
      (fun _ _ => False) (Untroubled s) := by
  simp only [deliver, leaves_bind, leaves_attempt]
  refine Scene.leaves_ask ?_ ?_ ?_
  · exact fun _ _ _ => untroubled_of_eq rfl
  · exact fun _ _ _ => untroubled_of_noted rfl rfl
  · exact fun _ _ => untroubled_of_eq rfl

/-- What becomes of a record that the mapper was asked for. -/
def onward (endpoint : Endpoint σ) (record : ρ) (session : SessionHandle)
    (producer : ProducerHandle) : Except String Message → Call (Writer ρ) σ WriteOutcome
  | .ok message => dispatch endpoint record session producer message
  | .error reason => do
    Scene.note (.recordNotMapped (← Scene.get).config.destination.address reason)
    routeFailure record .mapping

/-- A writer that holds a session and a producer asks its mapper. -/
theorem process_eq_onward {session : SessionHandle} {producer : ProducerHandle}
    (hsession : s.client.link.session = some session)
    (hproducer : s.client.producer = some producer) (record : ρ) :
    process endpoint record s =
      onward endpoint record session producer (s.client.config.mapper record session) s := by
  simp only [process, bind_apply, Scene.get_apply, hsession, hproducer]
  cases s.client.config.mapper record session <;> rfl

/-- A writer that holds all that it needs notes no lack when it processes a record. -/
theorem untroubled_process (h : Full s.client) (record : ρ) :
    Untroubled s (process endpoint record s).2 := by
  obtain ⟨connection, session, producer, hlink, hproducer⟩ := h.held
  have hsession : s.client.link.session = some session := by rw [hlink]
  rw [process_eq_onward hsession hproducer]
  refine Leaves.result (fun _ => Untroubled s) ?_
  cases s.client.config.mapper record session with
  | error reason => exact untroubled_of_noted rfl rfl
  | ok message =>
    simp only [onward, dispatch, leaves_bind, Scene.leaves_get]
    split
    · simp only [leaves_bind, leaves_attempt]
      refine Scene.leaves_ask ?_ ?_ ?_
      · intro destination env _
        exact (untroubled_deliver record producer destination message).mono (fun _ _ => id)
          (fun _ _ => False.elim) fun _ => id
      · exact fun _ _ _ => untroubled_of_noted rfl rfl
      · exact fun _ _ => untroubled_of_eq rfl
    · rename_i fixed hfixed
      have hdestination := h.destination
      rw [hfixed] at hdestination
      split
      · exact (untroubled_deliver record producer _ message).mono (fun _ _ => id)
          (fun _ _ => False.elim) fun _ => id
      · rename_i hnone
        rw [hnone] at hdestination
        cases hdestination

end

/-! ## What a writer keeps up -/

/-- A writer holds a connection, a session and a producer if it is ready, and nothing if it is not.
It knows the destination of its records if it is ready and they have one in common. -/
structure Orderly (writer : Writer ρ) : Prop where
  ready : writer.state = .ready ↔ ∃ connection session producer,
    writer.link = ⟨some connection, some session⟩ ∧ writer.producer = some producer
  unready : writer.state ≠ .ready → writer.resources = []
  destination : writer.fixedDestination.isSome = true ↔
    writer.state = .ready ∧ writer.config.destination.isDynamic = false

/-- What a setup does. A writer that is ready asks for nothing. Any other is ready if each request
that it makes is granted. One that is refused a step stays in its state, and gives up what it
acquired. -/
structure SetsUp (before : Scene (Writer ρ) (Traced σ)) (outcome : Outcome ConnectorError Unit)
    (after : Scene (Writer ρ) (Traced σ)) : Prop where
  idle : before.client.state = .ready → outcome = .done () ∧ after = before
  ready : outcome = .done () → after.client.state = .ready
  granted : ∃ trace : Trace, after.env.trace = before.env.trace ++ trace ∧
    (outcome = .done () ↔ ∀ inquiry ∈ trace, inquiry.isGranted = true)
  refused : ∀ error, outcome = .failed error →
    after.client.state = before.client.state ∧ after.client.resources = [] ∧
      ∃ held middle refusals,
        Traced.Refused (plan before.client.config) held before.env error middle ∧
        Traced.Released held refusals middle after.env

/-- What a teardown does that is answered: everything that is held is given up in order, and another
teardown has nothing to do. -/
structure TearsDown (endpoint : Endpoint σ) (before : Scene (Writer ρ) (Traced σ))
    (outcome : Outcome ConnectorError Unit) (after : Scene (Writer ρ) (Traced σ)) : Prop where
  torn : outcome ≠ .abandoned →
    ∃ refusals, outcome = .ofRefusals refusals ∧ TornDown before refusals after
  again : outcome ≠ .abandoned → teardown endpoint.traced after = (.done (), after)

/-- A writer of which every request was answered is orderly. -/
theorem Tenable.orderly (h : Tenable s) (hanswered : s.env.trace.Answered) : Orderly s.client := by
  by_cases hstate : s.client.state = .ready
  · have hfull := h.full hstate hanswered.isHanging
    refine ⟨iff_of_true hstate hfull.held, (absurd hstate ·), ?_⟩
    rw [hfull.destination]
    simp [hstate]
  · have hempty := h.empty hstate hanswered
    refine ⟨iff_of_false hstate ?_, fun _ => ?_, iff_of_false ?_ fun hboth => hstate hboth.1⟩
    · rintro ⟨_, _, _, -, hproducer⟩
      rw [h.lacking hstate] at hproducer
      cases hproducer
    · rw [hempty]
      rfl
    · rw [hempty]
      simp [emptied]

/-- A setup asks for something more. -/
theorem trace_prefix_setup (s : Scene (Writer ρ) (Traced σ)) :
    s.env.trace <+: (setup endpoint.traced s).2.env.trace :=
  Traced.trace_prefix (Scene.Asks.of_agree (fun _ => agree_setup) s)

/-- A setup of a writer of which every request was answered does what setups do. -/
theorem Tenable.setsUp (h : Tenable s) (hanswered : s.env.trace.Answered) :
    SetsUp s (Writer.setup endpoint.traced s).1 (Writer.setup endpoint.traced s).2 := by
  by_cases hstate : s.client.state = .ready
  · have hsetup : Writer.setup endpoint.traced s = (.done (), s) := by
      simp [Writer.setup, bind_apply, hstate]
    rw [hsetup]
    exact ⟨fun _ => ⟨rfl, rfl⟩, fun _ => hstate, ⟨[], by simp⟩, by simp⟩
  · have hlink : s.client.link = {} := by
      rw [h.empty hstate hanswered]
      rfl
    have hleaves : Leaves (Writer.setup endpoint.traced) s
        (fun _ s' => Fitted s s' ∧ s.env.trace <+: s'.env.trace)
        (fun error s' => Unfitted s error s' ∧ s.env.trace <+: s'.env.trace)
        (fun s' => Suspended s s' ∧ s.env.trace <+: s'.env.trace) :=
      (traces_setup hstate (h.lacking hstate) h.holds).and (trace_prefix_setup s)
    refine Leaves.result (SetsUp s) (hleaves.mono ?_ ?_ ?_)
    · rintro _ s' ⟨hfitted, -⟩
      obtain ⟨middle, hcleared, hgranted⟩ := hfitted.granted
      rw [hcleared.idle hlink] at hgranted
      obtain ⟨trace, htrace, -, hall, -⟩ := hgranted.asked
      exact ⟨(absurd · hstate), fun _ => hfitted.state, ⟨trace, htrace, iff_of_true rfl hall⟩,
        by simp⟩
    · rintro error s' ⟨hunfitted, -⟩
      obtain ⟨middle, held, halfway, refusals, hcleared, hrefused, hreleased⟩ := hunfitted.released
      rw [hcleared.idle hlink] at hrefused
      refine ⟨(absurd · hstate), by simp, ?_, ?_⟩
      · obtain ⟨trace, htrace, inquiry, hmem, hungranted⟩ := hrefused.ungranted
        obtain ⟨trace', htrace', -⟩ := hreleased.asked
        refine ⟨trace ++ trace', ?_, iff_of_false (by simp) fun hall => ?_⟩
        · rw [htrace', htrace, List.append_assoc]
        · rw [hall inquiry (List.mem_append_left _ hmem)] at hungranted
          cases hungranted
      · rintro _ he
        obtain rfl := Outcome.failed.inj he
        refine ⟨hunfitted.state, ?_, held, halfway, refusals, hrefused, hreleased⟩
        rw [hunfitted.empty]
        rfl
    · rintro s' ⟨hsuspended, trace, htrace⟩
      refine ⟨(absurd · hstate), by simp, ⟨trace, htrace.symm, iff_of_false (by simp) ?_⟩, by simp⟩
      -- What was left unanswered was asked by the setup itself.
      refine fun hall => hsuspended.unanswered ?_
      rw [← htrace]
      intro inquiry hmem
      rcases List.mem_append.1 hmem with hmem | hmem
      · exact hanswered inquiry hmem
      · exact Inquiry.isAnswered_of_isGranted (hall inquiry hmem)

/-- A teardown does what teardowns do. -/
theorem tearsDown (s : Scene (Writer ρ) (Traced σ)) :
    TearsDown endpoint s (teardown endpoint.traced s).1 (teardown endpoint.traced s).2 := by
  have hagain : ∀ {refusals s'}, TornDown s refusals s' →
      teardown endpoint.traced s' = (.done (), s') := by
    intro refusals s' hs'
    refine teardown_of_tornDown ?_
    rw [hs'.client]
    rfl
  refine Leaves.result (TearsDown endpoint s) ((traces_teardown s).mono ?_ ?_ ?_)
  · exact fun _ s' hs' => ⟨fun _ => ⟨[], rfl, hs'⟩, fun _ => hagain hs'⟩
  · rintro _ s' ⟨refusal, refusals, rfl, hs'⟩
    exact ⟨fun _ => ⟨refusal :: refusals, rfl, hs'⟩, fun _ => hagain hs'⟩
  · exact fun s' _ => ⟨(absurd rfl ·), (absurd rfl ·)⟩

/-- A writer that is created holds nothing. -/
theorem tenable_created (config : WriteConfig ρ) (journal : Journal) (env : σ) :
    Tenable (Scene.traced { client := { config := config }, journal := journal, env := env }) :=
  tenable_of_emptied (by simp [Scene.traced]) rfl (Traced.holds_nil env)

section

variable {τ : Type} {other : Endpoint τ}

/-- A writer is used alike. -/
theorem agree_use {related : σ → τ → Prop} (h : endpoint.Alike other (fun _ => True) related)
    (next : Use ρ) : Scene.Agree related (use endpoint next) (use other next) := by
  have hidle : endpoint.Alike other (·.isIdle = true) related := h.mono fun _ _ => trivial
  cases next with
  | setUp => exact agree_setup hidle
  | process record => exact .bind (agree_process h record) fun _ => .pure _
  | writeAll records => exact .bind (agree_writeAll h records) fun _ => .pure _
  | tearDown => exact agree_teardown hidle
  | drainFailures =>
    exact Scene.Agree.modify fun (writer : Writer ρ) =>
      { writer with failures := writer.failures.drain.2 }
  | closeFailures =>
    exact Scene.Agree.modify fun (writer : Writer ρ) =>
      { writer with failures := writer.failures.close }

/-- A writer is used alike, in one way after another, in the surroundings that are seen of its
own. -/
theorem run_through {view : σ → τ}
    (h : endpoint.Alike other (fun _ => True) fun env env' => view env = env') (uses : List (Use ρ))
    (s : Scene (Writer ρ) σ) :
    run other uses (s.through view) = (run endpoint uses s).through view := by
  induction uses generalizing s with
  | nil => rfl
  | cons next rest ih =>
    have hnext := (agree_use h next).through s
    simp only [run, hnext, ih]

end

/-- A writer upholds what it needs. Where every request is answered, granted or refused, and however
the writer was used so far, it goes as it goes without the trace, and is orderly: it holds a
connection, a session and a producer if it is ready, and nothing if it is not, so a record that it
processes when it is ready is not missing any of them. A setup that is refused a step gives up what
it acquired, and can be repeated. A teardown gives up exactly what is held, in order and whatever
fails. Nothing is given up more often than it was acquired, and no two connections were open at the
same time. -/
theorem upholds_resources (endpoint : Endpoint σ) (config : WriteConfig ρ) (journal : Journal)
    (env : σ) (uses : List (Use ρ)) {s : Scene (Writer ρ) (Traced σ)}
    (hrun : run endpoint.traced uses
      (Scene.traced { client := { config := config }, journal := journal, env := env }) = s)
    (hanswered : s.env.trace.Answered) :
    run endpoint uses { client := { config := config }, journal := journal, env := env } =
      s.untraced ∧
    Orderly s.client ∧
    (s.client.state = .ready → ∀ record, Untroubled s (process endpoint.traced record s).2) ∧
    SetsUp s (setup endpoint.traced s).1 (setup endpoint.traced s).2 ∧
    TearsDown endpoint s (teardown endpoint.traced s).1 (teardown endpoint.traced s).2 ∧
    s.env.Holds s.client.resources ∧
    ∀ resource, s.env.trace.closed.count resource ≤ s.env.trace.acquired.count resource := by
  have htenable : Tenable s := hrun ▸ (tenable_created config journal env).run uses
  refine ⟨?_, htenable.orderly hanswered, fun hready => ?_, htenable.setsUp hanswered, tearsDown s,
    htenable.holds, htenable.holds.count_closed_le⟩
  · rw [← hrun]
    exact run_through endpoint.traced_alike uses
      (Scene.traced { client := { config := config }, journal := journal, env := env })
  · exact untroubled_process (htenable.full hready hanswered.isHanging)

/-- A write of texts to a queue. -/
def textsTo (queue : String) : WriteConfig String where
  factory := ⟨0, "broker"⟩
  destination := .fixed (.queue queue)
  credentials := none
  mapper record _ := .ok (.ofText record)

/-- A writer of texts in a world. -/
def writerIn (world : World) : Scene (Writer String) World where
  client := { config := textsTo "orders" }
  journal := {}
  env := world

/-- A broker that refuses to create one producer and to close another one. -/
def refusingWorld : World where
  timeOfDay := 1
  sites := [{
    faults := [
      { point := .sessionCreateProducer, after := 0, times := 1,
        effect := .fail (.unavailable "gone") },
      { point := .producerClose, after := 0, times := 1,
        effect := .fail (.unavailable "gone") }] }]

/-- A writer that is refused its producer is set up again, is torn down with a failure, and is set
up once more. -/
def refusedWriter : Scene (Writer String) (Traced World) :=
  run (World.endpoint 0).traced
    [.setUp, .setUp, .process "A", .tearDown, .tearDown, .writeAll ["B", "C"], .setUp]
    (writerIn refusingWorld).traced

/-- The writer that was refused a producer is ready in the end and orderly, and another setup has
nothing to do. -/
theorem upholds_resources_refusedWriter :
    refusedWriter.env.trace.Answered ∧ refusedWriter.client.state = .ready ∧
    refusedWriter.env.trace.refusals.length = 2 ∧ Orderly refusedWriter.client ∧
    (setup (World.endpoint 0).traced refusedWriter).2 = refusedWriter := by
  have hrun : run (World.endpoint 0).traced
      [.setUp, .setUp, .process "A", .tearDown, .tearDown, .writeAll ["B", "C"], .setUp]
      (Scene.traced
        { client := { config := textsTo "orders" }, journal := {}, env := refusingWorld }) =
      refusedWriter := rfl
  have hanswered : refusedWriter.env.trace.Answered := by decide +kernel
  have hready : refusedWriter.client.state = .ready := by decide +kernel
  obtain ⟨-, horderly, -, hsetsUp, -⟩ :=
    upholds_resources (World.endpoint 0) (textsTo "orders") {} refusingWorld _ hrun hanswered
  exact ⟨hanswered, hready, by decide +kernel, horderly, (hsetsUp.idle hready).2⟩

end Writer

end BrokerConnector
