import BrokerConnector.Proofs.Lifecycle
import BrokerConnector.Proofs.Upkeep

/-!
# Calls that were abandoned

A call that waits for an answer that never comes is dropped by its caller. What it took from its
client until then is not put back, so later calls do not give it up once more. Two things go wrong
with that, and nothing else.

The state of a writer says that it is ready until its teardown is over. If that is dropped, another
setup has nothing to do, and the writer is left without a producer: a setup that is done makes a
writer usable unless a release was left unanswered last (`usable_iff_of_setup`).

A connection is given up by two requests. If the first one, to stop it, is left unanswered, nobody
asks for the second one: a client that is closed in the end closed everything exactly as often as it
acquired it, unless it stranded a connection (`even_iff_of_close`).
-/

namespace BrokerConnector

open BrokerConnector.Action

namespace Writer

variable {ρ σ : Type} {endpoint : Endpoint σ} {s : Scene (Writer ρ) (Traced σ)}

/-! ## Setups that are done -/

/-- A writer can be used: it holds a session and a producer that are open, and a record that it
processes comes to its mapper. -/
def Usable (endpoint : Endpoint σ) (s : Scene (Writer ρ) (Traced σ)) : Prop :=
  ∃ session producer,
    s.client.link.session = some session ∧ s.client.producer = some producer ∧
    s.env.trace.IsOpen (.session session) ∧ s.env.trace.IsOpen (.producer producer) ∧
    ∀ record, process endpoint.traced record s =
      onward endpoint.traced record session producer (s.client.config.mapper record session) s

/-- A writer that is ready can be used unless a release was left unanswered last. -/
theorem Tenable.usable_iff (h : Tenable s) (hstate : s.client.state = .ready) :
    Usable endpoint s ↔ s.env.trace.isHanging = false := by
  constructor
  · rintro ⟨session, producer, -, hproducer, -⟩
    -- A release begins with the producer, so one that is left unanswered took it away.
    by_contra hhanging
    rw [h.stalled hstate (by simpa using hhanging)] at hproducer
    cases hproducer
  · intro hidle
    obtain ⟨connection, session, producer, hlink, hproducer⟩ := (h.full hstate hidle).held
    have hsession : s.client.link.session = some session := by rw [hlink]
    have hresources : s.client.resources =
        [.producer producer, .session session, .connection connection] := by
      rw [resources, hproducer, hlink]
      rfl
    have hopen : ∀ resource ∈ s.client.resources, s.env.trace.IsOpen resource := fun _ =>
      h.holds.isOpen
    rw [hresources] at hopen
    exact ⟨session, producer, hsession, hproducer, hopen _ (by simp), hopen _ (by simp),
      process_eq_onward hsession hproducer⟩

/-- A setup that is done makes a writer usable, however it was used so far, if and only if no
release was left unanswered last. If one was, the setup had nothing to do. -/
theorem usable_iff_of_setup (endpoint : Endpoint σ) (config : WriteConfig ρ) (journal : Journal)
    (env : σ) (uses : List (Use ρ)) {s after : Scene (Writer ρ) (Traced σ)}
    (hrun : run endpoint.traced uses
      (Scene.traced { client := { config := config }, journal := journal, env := env }) = s)
    (hsetup : setup endpoint.traced s = (.done (), after)) :
    run endpoint uses { client := { config := config }, journal := journal, env := env } =
      s.untraced ∧
    (Usable endpoint after ↔ after.env.trace.isHanging = false) ∧
    (after.env.trace.isHanging = true → after = s) := by
  have htenable : Tenable s := hrun ▸ (tenable_created config journal env).run uses
  have hleaves : Leaves (setup endpoint.traced) s
      (fun _ s' => Tenable s' ∧ s'.client.state = .ready) (fun _ => Tenable) Tenable :=
    htenable.setup
  unfold Leaves at hleaves
  rw [hsetup] at hleaves
  obtain ⟨hafter, hready⟩ := hleaves
  refine ⟨?_, hafter.usable_iff hready, fun hhanging => ?_⟩
  · rw [← hrun]
    exact run_through endpoint.traced_alike uses
      (Scene.traced { client := { config := config }, journal := journal, env := env })
  · -- Only a writer that says it is ready is not asked for anything.
    by_cases hstate : s.client.state = .ready
    · have hidle : setup endpoint.traced s = (.done (), s) := by
        simp [setup, bind_apply, hstate]
      exact (Prod.mk.inj (hsetup.symm.trans hidle)).2
    · have hfitted : Leaves (setup endpoint.traced) s (fun _ => Fitted s) (Unfitted s)
          (Suspended s) := traces_setup hstate (htenable.lacking hstate) htenable.holds
      unfold Leaves at hfitted
      rw [hsetup] at hfitted
      rw [hfitted.isHanging] at hhanging
      cases hhanging

/-- A broker that does not answer when a consumer or a producer is to be closed for the first
time. -/
def stuckWorld : World where
  timeOfDay := 1
  sites := [{
    faults := [
      { point := .consumerClose, after := 0, times := 1, effect := .hang },
      { point := .producerClose, after := 0, times := 1, effect := .hang }] }]

/-- A writer whose teardown is dropped can be used when it is torn down again and set up. -/
theorem usable_iff_of_setup_stuckWorld :
    let s := run (World.endpoint 0).traced [.setUp, .tearDown, .tearDown]
      (writerIn stuckWorld).traced
    let after := (setup (World.endpoint 0).traced s).2
    setup (World.endpoint 0).traced s = (.done (), after) ∧ ¬ after.env.trace.Answered ∧
    Usable (World.endpoint 0) after := by
  intro s after
  have hrun : run (World.endpoint 0).traced [.setUp, .tearDown, .tearDown]
      (Scene.traced
        { client := { config := textsTo "orders" }, journal := {}, env := stuckWorld }) = s := rfl
  have hdone : (setup (World.endpoint 0).traced s).1 = .done () := by decide +kernel
  have hsetup : setup (World.endpoint 0).traced s = (.done (), after) := Prod.ext hdone rfl
  have hidle : after.env.trace.isHanging = false := by decide +kernel
  obtain ⟨-, husable, -⟩ :=
    usable_iff_of_setup (World.endpoint 0) (textsTo "orders") {} stuckWorld _ hrun hsetup
  exact ⟨hsetup, by decide +kernel, husable.2 hidle⟩

/-- A writer whose teardown is dropped is set up with nothing to do and cannot be used: it has no
producer, and the next record fails. -/
theorem unusable_after_setup_stuckWorld :
    let s := run (World.endpoint 0).traced [.setUp, .tearDown] (writerIn stuckWorld).traced
    let after := (setup (World.endpoint 0).traced s).2
    (setup (World.endpoint 0).traced s).1 = .done () ∧ after.client.producer = none ∧
    ¬ Usable (World.endpoint 0) after ∧
    (process (World.endpoint 0).traced "A" after).1 = .done .failed := by
  intro s after
  have hnone : after.client.producer = none := by decide +kernel
  refine ⟨by decide +kernel, hnone, ?_, by decide +kernel⟩
  rintro ⟨session, producer, -, hproducer, -⟩
  rw [hnone] at hproducer
  cases hproducer

end Writer

/-! ## Releases that are resumed -/

/-- However a reader or a writer was used so far, and whatever was left unanswered: when a close of
the reader, or a teardown of the writer, is over, everything that was acquired was to be closed
exactly as often, if and only if no connection was stranded. A reader acquired nothing twice. -/
theorem even_iff_of_close {α ρ σ : Type} (endpoint : Endpoint σ) (journal : Journal) (env : σ)
    (read : ReadConfig α) (restored : Option Mark) (write : WriteConfig ρ) :
    (∀ uses : List Reader.Use,
      let created : Scene (Reader α) σ :=
        { client := .create read restored, journal := journal, env := env }
      let s := (Reader.useAll endpoint.traced uses created.traced).2
      let (outcome, after) := Reader.close endpoint.traced s
      outcome ≠ .abandoned →
        (after.env.trace.Even ↔ after.env.trace.stranded = []) ∧
          after.env.trace.acquired.Nodup) ∧
    ∀ uses : List (Writer.Use ρ),
      let created : Scene (Writer ρ) σ :=
        { client := { config := write }, journal := journal, env := env }
      let s := Writer.run endpoint.traced uses created.traced
      let (outcome, after) := Writer.teardown endpoint.traced s
      outcome ≠ .abandoned → (after.env.trace.Even ↔ after.env.trace.stranded = []) := by
  constructor
  · intro uses created s hanswered
    have htenable : Reader.Tenable s :=
      (Reader.tenable_create read restored journal env).useAll uses
    have hcloses : Reader.Closes s _ (Reader.close endpoint.traced s).2 := Reader.closes s
    obtain ⟨refusals, -, hemptied⟩ := hcloses.emptied hanswered
    have honce := htenable.toHoldsOnce.quits hemptied.released.quits
    exact ⟨honce.even_iff, honce.nodup⟩
  · intro uses created s hanswered
    have htenable : Writer.Tenable s := (Writer.tenable_created write journal env).run uses
    have htearsDown : Writer.TearsDown endpoint s _ (Writer.teardown endpoint.traced s).2 :=
      Writer.tearsDown s
    obtain ⟨refusals, -, htorn⟩ := htearsDown.torn hanswered
    exact (htorn.released.quits.holds_of htenable.holds).even_iff

/-- A reader of texts in a world. -/
def readerIn (world : World) : Scene (Reader String) World where
  client := .create (Reader.textsOf "orders") none
  journal := {}
  env := world

/-- A reader whose close is dropped, and a writer whose teardown is, are closed in the end and
closed everything that they acquired. -/
theorem even_iff_of_close_stuckWorld :
    let reader := (Reader.useAll (World.endpoint 0).traced [.start, .close]
      (readerIn Writer.stuckWorld).traced).2
    let writer := Writer.run (World.endpoint 0).traced [.setUp, .tearDown]
      (Writer.writerIn Writer.stuckWorld).traced
    ¬ reader.env.trace.Answered ∧ ¬ writer.env.trace.Answered ∧
    (Reader.close (World.endpoint 0).traced reader).2.env.trace.Even ∧
    (Writer.teardown (World.endpoint 0).traced writer).2.env.trace.Even := by
  intro reader writer
  obtain ⟨hreader, hwriter⟩ := even_iff_of_close (World.endpoint 0) {} Writer.stuckWorld
    (Reader.textsOf "orders") none (Writer.textsTo "orders")
  refine ⟨by decide +kernel, by decide +kernel, ?_, ?_⟩
  · exact (hreader [.start, .close] (by decide +kernel)).1.2 (by decide +kernel)
  · exact (hwriter [.setUp, .tearDown] (by decide +kernel)).2 (by decide +kernel)

/-- A broker that refuses a consumer and a producer, and does not answer when a connection is to be
stopped for the first time. -/
def strandingWorld : World where
  timeOfDay := 1
  sites := [{
    faults := [
      { point := .sessionCreateConsumer, after := 0, times := 1,
        effect := .fail (.unavailable "gone") },
      { point := .sessionCreateProducer, after := 0, times := 1,
        effect := .fail (.unavailable "gone") },
      { point := .connectionStop, after := 0, times := 1, effect := .hang }] }]

/-- A reader whose start is dropped while it stops its connection, and a writer whose setup is, are
closed in the end, without a failure, and never asked to close their connections. -/
theorem strands_strandingWorld :
    let reader := (Reader.useAll (World.endpoint 0).traced [.start]
      (readerIn strandingWorld).traced).2
    let writer := Writer.run (World.endpoint 0).traced [.setUp]
      (Writer.writerIn strandingWorld).traced
    let (read, closed) := Reader.close (World.endpoint 0).traced reader
    let (written, tornDown) := Writer.teardown (World.endpoint 0).traced writer
    read = .done () ∧ closed.env.trace.acquired.count (.connection ⟨0⟩) = 1 ∧
    closed.env.trace.closed.count (.connection ⟨0⟩) = 0 ∧
    written = .done () ∧ tornDown.env.trace.acquired.count (.connection ⟨0⟩) = 1 ∧
    tornDown.env.trace.closed.count (.connection ⟨0⟩) = 0 := by
  decide +kernel

end BrokerConnector
