import BrokerConnector.Proofs.Gauge
import BrokerConnector.Proofs.Lifecycle
import BrokerConnector.World

/-!
# What a failing start leaves of a mark

A reader takes its restored mark to the fresh session in the middle of its setup, behind the consumer
and before the backlog estimator. A setup that is refused an earlier step leaves the entries of the
mark alone, and the close that follows detaches it and keeps them, whatever its releases fail with.
One that is refused its estimator has given the entries up: they are gone from the mark, and from
what is written of it (`Reader.pending_eq_iff_of_start_failed`).
-/

namespace BrokerConnector

open BrokerConnector.Action

namespace Mark

/-- What a setup that stopped at a step did to a mark: only the last step comes after the mark was
attached. -/
def StoppedAt (step : SetupStep) (before after : Mark) : Prop :=
  if step = .startBacklogEstimator then
    ∃ session journal, after = (before.attach session journal).1
  else after = before

/-- What a failed setup leaves of a mark once its reader is closed. -/
structure LeftAt (step : SetupStep) (before after : Mark) : Prop where
  detached : after.session = none
  kept : step ≠ .startBacklogEstimator →
    after.pending = before.pending ∧ after.sessionId = before.sessionId
  lost : step = .startBacklogEstimator → after.pending = []

/-- A mark that is detached after a setup stopped keeps the entries that it had then. -/
theorem StoppedAt.leftAt {step : SetupStep} {before after : Mark}
    (h : StoppedAt step before after) (journal : Journal) :
    LeftAt step before (after.detach journal).1 := by
  unfold StoppedAt at h
  refine ⟨rfl, fun hother => ?_, fun hlast => ?_⟩
  · rw [if_neg hother] at h
    obtain rfl := h
    exact ⟨by simp [detach], by simp [detach]⟩
  · rw [if_pos hlast] at h
    obtain ⟨session, attaching, rfl⟩ := h
    simp [detach, attach]

/-- What is written of a mark does not depend on its session. -/
theorem LeftAt.encode_eq {step : SetupStep} {before after : Mark} (h : LeftAt step before after)
    (hother : step ≠ .startBacklogEstimator) : after.encode = before.encode := by
  obtain ⟨hpending, hsession⟩ := h.kept hother
  rw [encode, encode, hpending, hsession]

/-- A mark lists what it listed unless it had entries and the last step failed. -/
theorem LeftAt.pending_eq_iff {step : SetupStep} {before after : Mark}
    (h : LeftAt step before after) :
    after.pending = before.pending ↔ step ≠ .startBacklogEstimator ∨ before.pending = [] := by
  by_cases hlast : step = .startBacklogEstimator
  · rw [h.lost hlast]
    simp [hlast, eq_comm]
  · simp [hlast, (h.kept hlast).1]

end Mark

/-- A link that is not acquired was refused a step before the estimator is started. -/
theorem Link.leaves_acquire_early {σ : Type} (endpoint : Endpoint σ)
    (credentials : Option Credentials) (mode : AcknowledgeMode) (s : Scene Link σ) :
    Leaves (acquire endpoint credentials mode) s (fun _ _ => True)
      (fun error _ => ∃ step cause, error = .setup step cause ∧ step ≠ .startBacklogEstimator)
      (fun _ => True) := by
  simp only [acquire, setupStep, leaves_bind, leaves_mapError, Scene.leaves_modify, leaves_pure]
  refine Scene.leaves_ask ?_ (fun cause _ _ => ⟨_, cause, rfl, by simp⟩) (fun _ _ => trivial)
  intro connection env _
  refine Scene.leaves_ask ?_ (fun cause _ _ => ⟨_, cause, rfl, by simp⟩) (fun _ _ => trivial)
  intro _ env _
  exact Scene.leaves_ask (fun _ _ _ => trivial) (fun cause _ _ => ⟨_, cause, rfl, by simp⟩)
    (fun _ _ => trivial)

namespace Reader

variable {α σ : Type} (endpoint : Endpoint σ)

/-- A setup that fails was refused a step, and left the mark as that step finds it. -/
theorem leaves_acquire_stopped (s : Scene (Reader α) σ) :
    Leaves (acquire endpoint) s (fun _ _ => True)
      (fun error s' => ∃ step cause, error = .setup step cause ∧
        Mark.StoppedAt step s.client.mark s'.client.mark)
      (fun _ => True) := by
  simp only [acquire, leaves_bind, Scene.leaves_get, withLink, Scene.leaves_within, setupStep,
    leaves_mapError, Scene.leaves_modify, Scene.leaves_modifyJournaled]
  refine (Link.leaves_acquire_early endpoint _ _ _).mono ?_ ?_ (fun _ => id)
  · intro session s₁ _
    refine Scene.leaves_ask ?_ (fun cause _ _ => ⟨_, cause, rfl, rfl⟩) (fun _ _ => trivial)
    intro destination env _
    refine Scene.leaves_ask ?_ (fun cause _ _ => ⟨_, cause, rfl, rfl⟩) (fun _ _ => trivial)
    intro consumer env _
    -- From here on the mark is attached.
    exact Scene.leaves_ask (fun _ _ _ => trivial)
      (fun cause _ _ => ⟨_, cause, rfl, session, s₁.journal, rfl⟩) (fun _ _ => trivial)
  · rintro error s₁ ⟨step, cause, rfl, hearly⟩
    exact ⟨step, cause, rfl, (if_neg hearly).mpr rfl⟩

/-- A reader that looks for a message does not fail as a setup does. -/
theorem leaves_advance_running (s : Scene (Reader α) σ) :
    Leaves (advance endpoint) s (fun _ _ => True) (fun error _ => error.setupStep? = none)
      (fun _ => True) := by
  have hplain : advance endpoint s = ((advance endpoint.traced s.traced).1,
      (advance endpoint.traced s.traced).2.through (·.env)) :=
    Scene.Agree.through (agree_advance endpoint.traced_alike) s.traced
  have htraced : Leaves (advance endpoint.traced) s.traced _ _ _ := retains_advance s.traced
  unfold Leaves at htraced ⊢
  rw [hplain]
  generalize advance endpoint.traced s.traced = result at htraced
  obtain ⟨outcome, s'⟩ := result
  cases outcome with
  | done found => trivial
  | failed error => exact htraced.1
  | abandoned => trivial

/-- A start that fails in its setup leaves the mark as that step finds it, detached. -/
theorem leaves_start_failed (s : Scene (Reader α) σ) :
    Leaves (start endpoint) s (fun _ _ => True)
      (fun error s' => ∀ step cause, error = .setup step cause →
        Mark.LeftAt step s.client.mark s'.client.mark)
      (fun _ => True) := by
  simp only [start, leaves_bind, Scene.leaves_get]
  split
  · rintro step cause ⟨⟩
  · simp only [leaves_bind, Scene.leaves_modify, leaves_attempt]
    refine (leaves_acquire_stopped endpoint _).mono ?_ ?_ (fun _ => id)
    · intro _ s₁ _
      refine (leaves_advance_running endpoint _).mono (fun _ _ => id) ?_ (fun _ => id)
      rintro error s' hnone step cause rfl
      cases hnone
    · rintro error s₁ ⟨step, cause, rfl, hstopped⟩
      -- Whether the close fails or not, the mark is detached in the end.
      simp only [Scene.leaves_note]
      let noted : Scene (Reader α) σ :=
        { s₁ with journal := s₁.journal.note (.readerNotStarted (.setup step cause)) }
      have hleft : ∀ s', Scene.Undergoes mark [.release] noted s' → ∀ step' cause',
          ConnectorError.setup step cause = .setup step' cause' →
          Mark.LeftAt step' s.client.mark s'.client.mark := by
        rintro s' h step' cause' ⟨⟩
        have hmark : s'.client.mark = (s₁.client.mark.detach noted.journal).1 := h.mark
        rw [hmark]
        exact hstopped.leftAt _
      refine (leaves_close_mark endpoint noted).mono ?_ ?_ (fun _ _ => trivial)
      · exact fun _ s' h => hleft s' h
      · exact fun failure s' h => hleft s' h

/-- After a start that failed in its setup the mark is detached, and it lists what it listed before
if and only if the step that failed is not the last one, or nothing was listed. Before the last step
not even what is written of the mark changes; at the last one all entries are gone. How the releases
end that follow has nothing to do with it. -/
theorem pending_eq_iff_of_start_failed {s s' : Scene (Reader α) σ} {step : SetupStep}
    {cause : BrokerError} (h : start endpoint s = (.failed (.setup step cause), s')) :
    s'.client.mark.session = none ∧
      (s'.client.mark.pending = s.client.mark.pending ↔
        step ≠ .startBacklogEstimator ∨ s.client.mark.pending = []) ∧
      (step ≠ .startBacklogEstimator → s'.client.mark.encode = s.client.mark.encode) ∧
      (step = .startBacklogEstimator → s'.client.mark.pending = []) := by
  have hleaves := leaves_start_failed endpoint s
  unfold Leaves at hleaves
  rw [h] at hleaves
  have hleft := hleaves step cause rfl
  exact ⟨hleft.detached, hleft.pending_eq_iff, hleft.encode_eq, hleft.lost⟩

/-! ## A reader of a restored mark -/

/-- A reader with a restored mark of one message, which waits on its queue again, and with an
estimator that asks a broker which answers no question about depths. -/
def restoredBehind (faults : List Fault) : Scene (Reader String) World where
  client := .create
    { textsOf "orders" with estimator := some (.queueDepth 1 "orders" 20) }
    (some { sessionId := some "session-1-2", pending := [⟨⟨"A"⟩, 1000⟩] })
  journal := {}
  env := {
    timeOfDay := 1
    sites := [
      { broker := .after none (publishing "orders" ["A"]), faults := faults },
      { broker := { unavailable := true } }] }

/-- A consumer that is refused, and a session that is not closed then. -/
def withoutConsumer : List Fault :=
  [{ point := .sessionCreateConsumer, after := 0, times := 1, effect := .fail (.unavailable "gone") },
    { point := .sessionClose, after := 0, times := 1, effect := .fail (.unavailable "gone") }]

/-- A reader that is refused its consumer keeps its mark, though its session is not closed. -/
theorem pending_eq_iff_of_start_failed_withoutConsumer :
    let before := restoredBehind withoutConsumer
    let (outcome, after) := start (World.endpoint 0) before
    outcome = .failed (.setup .createConsumer (.unavailable "gone")) ∧
      after.journal.notices.length = 3 ∧
      after.client.mark.session = none ∧
      after.client.mark.pending = before.client.mark.pending ∧
      after.client.mark.encode = before.client.mark.encode := by
  have houtcome : (start (World.endpoint 0) (restoredBehind withoutConsumer)).1 =
      .failed (.setup .createConsumer (.unavailable "gone")) := by
    decide +kernel
  obtain ⟨hdetached, hpending, hencode, -⟩ :=
    pending_eq_iff_of_start_failed (World.endpoint 0) (Prod.ext houtcome rfl)
  exact ⟨houtcome, by decide +kernel, hdetached, hpending.2 (.inl (by decide)),
    hencode (by decide)⟩

/-- A reader whose estimator is not started has lost what its mark listed. -/
theorem loses_mark_withoutStatistics :
    let before := restoredBehind []
    let (outcome, after) := start (World.endpoint 0) before
    outcome = .failed (.setup .startBacklogEstimator
        (.unavailable "in-memory broker refuses statistics requests")) ∧
      before.client.mark.session = none ∧ before.client.mark.pending = [⟨⟨"A"⟩, 1000⟩] ∧
      after.client.mark.session = none ∧ after.client.mark.pending = [] ∧
      after.client.mark.encode ≠ before.client.mark.encode := by
  decide +kernel

end Reader

end BrokerConnector
