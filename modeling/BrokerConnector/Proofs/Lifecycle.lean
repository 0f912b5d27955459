import BrokerConnector.Proofs.Accounting
import BrokerConnector.Proofs.Holding

/-!
# The life of a reader

A reader is started, advanced, finalized and closed in any order, in any surroundings, and any
request may be granted, refused or left unanswered. What it holds is what it acquired and did not
give up since (`Tenable`), each call goes from there as it is told by `Starts`, `Advances` and
`Closes`, and its state moves in one direction (`ReaderState.Moves`). As a reader is started only
once, it acquires nothing twice, and so gives nothing up twice (`lives_once`).
-/

namespace BrokerConnector

open BrokerConnector.Action

namespace ReaderState

/-- A step of the life of a reader. -/
inductive Next : ReaderState → ReaderState → Prop where
  | connects : Next uninitialized connecting
  | consumes : Next connecting consuming
  | closes (state : ReaderState) : Next state closed

/-- One state comes after another. -/
abbrev Moves : ReaderState → ReaderState → Prop :=
  Relation.ReflTransGen Next

/-- A reader that is closed stays closed. -/
theorem Moves.eq_closed {state : ReaderState} (h : Moves closed state) : state = closed := by
  induction h with
  | refl => rfl
  | tail _ hnext ih =>
    subst ih
    cases hnext
    rfl

/-- A reader that is started and at work came through both steps. -/
theorem moves_consuming : Moves uninitialized consuming :=
  .tail (.single .connects) .consumes

end ReaderState

namespace Traced

variable {σ : Type} {held held' : List Resource} {before after : Traced σ}

/-- Nothing was acquired twice, and what was acquired was given up or is held. -/
structure HoldsOnce (held : List Resource) (traced : Traced σ) : Prop
    extends Holds held traced where
  nodup : traced.trace.acquired.Nodup

/-- What was acquired at first, each thing once, is held. -/
theorem Holds.once (h : after.Holds held) (hnone : before.trace.acquired = [])
    (hacquired : after.trace.acquired = before.trace.acquired ++ held.reverse)
    (hnodup : held.Nodup) : after.HoldsOnce held := by
  refine ⟨h, ?_⟩
  rw [hacquired, hnone, List.nil_append]
  exact (List.reverse_perm held).nodup_iff.2 hnodup

/-- What is held no longer is not acquired again. -/
theorem HoldsOnce.quits (h : before.HoldsOnce held) (hquits : Quits held before held' after) :
    after.HoldsOnce held' := by
  refine ⟨hquits.holds_of h.toHolds, ?_⟩
  rw [hquits.acquired]
  exact h.nodup

/-- What is retained is not acquired again. -/
theorem HoldsOnce.retains (h : before.HoldsOnce held) (hretains : Retains before after) :
    after.HoldsOnce held := by
  refine ⟨hretains.holds h.toHolds, ?_⟩
  rw [hretains.acquired]
  exact h.nodup

/-- Nothing was to be closed twice. -/
theorem HoldsOnce.nodup_closed (h : after.HoldsOnce held) : after.trace.closed.Nodup := by
  have hall := h.balance.nodup_iff.1 h.nodup
  exact (List.nodup_append.1 (List.nodup_append.1 hall).1).1

end Traced

namespace Reader

variable {α σ : Type} {endpoint : Endpoint σ} {s : Scene (Reader α) (Traced σ)}

/-! ## What a reader holds -/

/-- What a reader holds, in the order in which it gives it up. -/
def resources (reader : Reader α) : List Resource :=
  reader.consumer.toList.map .consumer ++ reader.link.resources ++
    reader.estimator.toList.map .estimator

/-- The steps by which a reader is started. -/
def plan : List SetupStep :=
  Link.plan ++ [.resolveDestination, .createConsumer, .startBacklogEstimator]

/-- A reader holds nothing twice. -/
theorem nodup_resources (reader : Reader α) : reader.resources.Nodup := by
  unfold resources Link.resources
  cases reader.consumer <;> cases reader.link.session <;> cases reader.link.connection <;>
    cases reader.estimator <;> simp

/-- A reader that holds nothing has empty hands. -/
theorem resources_eq_nil {reader : Reader α} (h : reader.resources = []) :
    reader.consumer = none ∧ reader.link = {} ∧ reader.estimator = none := by
  obtain ⟨config, state, ⟨connection, session⟩, consumer, estimator, mark, skipped, current⟩ :=
    reader
  cases consumer <;> cases session <;> cases connection <;> cases estimator <;>
    simp_all [resources, Link.resources]

/-- What a reader acquires when it is started, the first last. -/
def belongings (connection : ConnectionHandle) (session : SessionHandle) (consumer : ConsumerHandle)
    (estimator : EstimatorHandle) : List Resource :=
  [.estimator estimator, .consumer consumer, .session session, .connection connection]

/-- A reader acquires its resources step by step. -/
theorem traces_acquire (hempty : s.client.resources = []) (h : s.env.Holds []) :
    Leaves (acquire endpoint.traced) s
      (fun _ s' => s'.client.state = s.client.state ∧ ∃ connection session consumer estimator,
        s'.client.resources.Perm (belongings connection session consumer estimator) ∧
          Traced.Granted plan (belongings connection session consumer estimator) s.env s'.env)
      (fun error s' => s'.client.state = s.client.state ∧
        Traced.Refused plan s'.client.resources s.env error s'.env)
      (fun s' => s'.client.state = s.client.state ∧
        Traced.Waits s'.client.resources s.env s'.env) := by
  obtain ⟨⟨config, state, link, consumer, estimator, mark, skipped, current⟩, journal, env⟩ := s
  obtain ⟨rfl, rfl, rfl⟩ : consumer = none ∧ link = {} ∧ estimator = none :=
    resources_eq_nil hempty
  simp only [acquire, leaves_bind, Scene.leaves_get, withLink, Scene.leaves_within]
  have hlink : ∀ link : Link, link.resources ++ [] = link.resources := fun link =>
    List.append_nil _
  -- The plan of the reader goes on behind that of its link, in the order of its requests.
  refine (Link.traces_acquire _ _ [.resolveDestination, .createConsumer, .startBacklogEstimator]
    rfl h).mono ?_ ?_ ?_
  · rintro session ⟨_, journal₁, env₁⟩ ⟨connection, rfl, h₁⟩
    refine Scene.traces_setupStep h₁ rfl rfl (by simp [Request.acquires?]) ?_
      (fun _ _ h => ⟨rfl, h⟩) (fun _ h => ⟨rfl, h⟩)
    intro destination env₂ h₂
    refine Scene.traces_setupStep h₂ rfl rfl ?_ ?_ (fun _ _ h => ⟨rfl, h⟩) (fun _ h => ⟨rfl, h⟩)
    · rintro consumer resource hacquires hconnection
      cases hacquires
      cases hconnection
    intro consumer env₃ h₃
    rw [Scene.leaves_modify, Scene.leaves_modifyJournaled]
    refine Scene.traces_setupStep h₃ rfl rfl ?_ ?_ (fun _ _ h => ⟨rfl, h⟩) (fun _ h => ⟨rfl, h⟩)
    · rintro estimator resource hacquires hconnection
      cases hacquires
      cases hconnection
    intro estimator env₄ h₄
    refine ⟨rfl, connection, session, consumer, estimator, ?_, h₄⟩
    exact List.perm_append_singleton _ _
  · rintro error ⟨link, journal₁, env₁⟩ h₁
    refine ⟨trivial, ?_⟩
    show Traced.Refused plan (link.resources ++ []) _ _ _
    rw [hlink]
    exact h₁
  · rintro ⟨link, journal₁, env₁⟩ h₁
    refine ⟨trivial, ?_⟩
    show Traced.Waits (link.resources ++ []) _ _
    rw [hlink]
    exact h₁

/-! ## Closing -/

/-- A consumer that is held is closed. -/
theorem traces_releaseConsumer (s : Scene (Reader α) (Traced σ)) :
    Leaves (releaseConsumer endpoint.traced) s
      (fun refusals s' => s'.client = { s.client with consumer := none } ∧
        Traced.Released (s.client.consumer.toList.map .consumer) refusals s.env s'.env)
      (fun _ _ => False)
      (fun s' => s'.client = { s.client with consumer := none } ∧
        Traced.Stalls (s.client.consumer.toList.map .consumer) s.env [] s'.env) := by
  simp only [releaseConsumer, leaves_bind, Scene.leaves_get]
  cases hconsumer : s.client.consumer with
  | none =>
    refine ⟨?_, .nil _⟩
    rw [← hconsumer]
  | some consumer =>
    simp only [leaves_bind, Scene.leaves_modify]
    exact Scene.traces_close rfl rfl rfl (fun _ _ _ h => ⟨rfl, h⟩) fun _ h => ⟨rfl, h⟩

/-- An estimator that is held is stopped. What that fails with is not listed. -/
theorem traces_releaseEstimator (s : Scene (Reader α) (Traced σ)) :
    Leaves (releaseEstimator endpoint.traced) s
      (fun _ s' => s'.client = { s.client with estimator := none } ∧
        Traced.Released (s.client.estimator.toList.map .estimator) [] s.env s'.env)
      (fun _ _ => False)
      (fun s' => s'.client = { s.client with estimator := none } ∧
        Traced.Stalls (s.client.estimator.toList.map .estimator) s.env [] s'.env) := by
  simp only [releaseEstimator, leaves_bind, Scene.leaves_get]
  cases hestimator : s.client.estimator with
  | none =>
    refine ⟨?_, .nil _⟩
    rw [← hestimator]
  | some estimator =>
    simp only [leaves_bind, Scene.leaves_modify, leaves_attempt, leaves_pure]
    have hreleased : ∀ (env : σ) (inquiry : Inquiry),
        inquiry.request = .stopEstimator estimator → inquiry.isAnswered = true →
        Traced.Released [.estimator estimator] (Trace.refusals [inquiry]) s.env
          (s.env.told env inquiry) := by
      intro env inquiry hrequest hanswered
      refine Traced.Quits.released (Traced.quits_answered _ env hrequest rfl hanswered) rfl ?_ ?_
      · rw [List.map_singleton, hrequest]
        rfl
      · simpa [Trace.Answered] using hanswered
    refine Scene.traces_ask ?_ ?_ ?_
    · exact fun answer env => ⟨rfl, hreleased env ⟨_, .done answer⟩ rfl rfl⟩
    · exact fun error env => ⟨rfl, hreleased env ⟨_, .failed error⟩ rfl rfl⟩
    · exact fun env => ⟨rfl, Traced.stalls_told env rfl⟩

/-- A reader gave up everything that it held, in order and whatever failed. -/
structure Emptied (before : Scene (Reader α) (Traced σ)) (refusals : List BrokerError)
    (after : Scene (Reader α) (Traced σ)) : Prop where
  state : after.client.state = .closed
  resources : after.client.resources = []
  released : Traced.Released before.client.resources refusals before.env after.env

/-- What a reader held is held no longer. -/
theorem Emptied.quits {refusals : List BrokerError} {s' : Scene (Reader α) (Traced σ)}
    (h : Emptied s refusals s') :
    Traced.Quits s.client.resources s.env s'.client.resources s'.env := by
  rw [h.resources]
  exact h.released.quits

/-- A reader that is closed gives up everything that it holds, and ends with what was refused. If it
is left unanswered, it gave up what it holds no longer. -/
theorem traces_close (s : Scene (Reader α) (Traced σ)) :
    Leaves (close endpoint.traced) s (fun _ => Emptied s [])
      (fun error s' => ∃ refusal refusals, error = .release (refusal :: refusals) ∧
        Emptied s (refusal :: refusals) s')
      (fun s' => s'.client.state = s.client.state ∧
        Traced.Stalls s.client.resources s.env s'.client.resources s'.env) := by
  simp only [close, leaves_bind, withLink, Scene.leaves_within, Scene.leaves_modifyJournaled]
  refine (traces_releaseConsumer s).mono ?_ (fun _ _ => False.elim) ?_
  · rintro ofConsumer s₁ ⟨hclient₁, hconsumer⟩
    refine (Link.traces_release _).mono ?_ (fun _ _ => False.elim) ?_
    · rintro ofLink s₂ ⟨hlink, hreleased⟩
      rw [hclient₁] at hreleased ⊢
      refine (traces_releaseEstimator _).mono ?_ (fun _ _ => False.elim) ?_
      · rintro _ s₃ ⟨hclient₃, hestimator⟩
        -- Every release was tried by now, and what was refused of it is in the order of the
        -- releases.
        have hclosed : Emptied s (ofConsumer ++ ofLink)
            { client := (retire s₃.client s₃.journal).1
              journal := (retire s₃.client s₃.journal).2, env := s₃.env } := by
          refine ⟨rfl, ?_, ?_⟩
          · rw [hclient₃, hlink]
            rfl
          · rw [← List.append_nil (ofConsumer ++ ofLink)]
            exact (hconsumer.append hreleased).append hestimator
        cases hfailures : ofConsumer ++ ofLink with
        | nil =>
          rw [hfailures] at hclosed
          exact hclosed
        | cons refusal refusals =>
          rw [hfailures] at hclosed
          exact ⟨refusal, refusals, rfl, hclosed⟩
      · rintro s₃ ⟨hclient₃, hestimator⟩
        rw [hclient₃, hlink]
        refine ⟨rfl, ?_, hestimator.hanging⟩
        have hquits := (hconsumer.quits.append _).trans hreleased.quits
        exact (hquits.append _).trans hestimator.toQuits
    · rintro s₂ hstalls
      rw [hclient₁] at hstalls ⊢
      refine ⟨rfl, ?_, hstalls.hanging⟩
      exact (((hconsumer.quits.append _).trans hstalls.toQuits).append _)
  · rintro s₁ ⟨hclient₁, hstalls⟩
    rw [hclient₁]
    exact ⟨rfl, (hstalls.toQuits.append _).append _, hstalls.hanging⟩

/-! ## Reading -/

/-- The state of a reader with what it holds. -/
def standing (reader : Reader α) : ReaderState × List Resource :=
  (reader.state, reader.resources)

/-- A reader that polls holds on to what it has. -/
theorem retains_poll (consumer : ConsumerHandle) (budget : Nat) :
    Scene.Retains standing (·.setupStep? = none)
      (poll (α := α) endpoint.traced consumer budget) := by
  have hemit : ∀ message id, Scene.Retains (σ := σ) standing (·.setupStep? = none)
      (emit (α := α) message id) := by
    intro message id
    refine .bind .get fun reader => ?_
    dsimp only
    split
    · exact .fail rfl
    · exact .bind (.count _ _) fun _ => .bind (.modify fun _ => rfl) fun _ => .pure _
  have hpoll : ∀ budget,
      (∀ message id, Scene.Retains standing (·.setupStep? = none)
        (resume (α := α) endpoint.traced consumer message id budget)) →
      Scene.Retains standing (·.setupStep? = none)
        (poll (α := α) endpoint.traced consumer budget) := by
    intro budget hresume
    unfold poll
    refine .bind (.mapError (.ask (fun _ => rfl) rfl) fun _ => rfl) fun received => ?_
    cases received with
    | none => exact .pure _
    | some message =>
      dsimp only
      cases message.id with
      | none => exact .fail rfl
      | some id => exact .bind (.modifyJournaled fun _ _ => rfl) fun _ => hresume message id
  -- The budget only decides whether a message that is skipped is followed by another one.
  induction budget with
  | zero => exact hpoll 0 hemit
  | succ budget ih =>
    refine hpoll (budget + 1) fun message id => .bind .get fun reader => ?_
    split
    · exact .bind (.modify fun _ => rfl) fun _ => .bind (.count _ _) fun _ => ih
    · exact hemit message id

/-- A reader that advances holds on to what it has. -/
theorem retains_advance :
    Scene.Retains standing (·.setupStep? = none) (advance (α := α) endpoint.traced) := by
  refine .bind .get fun reader => ?_
  split
  · exact .fail rfl
  · refine .bind (.modify fun _ => rfl) fun _ => ?_
    cases reader.consumer with
    | none => exact .fail rfl
    | some consumer => exact retains_poll consumer _

/-- A reader that is finalized holds on to what it has. -/
theorem retains_finalize :
    Scene.Retains standing (fun _ => True) (finalize (α := α) endpoint.traced) := by
  have hsettle : ∀ session entries, Scene.Retains (fun _ => ()) (fun _ => True)
      (Mark.settle endpoint.traced session entries) := by
    intro session entries
    induction entries with
    | nil => exact .pure _
    | cons delivery rest ih =>
      refine .bind (.attempt (.ask (fun _ => rfl) rfl)) fun result => ?_
      cases result with
      | ok _ => exact .bind ih fun _ => .pure _
      | error error =>
        dsimp only
        split
        · exact .bind (.note _) fun _ => .bind ih fun _ => .pure _
        · exact .pure _
  refine .within (.bind .get fun mark => ?_) fun _ _ => rfl
  split
  · exact .pure _
  · cases mark.session with
    | none => exact .fail trivial
    | some session =>
      refine .bind (hsettle session _) fun settlement => ?_
      refine .bind (.modifyJournaled fun _ _ => rfl) fun _ => .bind (.count _ _) fun _ => ?_
      cases settlement.failure with
      | none => exact .pure _
      | some error => exact .fail trivial

/-! ## Starting -/

/-- A reader between calls: it holds what it acquired and did not give up, nothing twice. Before it
is started, it acquired nothing. -/
structure Tenable (s : Scene (Reader α) (Traced σ)) : Prop
    extends s.env.HoldsOnce s.client.resources where
  fresh : s.client.state = .uninitialized → s.env.trace.acquired = []

/-- A reader that was started is tenable if it holds what it acquired. -/
theorem tenable_of_started (hstate : s.client.state ≠ .uninitialized)
    (h : s.env.HoldsOnce s.client.resources) : Tenable s :=
  ⟨h, (absurd · hstate)⟩

/-- A reader that gave up everything is tenable. -/
theorem Emptied.tenable {refusals : List BrokerError} {s' : Scene (Reader α) (Traced σ)}
    (h : Emptied s refusals s') (honce : s.env.HoldsOnce s.client.resources) : Tenable s' :=
  tenable_of_started (by simp [h.state]) (honce.quits h.quits)

/-- A reader was started: each step was granted, and what it acquired is held. -/
structure Begun (before after : Scene (Reader α) (Traced σ)) : Prop where
  state : after.client.state = .consuming
  granted : ∃ connection session consumer estimator middle,
    after.client.resources.Perm (belongings connection session consumer estimator) ∧
      Traced.Granted plan (belongings connection session consumer estimator) before.env middle ∧
      middle.Retains after.env

/-- A reader was refused a step of its start, and gave up what it acquired before. -/
structure Aborted (before : Scene (Reader α) (Traced σ)) (error : ConnectorError)
    (after : Scene (Reader α) (Traced σ)) : Prop where
  state : after.client.state = .closed
  resources : after.client.resources = []
  released : ∃ held middle refusals, Traced.Refused plan held before.env error middle ∧
    Traced.Released held refusals middle after.env

/-- What a reader acquires when it is started is different things. -/
theorem nodup_belongings (connection : ConnectionHandle) (session : SessionHandle)
    (consumer : ConsumerHandle) (estimator : EstimatorHandle) :
    (belongings connection session consumer estimator).Nodup := by
  simp [belongings]

/-- A reader that was started holds what it acquired, nothing twice. -/
theorem Begun.tenable {s' : Scene (Reader α) (Traced σ)} (h : Begun s s')
    (hnone : s.env.trace.acquired = []) : Tenable s' := by
  obtain ⟨hstate, connection, session, consumer, estimator, middle, hperm, hgranted, hretains⟩ := h
  have honce := (hgranted.holds.once hnone hgranted.acquired (nodup_belongings _ _ _ _)).retains
    hretains
  exact tenable_of_started (by simp [hstate]) ⟨honce.perm hperm.symm, honce.nodup⟩

/-- A reader that was refused a step of its start gives up what it acquired before. -/
theorem traces_abort (before : Scene (Reader α) (Traced σ)) {error : ConnectorError}
    (hstate : s.client.state = .connecting) (honce : s.env.HoldsOnce s.client.resources)
    (h : Traced.Refused plan s.client.resources before.env error s.env) :
    Leaves (close endpoint.traced) s (fun _ s' => Tenable s' ∧ Aborted before error s')
      (fun _ s' => Tenable s' ∧ Aborted before error s')
      (fun s' => Tenable s' ∧ s'.client.state = .connecting) := by
  have hemptied : ∀ {refusals s'}, Emptied s refusals s' →
      Tenable s' ∧ Aborted before error s' := by
    intro refusals s' hs'
    exact ⟨hs'.tenable honce, hs'.state, hs'.resources, _, _, refusals, h, hs'.released⟩
  refine (traces_close s).mono (fun _ _ => hemptied) ?_ ?_
  · rintro _ s' ⟨_, _, -, hs'⟩
    exact hemptied hs'
  · rintro s' ⟨hstate', hstalls⟩
    have hconnecting := hstate'.trans hstate
    exact ⟨tenable_of_started (by simp [hconnecting]) (honce.quits hstalls.toQuits), hconnecting⟩

/-- A reader that is started, and was not before, is at work, or gives up what it acquired. If it is
left unanswered, it holds what it acquired and did not give up. -/
theorem traces_start (h : Tenable s) (hstate : s.client.state = .uninitialized) :
    Leaves (start endpoint.traced) s (fun _ s' => Tenable s' ∧ Begun s s')
      (fun error s' => Tenable s' ∧
        (error.setupStep? = none ∧ Begun s s' ∨ Aborted s error s'))
      (fun s' => Tenable s' ∧ (s'.client.state = .connecting ∨ Begun s s')) := by
  have hnone : s.env.trace.acquired = [] := h.fresh hstate
  have hempty : s.client.resources = [] := h.eq_nil hnone
  have hholds : s.env.Holds [] := hempty ▸ h.toHolds
  simp only [start, leaves_bind, Scene.leaves_get]
  rw [if_neg (by simp [hstate])]
  simp only [leaves_bind, Scene.leaves_modify, leaves_attempt]
  let connecting : Scene (Reader α) (Traced σ) :=
    { s with client := { s.client with state := .connecting } }
  refine (traces_acquire (s := connecting) hempty hholds).mono ?_ ?_ ?_
  -- A reader that acquired everything looks for its first message and holds on to what it has.
  · rintro _ s₁ ⟨-, connection, session, consumer, estimator, hperm, hgranted⟩
    let working : Scene (Reader α) (Traced σ) :=
      { s₁ with client := { s₁.client with state := .consuming } }
    have hbegun : ∀ s', Scene.Retained standing working s' → Begun s s' := by
      intro s' hretained
      obtain ⟨hstate', hresources⟩ := Prod.mk.inj hretained.client
      refine ⟨hstate', connection, session, consumer, estimator, s₁.env, ?_, hgranted,
        hretained.env⟩
      rw [hresources]
      exact hperm
    refine (retains_advance working).mono ?_ ?_ ?_
    · exact fun _ s' hs' => ⟨(hbegun s' hs').tenable hnone, hbegun s' hs'⟩
    · exact fun _ s' hs' => ⟨(hbegun s' hs'.2).tenable hnone, .inl ⟨hs'.1, hbegun s' hs'.2⟩⟩
    · exact fun s' hs' => ⟨(hbegun s' hs').tenable hnone, .inr (hbegun s' hs')⟩
  -- One that was refused a step gives up what it has, and may be abandoned while it does.
  · rintro error s₁ ⟨hstate₁, hrefused⟩
    simp only [Scene.leaves_note]
    have honce := hrefused.holds.once hnone hrefused.acquired (nodup_resources s₁.client)
    let noted : Scene (Reader α) (Traced σ) :=
      { s₁ with journal := s₁.journal.note (.readerNotStarted error) }
    refine (traces_abort s (s := noted) hstate₁ honce hrefused).mono ?_ ?_ ?_
    · exact fun _ s' hs' => ⟨hs'.1, .inr hs'.2⟩
    · rintro failure s' ⟨htenable, haborted⟩
      exact ⟨⟨htenable.toHoldsOnce, htenable.fresh⟩, .inr ⟨haborted.1, haborted.2, haborted.3⟩⟩
    · exact fun s' hs' => ⟨hs'.1, .inl hs'.2⟩
  · rintro s₁ ⟨hstate₁, hwaits⟩
    have hconnecting : s₁.client.state = .connecting := hstate₁
    have honce := hwaits.holds.once hnone hwaits.acquired (nodup_resources s₁.client)
    exact ⟨tenable_of_started (by simp [hconnecting]) honce, .inl hconnecting⟩

/-! ## What a reader goes through -/

/-- What a start does. A reader that was started before refuses it and stays as it is. A step that
is refused is named by the failure, and everything that was acquired before is given up. -/
structure Starts (before : Scene (Reader α) (Traced σ)) (outcome : Outcome ConnectorError Bool)
    (after : Scene (Reader α) (Traced σ)) : Prop where
  refused : before.client.state ≠ .uninitialized →
    outcome = .failed (.invalidState
      ("a reader can only be started once, it is " ++ before.client.state.label)) ∧ after = before
  aborted : ∀ step cause, outcome = .failed (.setup step cause) →
    Aborted before (.setup step cause) after
  begun : before.client.state = .uninitialized → outcome ≠ .abandoned →
    (∀ step cause, outcome ≠ .failed (.setup step cause)) → Begun before after

/-- What an advance does. A reader that is not consuming refuses it and stays as it is. -/
structure Advances (before : Scene (Reader α) (Traced σ)) (outcome : Outcome ConnectorError Bool)
    (after : Scene (Reader α) (Traced σ)) : Prop where
  refused : before.client.state ≠ .consuming →
    outcome = .failed (.invalidState
      ("can not advance a reader that is " ++ before.client.state.label)) ∧ after = before
  retained : Scene.Retained standing before after

/-- What a close does that is answered. -/
structure Closes (before : Scene (Reader α) (Traced σ)) (outcome : Outcome ConnectorError Unit)
    (after : Scene (Reader α) (Traced σ)) : Prop where
  emptied : outcome ≠ .abandoned →
    ∃ refusals, outcome = .ofRefusals refusals ∧ Emptied before refusals after

/-- What a reader that is used goes on to. -/
structure GoesOn (before after : Scene (Reader α) (Traced σ)) : Prop where
  tenable : Tenable after
  moves : before.client.state.Moves after.client.state

/-- A start does what starts do. -/
theorem starts (h : Tenable s) :
    Starts s (start endpoint.traced s).1 (start endpoint.traced s).2 := by
  by_cases hstate : s.client.state = .uninitialized
  · refine Leaves.result (Starts s) ((traces_start h hstate).mono ?_ ?_ ?_)
    · rintro found s' ⟨-, hbegun⟩
      exact ⟨(absurd hstate ·), by simp, fun _ _ _ => hbegun⟩
    · rintro error s' ⟨-, ⟨hnone, hbegun⟩ | haborted⟩
      · -- What fails behind the setup is no failure of a setup.
        refine ⟨(absurd hstate ·), ?_, fun _ _ _ => hbegun⟩
        rintro step cause he
        rw [Outcome.failed.inj he] at hnone
        cases hnone
      · refine ⟨(absurd hstate ·), ?_, ?_⟩
        · rintro step cause he
          exact Outcome.failed.inj he ▸ haborted
        · intro _ _ hother
          obtain ⟨_, _, _, hrefused, -⟩ := haborted.released
          cases hrefused
          exact absurd rfl (hother _ _)
    · rintro s' -
      exact ⟨(absurd hstate ·), by simp, fun _ habandoned => absurd rfl habandoned⟩
  · rw [start_of_ne_uninitialized _ hstate]
    exact ⟨fun _ => ⟨rfl, rfl⟩, by simp, (absurd · hstate)⟩

/-- An advance does what advances do. -/
theorem advances (s : Scene (Reader α) (Traced σ)) :
    Advances s (advance endpoint.traced s).1 (advance endpoint.traced s).2 := by
  refine ⟨fun hstate => ?_, ?_⟩
  · simp [advance, bind_apply, hstate]
  · exact retains_advance.retained s

/-- A close does what closes do. -/
theorem closes (s : Scene (Reader α) (Traced σ)) :
    Closes s (close endpoint.traced s).1 (close endpoint.traced s).2 := by
  refine Leaves.result (Closes s) ((traces_close s).mono ?_ ?_ ?_)
  · exact fun _ s' hs' => ⟨fun _ => ⟨[], rfl, hs'⟩⟩
  · rintro _ s' ⟨refusal, refusals, rfl, hs'⟩
    exact ⟨fun _ => ⟨refusal :: refusals, rfl, hs'⟩⟩
  · exact fun s' _ => ⟨fun habandoned => absurd rfl habandoned⟩

/-- A reader that holds on to what it has goes on from there. -/
theorem Tenable.retained {s' : Scene (Reader α) (Traced σ)} (h : Tenable s)
    (hretained : Scene.Retained standing s s') : GoesOn s s' := by
  obtain ⟨hstate, hresources⟩ := Prod.mk.inj hretained.client
  refine ⟨⟨?_, fun hfresh => ?_⟩, ?_⟩
  · rw [hresources]
    exact h.toHoldsOnce.retains hretained.env
  · rw [hretained.env.acquired]
    exact h.fresh (hstate.symm.trans hfresh)
  · rw [hstate]

/-- A reader goes on from whatever it is used for. -/
theorem Tenable.apply (h : Tenable s) (use : Use) :
    GoesOn s (use.apply endpoint.traced s).2 := by
  cases use with
  | start =>
    show GoesOn s (start endpoint.traced s).2
    by_cases hstate : s.client.state = .uninitialized
    · have hbegun : ∀ s', Tenable s' ∧ Begun s s' → GoesOn s s' := by
        rintro s' ⟨htenable, hbegun⟩
        refine ⟨htenable, ?_⟩
        rw [hstate, hbegun.state]
        exact ReaderState.moves_consuming
      -- A start that fails still went through the connecting state, and then closed or stayed
      -- there.
      refine Leaves.result (fun _ => GoesOn s) ((traces_start h hstate).mono ?_ ?_ ?_)
      · exact fun _ => hbegun
      · rintro error s' ⟨htenable, ⟨-, hs'⟩ | haborted⟩
        · exact hbegun s' ⟨htenable, hs'⟩
        · refine ⟨htenable, ?_⟩
          rw [haborted.state]
          exact .single (.closes _)
      · rintro s' ⟨htenable, hconnecting | hs'⟩
        · refine ⟨htenable, ?_⟩
          rw [hstate, hconnecting]
          exact .single .connects
        · exact hbegun s' ⟨htenable, hs'⟩
    · rw [start_of_ne_uninitialized _ hstate]
      exact ⟨h, .refl⟩
  | advance => exact h.retained (advances s).retained
  | finalize => exact h.retained (retains_finalize.retained s)
  | close =>
    have hemptied : ∀ {refusals s'}, Emptied s refusals s' → GoesOn s s' := by
      intro refusals s' hs'
      refine ⟨hs'.tenable h.toHoldsOnce, ?_⟩
      rw [hs'.state]
      exact .single (.closes _)
    refine Leaves.result (fun _ => GoesOn s) ((traces_close s).mono ?_ ?_ ?_)
    · exact fun _ _ => hemptied
    · rintro _ s' ⟨_, _, -, hs'⟩
      exact hemptied hs'
    · rintro s' ⟨hstate, hstalls⟩
      refine ⟨⟨h.toHoldsOnce.quits hstalls.toQuits, fun hfresh => ?_⟩, ?_⟩
      · rw [hstalls.acquired]
        exact h.fresh (hstate.symm.trans hfresh)
      · rw [hstate]

/-- A reader stays tenable, whatever it is used for. -/
theorem Tenable.useAll (h : Tenable s) (uses : List Use) :
    Tenable (useAll endpoint.traced uses s).2 := by
  induction uses generalizing s with
  | nil => exact h
  | cons first rest ih => exact ih (h.apply first).tenable

/-- A reader that is created holds nothing. -/
theorem tenable_create (config : ReadConfig α) (restored : Option Mark) (journal : Journal)
    (env : σ) :
    Tenable (Scene.traced
      { client := create config restored, journal := journal, env := env }) where
  toHolds := Traced.holds_nil env
  nodup := List.nodup_nil
  fresh _ := rfl

/-- A reader lives once. Whatever the surroundings answer or leave unanswered, and however the
reader was used so far, its calls end as they do without the trace, it holds what it acquired and
did not give up, and it gave nothing up twice. It starts only once, and then either holds everything
that it acquires or gives up what it acquired before the step that the failure names. A reader that
is not consuming does not advance. One that is closed gives up exactly what it holds, in order and
whatever fails, and ends with what failed. Its state moves from being started to being closed, and
never back. -/
theorem lives_once (endpoint : Endpoint σ) (config : ReadConfig α) (restored : Option Mark)
    (journal : Journal) (env : σ) (uses : List Use) :
    let created : Scene (Reader α) σ :=
      { client := create config restored, journal := journal, env := env }
    let (outcomes, s) := useAll endpoint.traced uses created.traced
    useAll endpoint uses created = (outcomes, s.untraced) ∧
    s.env.Holds s.client.resources ∧
    s.env.trace.closed.Nodup ∧
    Starts s (start endpoint.traced s).1 (start endpoint.traced s).2 ∧
    Advances s (advance endpoint.traced s).1 (advance endpoint.traced s).2 ∧
    Scene.Retained standing s (finalize endpoint.traced s).2 ∧
    Closes s (close endpoint.traced s).1 (close endpoint.traced s).2 ∧
    ∀ use : Use, s.client.state.Moves (use.apply endpoint.traced s).2.client.state ∧
      (s.client.state = .closed → (use.apply endpoint.traced s).2.client.state = .closed) := by
  intro created
  have htenable : Tenable (useAll endpoint.traced uses created.traced).2 :=
    (tenable_create config restored journal env).useAll uses
  have huntraced := useAll_through endpoint.traced_alike uses created.traced
  refine ⟨huntraced, htenable.toHolds, htenable.nodup_closed, starts htenable, advances _,
    retains_finalize.retained _, closes _, fun use => ?_⟩
  have hgoesOn : GoesOn _ (use.apply endpoint.traced _).2 := htenable.apply use
  refine ⟨hgoesOn.moves, fun hclosed => ?_⟩
  have hmoves := hgoesOn.moves
  rw [hclosed] at hmoves
  exact hmoves.eq_closed

end Reader

end BrokerConnector
