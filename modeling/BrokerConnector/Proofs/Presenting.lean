import BrokerConnector.Proofs.Agreement

/-!
# What credentials are used for

A client reads its credentials once, to present them when it connects. So a client with given
credentials, in front of an endpoint, does what the client does without a look at its own
credentials in front of an endpoint that presents the given ones to whoever connects
(`Endpoint.presenting`): its calls end in one way, with one journal, in one state of the
surroundings, and the two clients differ in their credentials only (`Scene.Follows`). That is shown
of each call of a reader and a writer.

Nothing is assumed of the endpoint. What two clients with different credentials have in common
depends on how an endpoint answers those who connect, and on nothing else.
-/

namespace BrokerConnector

open BrokerConnector.Action

/-- An endpoint at which whoever connects presents given credentials. -/
def Endpoint.presenting {σ : Type} (endpoint : Endpoint σ) (credentials : Option Credentials) :
    Endpoint σ where
  answer
    | .broker (.connect _) => endpoint.answer (.broker (.connect credentials))
    | request => endpoint.answer request
  clock := endpoint.clock
  sleep := endpoint.sleep

/-- A reader with given credentials in place of its own. -/
def Reader.presenting {α : Type} (credentials : Option Credentials) (reader : Reader α) :
    Reader α :=
  { reader with config := { reader.config with credentials := credentials } }

/-- A bounded read whose reader has given credentials in place of its own. -/
def BoundedRead.presenting {α : Type} (credentials : Option Credentials) (read : BoundedRead α) :
    BoundedRead α :=
  { read with reader := read.reader.presenting credentials }

/-- A bounded reader with given credentials in place of its own. -/
def BoundedReader.presenting {α : Type} (credentials : Option Credentials)
    (bounded : BoundedReader α) : BoundedReader α where
  source :=
    { bounded.source with config := { bounded.source.config with credentials := credentials } }
  isBounded := bounded.isBounded

/-- A writer with given credentials in place of its own. -/
def Writer.presenting {ρ : Type} (credentials : Option Credentials) (writer : Writer ρ) :
    Writer ρ :=
  { writer with config := { writer.config with credentials := credentials } }

namespace Scene

variable {ρ ρ' σ ε ε' α β : Type}

/-- A scene with its client changed. -/
def dress (view : ρ → ρ) (s : Scene ρ σ) : Scene ρ σ :=
  { s with client := view s.client }

/-- The first call ends for the changed client as the second does for the client itself, and leaves
the client changed that the second leaves. -/
def Follows (view : ρ → ρ) (call call' : Action (Scene ρ σ) ε α) : Prop :=
  ∀ s, call (s.dress view) = ((call' s).1, (call' s).2.dress view)

namespace Follows

variable {view : ρ → ρ}

/-! ## Calls that are put together -/

protected theorem pure (value : α) : Follows (σ := σ) (ε := ε) view (pure value) (pure value) :=
  fun _ => rfl

protected theorem fail (error : ε) : Follows (σ := σ) (α := α) view (fail error) (fail error) :=
  fun _ => rfl

protected theorem abandon : Follows (σ := σ) (ε := ε) (α := α) view abandon abandon :=
  fun _ => rfl

protected theorem ofExcept (result : Except ε α) :
    Follows (σ := σ) view (ofExcept result) (ofExcept result) :=
  fun _ => rfl

/-- Calls in order follow if the first one does and what comes after any value does. -/
protected theorem bind {first first' : Action (Scene ρ σ) ε β}
    {next next' : β → Action (Scene ρ σ) ε α} (hfirst : Follows view first first')
    (hnext : ∀ value, Follows view (next value) (next' value)) :
    Follows view (first >>= next) (first' >>= next') := by
  intro s
  rw [bind_apply, bind_apply, hfirst s]
  generalize first' s = result
  obtain ⟨outcome, s'⟩ := result
  cases outcome with
  | done value => exact hnext value s'
  | failed error => rfl
  | abandoned => rfl

/-- What comes after a look at the client follows if it does for the client before and after the
change. -/
protected theorem get_bind {next next' : ρ → Action (Scene ρ σ) ε α}
    (hnext : ∀ client, Follows view (next (view client)) (next' client)) :
    Follows view (get >>= next) (get >>= next') :=
  fun s => hnext s.client s

protected theorem attempt {call call' : Action (Scene ρ σ) ε α} (h : Follows view call call') :
    Follows (ε := ε') view (attempt call) (attempt call') := by
  intro s
  simp only [attempt, h s]
  generalize call' s = result
  obtain ⟨outcome, s'⟩ := result
  cases outcome <;> rfl

protected theorem mapError {call call' : Action (Scene ρ σ) ε α} (h : Follows view call call')
    (tell : ε → ε') : Follows view (mapError tell call) (mapError tell call') := by
  intro s
  simp only [mapError, h s]
  generalize call' s = result
  obtain ⟨outcome, s'⟩ := result
  cases outcome <;> rfl

/-! ## Calls of a scene -/

/-- Two changes of a client that do not look at each other can be made in either order. -/
protected theorem modify {change : ρ → ρ}
    (h : ∀ client, change (view client) = view (change client)) :
    Follows (σ := σ) (ε := ε) view (modify change) (modify change) := by
  intro s
  simp only [modify_apply, dress, h]

protected theorem note (notice : Notice) :
    Follows (σ := σ) (ε := ε) view (note notice) (note notice) :=
  fun _ => rfl

protected theorem count (metric : Metric) (amount : Int) :
    Follows (σ := σ) (ε := ε) view (count metric amount) (count metric amount) :=
  fun _ => rfl

protected theorem modifyJournaled {change : ρ → Journal → ρ × Journal}
    (h : ∀ client journal, change (view client) journal =
      (view (change client journal).1, (change client journal).2)) :
    Follows (σ := σ) (ε := ε) view (modifyJournaled change) (modifyJournaled change) := by
  intro s
  simp only [modifyJournaled, dress, h]

/-- A request that both endpoints answer in one way. -/
protected theorem ask {endpoint other : Endpoint σ} {request : Request}
    (h : endpoint.answer request = other.answer request) :
    Follows view (ask endpoint request) (ask other request) := by
  intro s
  simp only [Scene.ask, h]
  rfl

protected theorem setupStep {endpoint other : Endpoint σ} {step : SetupStep} {request : Request}
    (h : endpoint.answer request = other.answer request) :
    Follows view (setupStep endpoint step request) (setupStep other step request) :=
  (Follows.ask h).mapError (ConnectorError.setup step)

protected theorem release {endpoint other : Endpoint σ} {request : Request}
    {told : BrokerError → Notice} (h : endpoint.answer request = other.answer request) :
    Follows (ε := ε) view (release endpoint request told) (release other request told) := by
  refine .bind (Follows.ask h).attempt fun result => ?_
  cases result with
  | ok answer => exact .pure _
  | error error => exact .bind (.note _) fun _ => .pure _

protected theorem clock {endpoint other : Endpoint σ} (h : endpoint.clock = other.clock) :
    Follows (ε := ε) view (clock endpoint) (clock other) := by
  intro s
  simp only [clock_apply, dress, h]

protected theorem pause {endpoint other : Endpoint σ} (h : endpoint.sleep = other.sleep)
    (milliseconds : Nat) :
    Follows (ε := ε) view (pause endpoint milliseconds) (pause other milliseconds) := by
  intro s
  simp only [Scene.pause, dress, h]

/-- A call of a part of the client follows as it does by itself. -/
protected theorem within {call call' : Action (Scene ρ' σ) ε α} {part : ρ → ρ'}
    {put : ρ' → ρ → ρ} {inner : ρ' → ρ'} (hcall : Follows inner call call')
    (hpart : ∀ client, part (view client) = inner (part client))
    (hput : ∀ changed client, put (inner changed) (view client) = view (put changed client)) :
    Follows view (within part put call) (within part put call') := by
  intro s
  have h := hcall ⟨part s.client, s.journal, s.env⟩
  simp only [dress] at h
  simp only [Scene.within, dress, hpart, h, hput]

/-- A call of another client that is changed alike follows as it does by itself. -/
protected theorem alone {call call' : Action (Scene ρ' σ) ε α} {client : ρ'}
    {gone : ρ' → Journal → Journal} {inner : ρ' → ρ'} (hcall : Follows inner call call')
    (hgone : ∀ client journal, gone (inner client) journal = gone client journal) :
    Follows view (alone (inner client) gone call) (alone client gone call') := by
  intro s
  have h := hcall ⟨client, s.journal, s.env⟩
  simp only [dress] at h
  simp only [Scene.alone, dress, h, hgone]

/-- A call of a client that is not changed follows itself. -/
protected theorem of_eq {call call' : Action (Scene ρ σ) ε α} (h : call = call') :
    Follows id call call' := by
  subst h
  exact fun _ => rfl

end Follows

end Scene

variable {α σ ρ : Type} (endpoint : Endpoint σ) (credentials : Option Credentials)

/-! ## Links and marks -/

/-- A link presents the credentials that it is given. -/
theorem Link.acquire_presenting (own : Option Credentials) (mode : AcknowledgeMode) :
    Link.acquire (endpoint.presenting credentials) own mode =
      Link.acquire endpoint credentials mode :=
  rfl

/-- Nobody connects to release a link. -/
theorem Link.release_presenting :
    Link.release (endpoint.presenting credentials) = Link.release endpoint :=
  rfl

/-- Nobody connects to settle entries. -/
theorem Mark.settle_presenting (session : SessionHandle) (entries : List PendingDelivery) :
    Mark.settle (endpoint.presenting credentials) session entries =
      Mark.settle endpoint session entries := by
  induction entries with
  | nil => rfl
  | cons delivery rest ih =>
    rw [settle, settle, ih]
    rfl

/-- Nobody connects to finalize a mark. -/
theorem Mark.finalize_presenting :
    Mark.finalize (endpoint.presenting credentials) = Mark.finalize endpoint := by
  unfold finalize
  simp only [settle_presenting]

/-! ## Readers -/

namespace Reader

theorem follows_acquire :
    Scene.Follows (presenting credentials) (acquire (α := α) endpoint)
      (acquire (endpoint.presenting credentials)) := by
  refine .get_bind fun reader => ?_
  have hlink := Link.acquire_presenting endpoint credentials
  refine .bind (.within (.of_eq (hlink _ _).symm) (fun _ => rfl) fun _ _ => rfl) fun session => ?_
  refine .bind (.setupStep rfl) fun destination => .bind (.setupStep rfl) fun consumer => ?_
  refine .bind (.modify fun _ => rfl) fun _ => .bind (.modifyJournaled fun _ _ => rfl) fun _ => ?_
  exact .bind (.setupStep rfl) fun estimator => .modify fun _ => rfl

theorem follows_releaseConsumer :
    Scene.Follows (presenting credentials) (releaseConsumer (α := α) endpoint)
      (releaseConsumer (endpoint.presenting credentials)) := by
  refine .get_bind fun reader => ?_
  dsimp only [presenting]
  cases reader.consumer with
  | none => exact .pure _
  | some consumer => exact .bind (.modify fun _ => rfl) fun _ => .release rfl

theorem follows_releaseEstimator :
    Scene.Follows (presenting credentials) (releaseEstimator (α := α) endpoint)
      (releaseEstimator (endpoint.presenting credentials)) := by
  refine .get_bind fun reader => ?_
  dsimp only [presenting]
  cases reader.estimator with
  | none => exact .pure _
  | some estimator =>
    refine .bind (.modify fun _ => rfl) fun _ => ?_
    exact .bind (Scene.Follows.ask rfl).attempt fun _ => .pure _

theorem follows_close :
    Scene.Follows (presenting credentials) (close (α := α) endpoint)
      (close (endpoint.presenting credentials)) := by
  refine .bind (follows_releaseConsumer endpoint credentials) fun ofConsumer => ?_
  have hlink := Link.release_presenting endpoint credentials
  refine .bind (.within (.of_eq hlink.symm) (fun _ => rfl) fun _ _ => rfl) fun ofLink => ?_
  refine .bind (follows_releaseEstimator endpoint credentials) fun _ => ?_
  refine .bind (.modifyJournaled fun _ _ => rfl) fun _ => ?_
  dsimp only
  split
  · exact .pure _
  · exact .fail _

theorem follows_emit (message : Message) (id : MessageId) :
    Scene.Follows (σ := σ) (presenting credentials) (emit (α := α) message id)
      (emit message id) := by
  refine .get_bind fun reader => ?_
  dsimp only [presenting]
  split
  · exact .fail _
  · exact .bind (.count _ _) fun _ => .bind (.modify fun _ => rfl) fun _ => .pure _

/-- Messages are received whatever the credentials are, however many are passed over. -/
theorem follows_poll (consumer : ConsumerHandle) (budget : Nat) :
    Scene.Follows (presenting credentials) (poll (α := α) endpoint consumer budget)
      (poll (endpoint.presenting credentials) consumer budget) := by
  induction budget with
  | zero =>
    unfold poll
    refine .bind ((Scene.Follows.ask rfl).mapError _) fun received => ?_
    cases received with
    | none => exact .pure _
    | some message =>
      dsimp only
      cases message.id with
      | none => exact .fail _
      | some id =>
        exact .bind (.modifyJournaled fun _ _ => rfl) fun _ =>
          follows_emit credentials message id
  | succ budget ih =>
    unfold poll
    refine .bind ((Scene.Follows.ask rfl).mapError _) fun received => ?_
    cases received with
    | none => exact .pure _
    | some message =>
      dsimp only
      cases message.id with
      | none => exact .fail _
      | some id =>
        refine .bind (.modifyJournaled fun _ _ => rfl) fun _ => .get_bind fun reader => ?_
        dsimp only [presenting]
        split
        · exact .bind (.modify fun _ => rfl) fun _ => .bind (.count _ _) fun _ => ih
        · exact follows_emit credentials message id

theorem follows_advance :
    Scene.Follows (presenting credentials) (advance (α := α) endpoint)
      (advance (endpoint.presenting credentials)) := by
  refine .get_bind fun reader => ?_
  dsimp only [presenting]
  split
  · exact .fail _
  · refine .bind (.modify fun _ => rfl) fun _ => ?_
    cases reader.consumer with
    | none => exact .fail _
    | some consumer => exact follows_poll endpoint credentials consumer _

/-- A reader is started whatever its credentials are, up to what it presents. -/
theorem follows_start :
    Scene.Follows (presenting credentials) (start (α := α) endpoint)
      (start (endpoint.presenting credentials)) := by
  refine .get_bind fun reader => ?_
  dsimp only [presenting]
  split
  · exact .fail _
  · refine .bind (.modify fun _ => rfl) fun _ => ?_
    refine .bind (follows_acquire endpoint credentials).attempt fun acquired => ?_
    cases acquired with
    | ok _ =>
      exact .bind (.modify fun _ => rfl) fun _ => follows_advance endpoint credentials
    | error error =>
      refine .bind (.note _) fun _ => ?_
      refine .bind (follows_close endpoint credentials).attempt fun closed => ?_
      cases closed with
      | ok _ => exact .fail _
      | error failure => exact .bind (.note _) fun _ => .fail _

theorem follows_finalize :
    Scene.Follows (presenting credentials) (finalize (α := α) endpoint)
      (finalize (endpoint.presenting credentials)) :=
  .within (.of_eq (Mark.finalize_presenting endpoint credentials).symm) (fun _ => rfl)
    fun _ _ => rfl

end Reader

/-! ## Bounded reads -/

namespace BoundedRead

/-- A call of the reader of a read follows as it does by itself. -/
theorem follows_withReader {β : Type} {call call' : Call (Reader α) σ β}
    (h : Scene.Follows (Reader.presenting credentials) call call') :
    Scene.Follows (presenting credentials) (withReader call) (withReader call') :=
  .within h (fun _ => rfl) fun _ _ => rfl

theorem follows_collect :
    Scene.Follows (presenting credentials) (collect (α := α) endpoint)
      (collect (endpoint.presenting credentials)) := by
  refine .get_bind fun read => ?_
  dsimp only [presenting, Reader.presenting]
  refine .bind (follows_withReader credentials ?_) fun found => ?_
  · split
    · exact Reader.follows_start endpoint credentials
    · exact Reader.follows_advance endpoint credentials
  · cases found with
    | false => exact .pure _
    | true =>
      refine .get_bind fun read => .bind (.ofExcept _) fun value => .bind (.ofExcept _) fun _ => ?_
      exact .bind (.modify fun _ => rfl) fun _ => .pure _

theorem follows_poll (chance : Nat) :
    Scene.Follows (presenting credentials) (poll (α := α) endpoint chance)
      (poll (endpoint.presenting credentials) chance) := by
  refine .bind (follows_collect endpoint credentials) fun found => .bind (.clock rfl) fun now => ?_
  refine .get_bind fun read => ?_
  have hturn : (presenting credentials read).turn now found chance = read.turn now found chance :=
    rfl
  dsimp only
  rw [hturn]
  split
  · exact .bind (.modify fun _ => rfl) fun _ => .pure _
  · exact .pure _

theorem follows_run (chance : Nat → Nat) (budget : Nat) :
    Scene.Follows (presenting credentials) (run (α := α) endpoint chance budget)
      (run (endpoint.presenting credentials) chance budget) := by
  induction budget with
  | zero => exact .abandon
  | succ budget ih =>
    refine .bind (follows_poll endpoint credentials _) fun turn => ?_
    cases turn with
    | finish => exact .pure _
    | pollAgain => exact ih
    | pauseFor milliseconds => exact .bind (.pause rfl _) fun _ => ih

theorem follows_conclude (result : Except ConnectorError Unit) :
    Scene.Follows (presenting credentials) (conclude (α := α) endpoint result)
      (conclude (endpoint.presenting credentials) result) := by
  have hclose := follows_withReader credentials (Reader.follows_close (α := α) endpoint credentials)
  have hfinalize :=
    follows_withReader credentials (Reader.follows_finalize (α := α) endpoint credentials)
  unfold conclude
  cases result
  case' ok => refine .bind hfinalize.attempt fun settled => ?_
  case' error error => refine .bind (.pure _) fun settled => ?_
  -- The reader is closed whatever came before, and what the read ends with is decided last.
  all_goals
    refine .bind hclose.attempt fun closed => ?_
    cases closed <;> cases settled
    · exact .bind (.note _) fun _ => .fail _
    · exact .bind (.note _) fun _ => .get_bind fun _ => .pure _
    · exact .fail _
    · exact .get_bind fun _ => .pure _

end BoundedRead

/-- A whole read goes on whatever the credentials are, up to what its reader presents. -/
theorem BoundedReader.follows_read (chance : Nat → Nat) (budget : Nat)
    (bounded : BoundedReader α) :
    Scene.Follows id ((bounded.presenting credentials).read endpoint chance budget)
      (bounded.read (endpoint.presenting credentials) chance budget) := by
  have hempty : (bounded.presenting credentials).isEmpty = bounded.isEmpty := rfl
  have hread := Scene.Follows.bind
    (BoundedRead.follows_run (α := α) endpoint credentials chance budget).attempt
    fun result => BoundedRead.follows_conclude endpoint credentials result
  unfold read
  rw [hempty]
  split
  · exact .pure _
  · refine .bind (.clock rfl) fun now => ?_
    change Scene.Follows id
      (Scene.alone ((bounded.begin now).presenting credentials) BoundedRead.discard _) _
    exact .alone hread fun _ _ => rfl

/-! ## Writers -/

namespace Writer

theorem follows_releaseProducer :
    Scene.Follows (presenting credentials) (releaseProducer (ρ := ρ) endpoint)
      (releaseProducer (endpoint.presenting credentials)) := by
  refine .get_bind fun writer => ?_
  dsimp only [presenting]
  cases writer.producer with
  | none => exact .pure _
  | some producer => exact .bind (.modify fun _ => rfl) fun _ => .release rfl

theorem follows_release :
    Scene.Follows (presenting credentials) (release (ρ := ρ) endpoint)
      (release (endpoint.presenting credentials)) := by
  refine .bind (follows_releaseProducer endpoint credentials) fun ofProducer => ?_
  have hlink := Link.release_presenting endpoint credentials
  refine .bind (.within (.of_eq hlink.symm) (fun _ => rfl) fun _ _ => rfl) fun ofLink => ?_
  refine .bind (.modify fun _ => rfl) fun _ => ?_
  dsimp only
  split
  · exact .pure _
  · exact .fail _

theorem follows_acquire :
    Scene.Follows (presenting credentials) (acquire (ρ := ρ) endpoint)
      (acquire (endpoint.presenting credentials)) := by
  refine .get_bind fun writer => ?_
  have hlink := Link.acquire_presenting endpoint credentials
  refine .bind (.within (.of_eq (hlink _ _).symm) (fun _ => rfl) fun _ _ => rfl) fun session => ?_
  dsimp only [presenting]
  split
  · refine .bind (.setupStep rfl) fun destination => .bind (.modify fun _ => rfl) fun _ => ?_
    exact .bind (.setupStep rfl) fun producer => .modify fun _ => rfl
  · refine .bind (.modify fun _ => rfl) fun _ => ?_
    exact .bind (.setupStep rfl) fun producer => .modify fun _ => rfl

theorem follows_releaseLeftovers :
    Scene.Follows (presenting credentials) (releaseLeftovers (ρ := ρ) endpoint)
      (releaseLeftovers (endpoint.presenting credentials)) := by
  refine .get_bind fun writer => ?_
  dsimp only [presenting]
  split
  · exact .pure _
  · refine .bind (follows_release endpoint credentials).attempt fun released => ?_
    cases released with
    | ok _ => exact .pure _
    | error failure => exact .note _

/-- A writer is set up whatever its credentials are, up to what it presents. -/
theorem follows_setup :
    Scene.Follows (presenting credentials) (setup (ρ := ρ) endpoint)
      (setup (endpoint.presenting credentials)) := by
  refine .get_bind fun writer => ?_
  dsimp only [presenting]
  split
  · exact .pure _
  · refine .bind (follows_releaseLeftovers endpoint credentials) fun _ => ?_
    refine .bind (follows_acquire endpoint credentials).attempt fun acquired => ?_
    cases acquired with
    | ok _ => exact .modify fun _ => rfl
    | error error =>
      refine .bind (.note _) fun _ => ?_
      refine .bind (follows_release endpoint credentials).attempt fun released => ?_
      cases released with
      | ok _ => exact .fail _
      | error failure => exact .bind (.note _) fun _ => .fail _

theorem follows_teardown :
    Scene.Follows (presenting credentials) (teardown (ρ := ρ) endpoint)
      (teardown (endpoint.presenting credentials)) :=
  .bind (follows_release endpoint credentials).attempt fun _ =>
    .bind (.modify fun _ => rfl) fun _ => .ofExcept _

theorem follows_routeFailure (record : ρ) (reason : FailureReason) :
    Scene.Follows (σ := σ) (presenting credentials) (routeFailure record reason)
      (routeFailure record reason) :=
  .bind (.count _ _) fun _ => .bind (.modify fun _ => rfl) fun _ => .pure _

theorem follows_deliver (record : ρ) (producer : ProducerHandle) (destination : Destination)
    (message : Message) :
    Scene.Follows (presenting credentials) (deliver endpoint record producer destination message)
      (deliver (endpoint.presenting credentials) record producer destination message) := by
  refine .bind (Scene.Follows.ask rfl).attempt fun result => ?_
  cases result with
  | ok id => exact .bind (.count _ _) fun _ => .pure _
  | error error => exact .bind (.note _) fun _ => follows_routeFailure credentials record _

theorem follows_dispatch (record : ρ) (session : SessionHandle) (producer : ProducerHandle)
    (message : Message) :
    Scene.Follows (presenting credentials) (dispatch endpoint record session producer message)
      (dispatch (endpoint.presenting credentials) record session producer message) := by
  refine .get_bind fun writer => ?_
  dsimp only [presenting]
  split
  · refine .bind (Scene.Follows.ask rfl).attempt fun result => ?_
    cases result with
    | ok destination =>
      exact follows_deliver endpoint credentials record producer destination message
    | error error => exact .bind (.note _) fun _ => follows_routeFailure credentials record _
  · split
    · exact follows_deliver endpoint credentials record producer _ message
    · exact .bind (.note _) fun _ => follows_routeFailure credentials record _

theorem follows_process (record : ρ) :
    Scene.Follows (presenting credentials) (process endpoint record)
      (process (endpoint.presenting credentials) record) := by
  refine .get_bind fun writer => ?_
  dsimp only [presenting]
  split
  · split
    · exact follows_dispatch endpoint credentials record _ _ _
    · exact .bind (.note _) fun _ => follows_routeFailure credentials record _
  · exact .bind (.note _) fun _ => follows_routeFailure credentials record _

theorem follows_processAll (records : List ρ) (summary : WriteSummary) :
    Scene.Follows (presenting credentials) (processAll endpoint records summary)
      (processAll (endpoint.presenting credentials) records summary) := by
  induction records generalizing summary with
  | nil => exact .pure _
  | cons record rest ih =>
    exact .bind (follows_process endpoint credentials record) fun outcome => ih _

/-- Records are written whatever the credentials are, up to what the writer presents. -/
theorem follows_writeAll (records : List ρ) :
    Scene.Follows (presenting credentials) (writeAll endpoint records)
      (writeAll (endpoint.presenting credentials) records) := by
  refine .bind (follows_setup endpoint credentials) fun _ => ?_
  refine .bind (follows_processAll endpoint credentials records _) fun summary => ?_
  refine .bind (follows_teardown endpoint credentials).attempt fun result => ?_
  cases result with
  | ok _ => exact .pure _
  | error failure => exact .bind (.note _) fun _ => .pure _

end Writer

end BrokerConnector
