import BrokerConnector.Bounded
import BrokerConnector.Proofs.Settlement
import BrokerConnector.Writer

/-!
# Surroundings that agree

Links, marks, readers and writers know their surroundings by what an endpoint answers and by the
time that it tells. Two endpoints that answer alike, on surroundings that agree in whatever sense is
chosen, are the same to a call: it ends in one way at both, with one client and one journal, and
leaves surroundings that agree (`Scene.Agree`). Each call is shown to, for any sense and with the
requests that it may make as a parameter. Two senses matter. Surroundings that are recorded agree
with those that are not, so recording changes nothing. And surroundings that allowed requests lead
to agree with themselves, so a call makes no others.
-/

namespace BrokerConnector

open BrokerConnector.Action

/-- Two endpoints answer allowed requests alike, tell one time and take surroundings that agree to
surroundings that agree. -/
structure Endpoint.Alike {σ τ : Type} (endpoint : Endpoint σ) (other : Endpoint τ)
    (allowed : Request → Prop) (related : σ → τ → Prop) : Prop where
  answer : ∀ request, allowed request → ∀ env env', related env env' →
    (endpoint.answer request env).1 = (other.answer request env').1 ∧
      related (endpoint.answer request env).2 (other.answer request env').2
  clock : ∀ env env', related env env' → endpoint.clock env = other.clock env'
  sleep : ∀ milliseconds env env', related env env' →
    (endpoint.sleep milliseconds env).2 = (other.sleep milliseconds env').2 ∧
      related (endpoint.sleep milliseconds env).1 (other.sleep milliseconds env').1

/-- Endpoints that answer more requests alike answer these alike. -/
theorem Endpoint.Alike.mono {σ τ : Type} {endpoint : Endpoint σ} {other : Endpoint τ}
    {allowed more : Request → Prop} {related : σ → τ → Prop}
    (h : endpoint.Alike other more related) (hmore : ∀ request, allowed request → more request) :
    endpoint.Alike other allowed related where
  answer request hallowed := h.answer request (hmore request hallowed)
  clock := h.clock
  sleep := h.sleep

namespace Scene

variable {ρ ρ' σ τ ε ε' α β : Type}

/-- From one client and one journal, in surroundings that agree, two calls end in one way, with one
client and one journal, in surroundings that agree. -/
def Agree (related : σ → τ → Prop) (call : Action (Scene ρ σ) ε α) (call' : Action (Scene ρ τ) ε α) :
    Prop :=
  ∀ client journal env env', related env env' →
    ∃ outcome client' journal' after after',
      call ⟨client, journal, env⟩ = (outcome, ⟨client', journal', after⟩) ∧
      call' ⟨client, journal, env'⟩ = (outcome, ⟨client', journal', after'⟩) ∧
      related after after'

variable {endpoint : Endpoint σ} {other : Endpoint τ} {allowed : Request → Prop}
  {related : σ → τ → Prop}

namespace Agree

/-! ## Calls that are put together -/

protected theorem pure (value : α) : Agree (ρ := ρ) (ε := ε) related (pure value) (pure value) :=
  fun _ _ _ _ h => ⟨_, _, _, _, _, rfl, rfl, h⟩

protected theorem fail (error : ε) : Agree (ρ := ρ) (α := α) related (fail error) (fail error) :=
  fun _ _ _ _ h => ⟨_, _, _, _, _, rfl, rfl, h⟩

protected theorem abandon : Agree (ρ := ρ) (ε := ε) (α := α) related abandon abandon :=
  fun _ _ _ _ h => ⟨_, _, _, _, _, rfl, rfl, h⟩

protected theorem ofExcept (result : Except ε α) :
    Agree (ρ := ρ) related (ofExcept result) (ofExcept result) := by
  cases result with
  | ok value => exact .pure value
  | error error => exact .fail error

/-- Calls in order agree if the first ones do and what follows any value does. -/
protected theorem bind {first : Action (Scene ρ σ) ε β} {first' : Action (Scene ρ τ) ε β}
    {next : β → Action (Scene ρ σ) ε α} {next' : β → Action (Scene ρ τ) ε α}
    (hfirst : Agree related first first') (hnext : ∀ value, Agree related (next value) (next' value)) :
    Agree related (first >>= next) (first' >>= next') := by
  intro client journal env env' h
  obtain ⟨outcome, client₁, journal₁, env₁, env₁', hcall, hcall', h₁⟩ :=
    hfirst client journal env env' h
  simp only [bind_apply, hcall, hcall']
  cases outcome with
  | done value => exact hnext value client₁ journal₁ env₁ env₁' h₁
  | failed error => exact ⟨_, _, _, _, _, rfl, rfl, h₁⟩
  | abandoned => exact ⟨_, _, _, _, _, rfl, rfl, h₁⟩

protected theorem attempt {call : Action (Scene ρ σ) ε α} {call' : Action (Scene ρ τ) ε α}
    (h : Agree related call call') : Agree (ε := ε') related (attempt call) (attempt call') := by
  intro client journal env env' henv
  obtain ⟨outcome, client₁, journal₁, env₁, env₁', hcall, hcall', h₁⟩ :=
    h client journal env env' henv
  simp only [attempt, hcall, hcall']
  cases outcome <;> exact ⟨_, _, _, _, _, rfl, rfl, h₁⟩

protected theorem mapError {call : Action (Scene ρ σ) ε α} {call' : Action (Scene ρ τ) ε α}
    (h : Agree related call call') (tell : ε → ε') :
    Agree related (mapError tell call) (mapError tell call') := by
  intro client journal env env' henv
  obtain ⟨outcome, client₁, journal₁, env₁, env₁', hcall, hcall', h₁⟩ :=
    h client journal env env' henv
  simp only [mapError, hcall, hcall']
  cases outcome <;> exact ⟨_, _, _, _, _, rfl, rfl, h₁⟩

/-! ## Calls of a scene -/

protected theorem get : Agree (ρ := ρ) (ε := ε) related get get :=
  fun _ _ _ _ h => ⟨_, _, _, _, _, rfl, rfl, h⟩

protected theorem modify (change : ρ → ρ) :
    Agree (ε := ε) related (modify change) (modify change) :=
  fun _ _ _ _ h => ⟨_, _, _, _, _, rfl, rfl, h⟩

protected theorem note (notice : Notice) :
    Agree (ρ := ρ) (ε := ε) related (note notice) (note notice) :=
  fun _ _ _ _ h => ⟨_, _, _, _, _, rfl, rfl, h⟩

protected theorem count (metric : Metric) (amount : Int) :
    Agree (ρ := ρ) (ε := ε) related (count metric amount) (count metric amount) :=
  fun _ _ _ _ h => ⟨_, _, _, _, _, rfl, rfl, h⟩

protected theorem modifyJournaled (change : ρ → Journal → ρ × Journal) :
    Agree (ε := ε) related (modifyJournaled change) (modifyJournaled change) :=
  fun _ _ _ _ h => ⟨_, _, _, _, _, rfl, rfl, h⟩

/-- A request that is allowed is answered alike. -/
protected theorem ask (h : endpoint.Alike other allowed related) {request : Request}
    (hallowed : allowed request) :
    Agree (ρ := ρ) related (ask endpoint request) (ask other request) := by
  intro client journal env env' henv
  obtain ⟨houtcome, hafter⟩ := h.answer request hallowed env env' henv
  refine ⟨_, _, _, _, _, rfl, ?_, hafter⟩
  rw [houtcome]
  rfl

protected theorem clock (h : endpoint.Alike other allowed related) :
    Agree (ρ := ρ) (ε := ε) related (clock endpoint) (clock other) := by
  intro client journal env env' henv
  refine ⟨_, _, _, _, _, rfl, ?_, henv⟩
  rw [h.clock env env' henv]
  rfl

protected theorem pause (h : endpoint.Alike other allowed related) (milliseconds : Nat) :
    Agree (ρ := ρ) (ε := ε) related (pause endpoint milliseconds) (pause other milliseconds) := by
  intro client journal env env' henv
  obtain ⟨hnotices, hafter⟩ := h.sleep milliseconds env env' henv
  refine ⟨_, _, _, _, _, rfl, ?_, hafter⟩
  rw [hnotices]
  rfl

/-- Calls of a part of the client agree as they do by themselves. -/
protected theorem within {call : Action (Scene ρ' σ) ε α} {call' : Action (Scene ρ' τ) ε α}
    {part : ρ → ρ'} {put : ρ' → ρ → ρ} (h : Agree related call call') :
    Agree related (within part put call) (within part put call') := by
  intro client journal env env' henv
  obtain ⟨outcome, client₁, journal₁, env₁, env₁', hcall, hcall', h₁⟩ :=
    h (part client) journal env env' henv
  simp only [within, hcall, hcall']
  exact ⟨_, _, _, _, _, rfl, rfl, h₁⟩

/-- Calls of another client agree as they do by themselves. -/
protected theorem alone {call : Action (Scene ρ' σ) ε α} {call' : Action (Scene ρ' τ) ε α}
    {inner : ρ'} {gone : ρ' → Journal → Journal} (h : Agree related call call') :
    Agree (ρ := ρ) related (alone inner gone call) (alone inner gone call') := by
  intro client journal env env' henv
  obtain ⟨outcome, client₁, journal₁, env₁, env₁', hcall, hcall', h₁⟩ :=
    h inner journal env env' henv
  simp only [alone, hcall, hcall']
  exact ⟨_, _, _, _, _, rfl, rfl, h₁⟩

protected theorem setupStep (h : endpoint.Alike other allowed related) {step : SetupStep}
    {request : Request} (hallowed : allowed request) :
    Agree (ρ := ρ) related (setupStep endpoint step request) (setupStep other step request) :=
  (Agree.ask h hallowed).mapError (ConnectorError.setup step)

protected theorem release (h : endpoint.Alike other allowed related) {request : Request}
    {told : BrokerError → Notice} (hallowed : allowed request) :
    Agree (ρ := ρ) (ε := ε) related (release endpoint request told)
      (release other request told) := by
  refine .bind (Agree.ask h hallowed).attempt fun result => ?_
  cases result with
  | ok answer => exact .pure _
  | error error => exact .bind (.note _) fun _ => .pure _

end Agree

/-- A scene in surroundings that are seen of its own. -/
def through (view : σ → τ) (s : Scene ρ σ) : Scene ρ τ where
  client := s.client
  journal := s.journal
  env := view s.env

/-- A call ends as it does in the surroundings that are seen of its own. -/
theorem Agree.through {view : σ → τ} {call : Action (Scene ρ σ) ε α}
    {call' : Action (Scene ρ τ) ε α} (h : Agree (fun env env' => view env = env') call call')
    (s : Scene ρ σ) : call' (s.through view) = ((call s).1, (call s).2.through view) := by
  obtain ⟨outcome, client, journal, env, _, hcall, hcall', rfl⟩ :=
    h s.client s.journal s.env (view s.env) rfl
  have hs : call s = (outcome, ⟨client, journal, env⟩) := hcall
  rw [hs]
  exact hcall'

end Scene

/-! ## Requests that concern messages -/

/-- Whether a request asks neither for a message nor for an acknowledgment, and sends nothing. -/
def Request.isIdle : Request → Bool
  | .broker (.receive _) | .broker (.acknowledge _ _) | .broker (.send _ _ _) => false
  | _ => true

section

variable {α σ τ ρ : Type} {endpoint : Endpoint σ} {other : Endpoint τ} {related : σ → τ → Prop}

/-! ## Links -/

namespace Link

variable (h : endpoint.Alike other (·.isIdle = true) related)
include h

/-- A link is acquired by idle requests. -/
theorem agree_acquire (credentials : Option Credentials) (mode : AcknowledgeMode) :
    Scene.Agree related (acquire endpoint credentials mode) (acquire other credentials mode) := by
  refine .bind (.setupStep h rfl) fun connection => .bind (.modify _) fun _ => ?_
  refine .bind (.setupStep h rfl) fun _ => .bind (.setupStep h rfl) fun session => ?_
  exact .bind (.modify _) fun _ => .pure _

theorem agree_releaseSession :
    Scene.Agree related (releaseSession endpoint) (releaseSession other) := by
  refine .bind .get fun link => ?_
  cases link.session with
  | none => exact .pure _
  | some session => exact .bind (.modify _) fun _ => .release h rfl

theorem agree_releaseConnection :
    Scene.Agree related (releaseConnection endpoint) (releaseConnection other) := by
  refine .bind .get fun link => ?_
  cases link.connection with
  | none => exact .pure _
  | some connection =>
    refine .bind (.modify _) fun _ => .bind (.release h rfl) fun _ => ?_
    exact .bind (.release h rfl) fun _ => .pure _

/-- A link is released by idle requests. -/
theorem agree_release : Scene.Agree related (release endpoint) (release other) :=
  .bind (agree_releaseSession h) fun _ => .bind (agree_releaseConnection h) fun _ => .pure _

end Link

/-! ## Marks -/

namespace Mark

variable (h : endpoint.Alike other (fun _ => True) related)
include h

/-- Entries are settled alike, each after the ones before it. -/
theorem agree_settle (session : SessionHandle) (entries : List PendingDelivery) :
    Scene.Agree related (settle endpoint session entries) (settle other session entries) := by
  induction entries with
  | nil => exact .pure _
  | cons delivery rest ih =>
    have hacknowledge : Scene.Agree (ρ := Mark) related
        (Scene.ask endpoint (.broker (.acknowledge session delivery.id)))
        (Scene.ask other (.broker (.acknowledge session delivery.id))) := .ask h trivial
    refine .bind hacknowledge.attempt fun result => ?_
    cases result with
    | ok _ => exact .bind ih fun _ => .pure _
    | error error =>
      dsimp only
      split
      · exact .bind (.note _) fun _ => .bind ih fun _ => .pure _
      · exact .pure _

theorem agree_finalize : Scene.Agree related (finalize endpoint) (finalize other) := by
  refine .bind .get fun mark => ?_
  split
  · exact .pure _
  · cases mark.session with
    | none => exact .fail _
    | some session =>
      refine .bind (agree_settle h session _) fun settlement => ?_
      refine .bind (.modifyJournaled _) fun _ => .bind (.count _ _) fun _ => ?_
      cases settlement.failure with
      | none => exact .pure _
      | some error => exact .fail _

end Mark

/-! ## Readers -/

namespace Reader

section

variable (h : endpoint.Alike other (·.isIdle = true) related)
include h

/-- A reader acquires its resources by idle requests. -/
theorem agree_acquire :
    Scene.Agree related (acquire (α := α) endpoint) (acquire (α := α) other) := by
  refine .bind .get fun reader => .bind (.within (Link.agree_acquire h _ _)) fun session => ?_
  refine .bind (.setupStep h rfl) fun destination => .bind (.setupStep h rfl) fun consumer => ?_
  refine .bind (.modify _) fun _ => .bind (.modifyJournaled _) fun _ => ?_
  exact .bind (.setupStep h rfl) fun _ => .modify _

theorem agree_releaseConsumer :
    Scene.Agree related (releaseConsumer (α := α) endpoint) (releaseConsumer (α := α) other) := by
  refine .bind .get fun reader => ?_
  cases reader.consumer with
  | none => exact .pure _
  | some consumer => exact .bind (.modify _) fun _ => .release h rfl

theorem agree_releaseEstimator :
    Scene.Agree related (releaseEstimator (α := α) endpoint) (releaseEstimator (α := α) other) := by
  refine .bind .get fun reader => ?_
  cases reader.estimator with
  | none => exact .pure _
  | some estimator =>
    have hstop : Scene.Agree (ρ := Reader α) related (Scene.ask endpoint (.stopEstimator estimator))
        (Scene.ask other (.stopEstimator estimator)) := .ask h rfl
    exact .bind (.modify _) fun _ => .bind hstop.attempt fun _ => .pure _

/-- A reader is closed by idle requests. -/
theorem agree_close : Scene.Agree related (close (α := α) endpoint) (close (α := α) other) := by
  refine .bind (agree_releaseConsumer h) fun ofConsumer => ?_
  refine .bind (.within (Link.agree_release h)) fun ofLink => ?_
  refine .bind (agree_releaseEstimator h) fun _ => .bind (.modifyJournaled _) fun _ => ?_
  dsimp only
  split
  · exact .pure _
  · exact .fail _

end

variable (h : endpoint.Alike other (fun _ => True) related)

theorem agree_emit (related : σ → τ → Prop) (message : Message) (id : MessageId) :
    Scene.Agree related (emit (α := α) message id) (emit message id) := by
  refine .bind .get fun reader => ?_
  dsimp only
  split
  · exact .fail _
  · exact .bind (.count _ _) fun _ => .bind (.modify _) fun _ => .pure _

include h

/-- Messages are received alike, however many are passed over. -/
theorem agree_poll (consumer : ConsumerHandle) (budget : Nat) :
    Scene.Agree related (poll (α := α) endpoint consumer budget)
      (poll (α := α) other consumer budget) := by
  induction budget with
  | zero =>
    unfold poll
    refine .bind ((Scene.Agree.ask h trivial).mapError _) fun received => ?_
    cases received with
    | none => exact .pure _
    | some message =>
      dsimp only
      cases message.id with
      | none => exact .fail _
      | some id => exact .bind (.modifyJournaled _) fun _ => agree_emit related message id
  | succ budget ih =>
    unfold poll
    refine .bind ((Scene.Agree.ask h trivial).mapError _) fun received => ?_
    cases received with
    | none => exact .pure _
    | some message =>
      dsimp only
      cases message.id with
      | none => exact .fail _
      | some id =>
        refine .bind (.modifyJournaled _) fun _ => .bind .get fun reader => ?_
        split
        · exact .bind (.modify _) fun _ => .bind (.count _ _) fun _ => ih
        · exact agree_emit related message id

theorem agree_advance :
    Scene.Agree related (advance (α := α) endpoint) (advance (α := α) other) := by
  refine .bind .get fun reader => ?_
  split
  · exact .fail _
  · refine .bind (.modify _) fun _ => ?_
    cases reader.consumer with
    | none => exact .fail _
    | some consumer => exact agree_poll h consumer _

theorem agree_start : Scene.Agree related (start (α := α) endpoint) (start (α := α) other) := by
  have hidle : endpoint.Alike other (·.isIdle = true) related := h.mono fun _ _ => trivial
  refine .bind .get fun reader => ?_
  dsimp only
  split
  · exact .fail _
  · refine .bind (.modify _) fun _ => .bind (agree_acquire hidle).attempt fun acquired => ?_
    cases acquired with
    | ok _ => exact .bind (.modify _) fun _ => agree_advance h
    | error error =>
      refine .bind (.note _) fun _ => .bind (agree_close hidle).attempt fun closed => ?_
      cases closed with
      | ok _ => exact .fail _
      | error failure => exact .bind (.note _) fun _ => .fail _

theorem agree_finalize :
    Scene.Agree related (finalize (α := α) endpoint) (finalize (α := α) other) :=
  .within (Mark.agree_finalize h)

end Reader

/-! ## Bounded reads -/

namespace BoundedRead

variable (h : endpoint.Alike other (fun _ => True) related)
include h

theorem agree_collect :
    Scene.Agree related (collect (α := α) endpoint) (collect (α := α) other) := by
  refine .bind .get fun read => .bind (.within ?_) fun found => ?_
  · split
    · exact Reader.agree_start h
    · exact Reader.agree_advance h
  · cases found with
    | false => exact .pure _
    | true =>
      refine .bind .get fun read => .bind (.ofExcept _) fun value => ?_
      exact .bind (.ofExcept _) fun timestamp => .bind (.modify _) fun _ => .pure _

theorem agree_poll (chance : Nat) :
    Scene.Agree related (poll (α := α) endpoint chance) (poll (α := α) other chance) := by
  refine .bind (agree_collect h) fun found => .bind (.clock h) fun now => .bind .get fun read => ?_
  dsimp only
  split
  · exact .bind (.modify _) fun _ => .pure _
  · exact .pure _

/-- A read takes its turns alike, with one pause as long as the other. -/
theorem agree_run (chance : Nat → Nat) (budget : Nat) :
    Scene.Agree related (run (α := α) endpoint chance budget)
      (run (α := α) other chance budget) := by
  induction budget with
  | zero => exact .abandon
  | succ budget ih =>
    refine .bind (agree_poll h _) fun turn => ?_
    cases turn with
    | finish => exact .pure _
    | pollAgain => exact ih
    | pauseFor milliseconds => exact .bind (.pause h _) fun _ => ih

theorem agree_conclude (result : Except ConnectorError Unit) :
    Scene.Agree related (conclude (α := α) endpoint result)
      (conclude (α := α) other result) := by
  have hidle : endpoint.Alike other (·.isIdle = true) related := h.mono fun _ _ => trivial
  have hclose : Scene.Agree related (withReader (α := α) (Reader.close endpoint))
      (withReader (α := α) (Reader.close other)) := .within (Reader.agree_close hidle)
  have hfinalize : Scene.Agree related (withReader (α := α) (Reader.finalize endpoint))
      (withReader (α := α) (Reader.finalize other)) := .within (Reader.agree_finalize h)
  unfold conclude
  cases result
  case' ok => refine .bind hfinalize.attempt fun settled => ?_
  case' error error => refine .bind (.pure _) fun settled => ?_
  -- The reader is closed whatever came before, and what the read ends with is decided last.
  all_goals
    refine .bind hclose.attempt fun closed => ?_
    cases closed <;> cases settled
    · exact .bind (.note _) fun _ => .fail _
    · exact .bind (.note _) fun _ => .bind .get fun _ => .pure _
    · exact .fail _
    · exact .bind .get fun _ => .pure _

end BoundedRead

namespace BoundedReader

variable (h : endpoint.Alike other (fun _ => True) related)
include h

/-- A whole read depends on its surroundings by their answers and their time alone. -/
theorem agree_read (chance : Nat → Nat) (budget : Nat) (bounded : BoundedReader α) :
    Scene.Agree related (bounded.read endpoint chance budget)
      (bounded.read other chance budget) := by
  unfold read
  split
  · exact .pure _
  · refine .bind (.clock h) fun now => .alone ?_
    exact .bind (BoundedRead.agree_run h chance budget).attempt fun result =>
      BoundedRead.agree_conclude h result

end BoundedReader

/-! ## Writers -/

namespace Writer

section

variable (h : endpoint.Alike other (·.isIdle = true) related)
include h

theorem agree_releaseProducer :
    Scene.Agree related (releaseProducer (ρ := ρ) endpoint) (releaseProducer (ρ := ρ) other) := by
  refine .bind .get fun writer => ?_
  cases writer.producer with
  | none => exact .pure _
  | some producer => exact .bind (.modify _) fun _ => .release h rfl

/-- A writer releases what it holds by idle requests. -/
theorem agree_release :
    Scene.Agree related (release (ρ := ρ) endpoint) (release (ρ := ρ) other) := by
  refine .bind (agree_releaseProducer h) fun ofProducer => ?_
  refine .bind (.within (Link.agree_release h)) fun ofLink => .bind (.modify _) fun _ => ?_
  dsimp only
  split
  · exact .pure _
  · exact .fail _

/-- A writer acquires its resources by idle requests. -/
theorem agree_acquire :
    Scene.Agree related (acquire (ρ := ρ) endpoint) (acquire (ρ := ρ) other) := by
  refine .bind .get fun writer => .bind (.within (Link.agree_acquire h _ _)) fun session => ?_
  dsimp only
  split
  · refine .bind (.setupStep h rfl) fun destination => .bind (.modify _) fun _ => ?_
    exact .bind (.setupStep h rfl) fun producer => .modify _
  · refine .bind (.modify _) fun _ => ?_
    exact .bind (.setupStep h rfl) fun producer => .modify _

theorem agree_releaseLeftovers :
    Scene.Agree related (releaseLeftovers (ρ := ρ) endpoint) (releaseLeftovers (ρ := ρ) other) := by
  refine .bind .get fun writer => ?_
  split
  · exact .pure _
  · refine .bind (agree_release h).attempt fun released => ?_
    cases released with
    | ok _ => exact .pure _
    | error failure => exact .note _

/-- A writer is set up by idle requests. -/
theorem agree_setup :
    Scene.Agree related (setup (ρ := ρ) endpoint) (setup (ρ := ρ) other) := by
  refine .bind .get fun writer => ?_
  split
  · exact .pure _
  · refine .bind (agree_releaseLeftovers h) fun _ => ?_
    refine .bind (agree_acquire h).attempt fun acquired => ?_
    cases acquired with
    | ok _ => exact .modify _
    | error error =>
      refine .bind (.note _) fun _ => .bind (agree_release h).attempt fun released => ?_
      cases released with
      | ok _ => exact .fail _
      | error failure => exact .bind (.note _) fun _ => .fail _

/-- A writer is torn down by idle requests. -/
theorem agree_teardown :
    Scene.Agree related (teardown (ρ := ρ) endpoint) (teardown (ρ := ρ) other) :=
  .bind (agree_release h).attempt fun _ => .bind (.modify _) fun _ => .ofExcept _

end

theorem agree_routeFailure (related : σ → τ → Prop) (record : ρ) (reason : FailureReason) :
    Scene.Agree related (routeFailure record reason) (routeFailure record reason) :=
  .bind (.count _ _) fun _ => .bind (.modify _) fun _ => .pure _

variable (h : endpoint.Alike other (fun _ => True) related)
include h

theorem agree_deliver (record : ρ) (producer : ProducerHandle) (destination : Destination)
    (message : Message) :
    Scene.Agree related (deliver endpoint record producer destination message)
      (deliver other record producer destination message) := by
  refine .bind (Scene.Agree.ask h trivial).attempt fun result => ?_
  cases result with
  | ok id => exact .bind (.count _ _) fun _ => .pure _
  | error error => exact .bind (.note _) fun _ => agree_routeFailure related record _

theorem agree_dispatch (record : ρ) (session : SessionHandle) (producer : ProducerHandle)
    (message : Message) :
    Scene.Agree related (dispatch endpoint record session producer message)
      (dispatch other record session producer message) := by
  refine .bind .get fun writer => ?_
  dsimp only
  split
  · refine .bind (Scene.Agree.ask h trivial).attempt fun result => ?_
    cases result with
    | ok destination => exact agree_deliver h record producer destination message
    | error error => exact .bind (.note _) fun _ => agree_routeFailure related record _
  · split
    · exact agree_deliver h record producer _ message
    · exact .bind (.note _) fun _ => agree_routeFailure related record _

/-- A record is processed alike. -/
theorem agree_process (record : ρ) :
    Scene.Agree related (process endpoint record) (process other record) := by
  refine .bind .get fun writer => ?_
  split
  · split
    · exact agree_dispatch h record _ _ _
    · exact .bind (.note _) fun _ => agree_routeFailure related record _
  · exact .bind (.note _) fun _ => agree_routeFailure related record _

theorem agree_processAll (records : List ρ) (summary : WriteSummary) :
    Scene.Agree related (processAll endpoint records summary)
      (processAll other records summary) := by
  induction records generalizing summary with
  | nil => exact .pure _
  | cons record rest ih => exact .bind (agree_process h record) fun outcome => ih _

/-- Records are written alike. -/
theorem agree_writeAll (records : List ρ) :
    Scene.Agree related (writeAll endpoint records) (writeAll other records) := by
  have hidle : endpoint.Alike other (·.isIdle = true) related := h.mono fun _ _ => trivial
  refine .bind (agree_setup hidle) fun _ => .bind (agree_processAll h records _) fun summary => ?_
  refine .bind (agree_teardown hidle).attempt fun result => ?_
  cases result with
  | ok _ => exact .pure _
  | error failure => exact .bind (.note _) fun _ => .pure _

end Writer

end

end BrokerConnector
