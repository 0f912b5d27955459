import BrokerConnector.Proofs.Recording

/-!
# Calls that wait for answers only

A call of a reader does nothing to its surroundings but to make requests: it lets no time pass of
its own, and it is dropped only while it waits for the answer to a request (`Scene.Prompt`). So it
ends wherever every request is answered, and takes no longer than the answers take.
-/

namespace BrokerConnector

open BrokerConnector.Action

namespace Endpoint

variable {σ : Type}

/-- Requests in order, whatever they are. -/
abbrev Requests (endpoint : Endpoint σ) : σ → σ → Prop :=
  Relation.ReflTransGen fun before after => ∃ request, after = (endpoint.answer request before).2

/-- Requests in order, of which the last is left unanswered. -/
def Waits (endpoint : Endpoint σ) (before after : σ) : Prop :=
  ∃ env request, endpoint.Requests before env ∧ endpoint.answer request env = (.abandoned, after)

variable {endpoint : Endpoint σ} {before middle after : σ}

/-- Requests that end with one that is left unanswered are requests. -/
theorem Waits.requests (h : endpoint.Waits before after) : endpoint.Requests before after := by
  obtain ⟨env, request, hrequests, hanswer⟩ := h
  exact hrequests.tail ⟨request, by rw [hanswer]⟩

/-- A request that is left unanswered may follow others. -/
theorem Requests.waits (h : endpoint.Requests before middle)
    (hwaits : endpoint.Waits middle after) : endpoint.Waits before after := by
  obtain ⟨env, request, hrequests, hanswer⟩ := hwaits
  exact ⟨env, request, h.trans hrequests, hanswer⟩

end Endpoint

namespace Scene

variable {ρ ρ' σ ε ε' α β : Type} {endpoint : Endpoint σ}

/-- A call makes requests and nothing else, and is dropped only over one that is left
unanswered. -/
def Prompt (endpoint : Endpoint σ) (call : Action (Scene ρ σ) ε α) : Prop :=
  ∀ s, Leaves call s (fun _ s' => endpoint.Requests s.env s'.env)
    (fun _ s' => endpoint.Requests s.env s'.env) (fun s' => endpoint.Waits s.env s'.env)

namespace Prompt

/-! ## Calls that are put together -/

protected theorem pure (value : α) : Prompt endpoint (pure value : Action (Scene ρ σ) ε α) :=
  fun _ => .refl

protected theorem fail (error : ε) : Prompt endpoint (fail error : Action (Scene ρ σ) ε α) :=
  fun _ => .refl

protected theorem ofExcept (result : Except ε α) :
    Prompt endpoint (ofExcept result : Action (Scene ρ σ) ε α) := by
  cases result with
  | ok value => exact .pure value
  | error error => exact .fail error

/-- Calls in order are prompt if the first one is and what follows any value is. -/
protected theorem bind {first : Action (Scene ρ σ) ε β} {next : β → Action (Scene ρ σ) ε α}
    (hfirst : Prompt endpoint first) (hnext : ∀ value, Prompt endpoint (next value)) :
    Prompt endpoint (first >>= next) := by
  intro s
  rw [leaves_bind]
  refine (hfirst s).mono ?_ (fun _ _ => id) (fun _ => id)
  intro value s' hrequests
  refine (hnext value s').mono ?_ ?_ ?_
  · exact fun _ _ hlater => hrequests.trans hlater
  · exact fun _ _ hlater => hrequests.trans hlater
  · exact fun _ hwaits => Endpoint.Requests.waits hrequests hwaits

protected theorem attempt {call : Action (Scene ρ σ) ε α} (h : Prompt endpoint call) :
    Prompt endpoint (attempt call : Action (Scene ρ σ) ε' (Except ε α)) := by
  intro s
  rw [leaves_attempt]
  exact h s

protected theorem mapError {call : Action (Scene ρ σ) ε α} (h : Prompt endpoint call)
    (tell : ε → ε') : Prompt endpoint (mapError tell call) := by
  intro s
  rw [leaves_mapError]
  exact h s

/-! ## Calls of a scene -/

protected theorem get : Prompt endpoint (get : Action (Scene ρ σ) ε ρ) :=
  fun _ => .refl

protected theorem modify (change : ρ → ρ) :
    Prompt endpoint (modify change : Action (Scene ρ σ) ε Unit) :=
  fun _ => .refl

protected theorem note (notice : Notice) :
    Prompt endpoint (note notice : Action (Scene ρ σ) ε Unit) :=
  fun _ => .refl

protected theorem count (metric : Metric) (amount : Int) :
    Prompt endpoint (count metric amount : Action (Scene ρ σ) ε Unit) :=
  fun _ => .refl

protected theorem modifyJournaled (change : ρ → Journal → ρ × Journal) :
    Prompt endpoint (modifyJournaled change : Action (Scene ρ σ) ε Unit) :=
  fun _ => .refl

/-- A request is dropped only while it waits for its answer. -/
protected theorem ask (request : Request) : Prompt (ρ := ρ) endpoint (ask endpoint request) := by
  intro s
  refine leaves_ask ?_ ?_ ?_
  · exact fun answer env h => .single ⟨request, by rw [h]⟩
  · exact fun error env h => .single ⟨request, by rw [h]⟩
  · exact fun env h => ⟨s.env, request, .refl, h⟩

protected theorem within {call : Action (Scene ρ' σ) ε α} {part : ρ → ρ'} {put : ρ' → ρ → ρ}
    (h : Prompt endpoint call) : Prompt endpoint (within part put call) := by
  intro s
  rw [leaves_within]
  exact h _

protected theorem setupStep (step : SetupStep) (request : Request) :
    Prompt (ρ := ρ) endpoint (setupStep endpoint step request) :=
  (Prompt.ask request).mapError _

protected theorem release (request : Request) (told : BrokerError → Notice) :
    Prompt endpoint (release endpoint request told : Action (Scene ρ σ) ε (List BrokerError)) := by
  refine .bind (Prompt.ask request).attempt fun result => ?_
  cases result with
  | ok answer => exact .pure _
  | error error => exact .bind (.note _) fun _ => .pure _

end Prompt

end Scene

open Scene (Prompt)

variable {α σ : Type} (endpoint : Endpoint σ)

/-! ## Links and marks -/

theorem Link.prompt_acquire (credentials : Option Credentials) (mode : AcknowledgeMode) :
    Prompt endpoint (Link.acquire endpoint credentials mode) :=
  .bind (.setupStep _ _) fun _ => .bind (.modify _) fun _ => .bind (.setupStep _ _) fun _ =>
    .bind (.setupStep _ _) fun _ => .bind (.modify _) fun _ => .pure _

/-- A link is released by requests that are each waited for. -/
theorem Link.prompt_release : Prompt endpoint (Link.release endpoint) := by
  have hsession : Prompt endpoint (Link.releaseSession endpoint) := by
    refine .bind .get fun link => ?_
    cases link.session with
    | none => exact .pure _
    | some session => exact .bind (.modify _) fun _ => .release _ _
  have hconnection : Prompt endpoint (Link.releaseConnection endpoint) := by
    refine .bind .get fun link => ?_
    cases link.connection with
    | none => exact .pure _
    | some connection =>
      exact .bind (.modify _) fun _ => .bind (.release _ _) fun _ => .bind (.release _ _) fun _ =>
        .pure _
  exact .bind hsession fun _ => .bind hconnection fun _ => .pure _

/-- Each acknowledgment of a finalization is waited for. -/
theorem Mark.prompt_finalize : Prompt endpoint (Mark.finalize endpoint) := by
  have hsettle : ∀ session entries, Prompt endpoint (Mark.settle endpoint session entries) := by
    intro session entries
    induction entries with
    | nil => exact .pure _
    | cons delivery rest ih =>
      refine .bind (Prompt.ask _).attempt fun result => ?_
      cases result with
      | ok _ => exact .bind ih fun _ => .pure _
      | error error =>
        dsimp only
        split
        · exact .bind (.note _) fun _ => .bind ih fun _ => .pure _
        · exact .pure _
  refine .bind .get fun mark => ?_
  split
  · exact .pure _
  · cases mark.session with
    | none => exact .fail _
    | some session =>
      refine .bind (hsettle session _) fun settlement => ?_
      refine .bind (.modifyJournaled _) fun _ => .bind (.count _ _) fun _ => ?_
      cases settlement.failure with
      | none => exact .pure _
      | some error => exact .fail _

/-! ## Readers -/

namespace Reader

theorem prompt_acquire : Prompt endpoint (acquire (α := α) endpoint) :=
  .bind .get fun _ => .bind (.within (Link.prompt_acquire endpoint _ _)) fun _ =>
    .bind (.setupStep _ _) fun _ => .bind (.setupStep _ _) fun _ => .bind (.modify _) fun _ =>
      .bind (.modifyJournaled _) fun _ => .bind (.setupStep _ _) fun _ => .modify _

/-- A reader is closed by requests that are each waited for. -/
theorem prompt_close : Prompt endpoint (close (α := α) endpoint) := by
  have hconsumer : Prompt endpoint (releaseConsumer (α := α) endpoint) := by
    refine .bind .get fun reader => ?_
    cases reader.consumer with
    | none => exact .pure _
    | some consumer => exact .bind (.modify _) fun _ => .release _ _
  have hestimator : Prompt endpoint (releaseEstimator (α := α) endpoint) := by
    refine .bind .get fun reader => ?_
    cases reader.estimator with
    | none => exact .pure _
    | some estimator =>
      exact .bind (.modify _) fun _ => .bind (Prompt.ask _).attempt fun _ => .pure _
  refine .bind hconsumer fun ofConsumer => ?_
  refine .bind (.within (Link.prompt_release endpoint)) fun ofLink => ?_
  refine .bind hestimator fun _ => .bind (.modifyJournaled _) fun _ => ?_
  dsimp only
  split
  · exact .pure _
  · exact .fail _

theorem prompt_emit (message : Message) (id : MessageId) :
    Prompt endpoint (emit (α := α) message id) := by
  refine .bind .get fun reader => ?_
  dsimp only
  split
  · exact .fail _
  · exact .bind (.count _ _) fun _ => .bind (.modify _) fun _ => .pure _

/-- Each message of a poll is waited for, however many are passed over. -/
theorem prompt_poll (consumer : ConsumerHandle) (budget : Nat) :
    Prompt endpoint (poll (α := α) endpoint consumer budget) := by
  -- A message that is passed over costs one of the budget.
  induction budget with
  | zero =>
    unfold poll
    refine .bind ((Prompt.ask _).mapError _) fun received => ?_
    cases received with
    | none => exact .pure _
    | some message =>
      dsimp only
      cases message.id with
      | none => exact .fail _
      | some id => exact .bind (.modifyJournaled _) fun _ => prompt_emit endpoint message id
  | succ budget ih =>
    unfold poll
    refine .bind ((Prompt.ask _).mapError _) fun received => ?_
    cases received with
    | none => exact .pure _
    | some message =>
      dsimp only
      cases message.id with
      | none => exact .fail _
      | some id =>
        refine .bind (.modifyJournaled _) fun _ => .bind .get fun reader => ?_
        split
        · exact .bind (.modify _) fun _ => .bind (.count _ _) fun _ => ih
        · exact prompt_emit endpoint message id

theorem prompt_advance : Prompt endpoint (advance (α := α) endpoint) := by
  refine .bind .get fun reader => ?_
  split
  · exact .fail _
  · refine .bind (.modify _) fun _ => ?_
    cases reader.consumer with
    | none => exact .fail _
    | some consumer => exact prompt_poll endpoint consumer _

theorem prompt_start : Prompt endpoint (start (α := α) endpoint) := by
  refine .bind .get fun reader => ?_
  dsimp only
  split
  · exact .fail _
  · refine .bind (.modify _) fun _ => .bind (prompt_acquire endpoint).attempt fun acquired => ?_
    cases acquired with
    | ok _ => exact .bind (.modify _) fun _ => prompt_advance endpoint
    | error error =>
      refine .bind (.note _) fun _ => .bind (prompt_close endpoint).attempt fun closed => ?_
      cases closed with
      | ok _ => exact .fail _
      | error failure => exact .bind (.note _) fun _ => .fail _

end Reader

/-! ## Bounded reads -/

namespace BoundedRead

/-- A read that collects a record waits for its reader only. -/
theorem prompt_collect : Prompt endpoint (collect (α := α) endpoint) := by
  refine .bind .get fun read => .bind (.within ?_) fun found => ?_
  · split
    · exact Reader.prompt_start endpoint
    · exact Reader.prompt_advance endpoint
  · cases found with
    | false => exact .pure _
    | true =>
      refine .bind .get fun read => .bind (.ofExcept _) fun value => ?_
      exact .bind (.ofExcept _) fun timestamp => .bind (.modify _) fun _ => .pure _

/-- A read that is concluded waits for its acknowledgments and releases only. -/
theorem prompt_conclude (result : Except ConnectorError Unit) :
    Prompt endpoint (conclude (α := α) endpoint result) := by
  have hclose : Prompt endpoint (withReader (α := α) (Reader.close endpoint)) :=
    .within (Reader.prompt_close endpoint)
  have hfinalize : Prompt endpoint (withReader (α := α) (Reader.finalize endpoint)) :=
    .within (.within (Mark.prompt_finalize endpoint))
  unfold conclude
  cases result
  case' ok => refine .bind hfinalize.attempt fun settled => ?_
  case' error error => refine .bind (.pure _) fun settled => ?_
  -- The reader is closed whatever came before, and what the read ends with is decided last.
  all_goals
    refine .bind hclose.attempt fun closed => ?_
    cases closed <;> cases settled
    · exact .bind (.note _) fun _ => .fail _
    · exact .bind (.note _) fun _ => .bind .get fun _ => .pure _
    · exact .fail _
    · exact .bind .get fun _ => .pure _

end BoundedRead

end BrokerConnector
