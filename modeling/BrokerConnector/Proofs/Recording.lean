import BrokerConnector.Proofs.Agreement

/-!
# Surroundings that are recorded

What is shown here holds against any endpoint, whatever it answers and whether it answers at all.
`Endpoint.recorded` answers like an endpoint and keeps the events that concern messages: what
consumers gave, and how acknowledgments ended. A call ends as it does without the recording
(`Scene.Agree.unrecorded`). `Endpoint.Steps` relates surroundings before and after some requests and
pauses, and `Scene.Asks` says of a call that it makes no requests but allowed ones; so a call that
asks neither for messages nor for acknowledgments adds no event.
-/

namespace BrokerConnector

open BrokerConnector.Action

/-! ## Events -/

/-- What a consumer gave when it was asked for a message. -/
abbrev Receipt := Outcome BrokerError (Option Message)

/-- What a client is told about messages. -/
inductive Event where
  /-- A consumer was asked for a message. -/
  | received (receipt : Receipt)
  /-- A session was asked to acknowledge a message. -/
  | acknowledgment (id : MessageId) (outcome : Outcome BrokerError Unit)
  deriving DecidableEq

namespace Event

/-- The event that a request is, if it concerns messages. -/
def of? : (request : Request) → Outcome BrokerError request.Answer → Option Event
  | .broker (.receive _), outcome => some (.received outcome)
  | .broker (.acknowledge _ id), outcome => some (.acknowledgment id outcome)
  | _, _ => none

/-- What a consumer gave. -/
def receipt? : Event → Option Receipt
  | received receipt => some receipt
  | acknowledgment _ _ => none

/-- The message that was acknowledged. -/
def acknowledged? : Event → Option MessageId
  | acknowledgment id (.done ()) => some id
  | _ => none

end Event

/-- Surroundings with the events so far. -/
structure Recorded (σ : Type) where
  env : σ
  events : List Event := []
  deriving DecidableEq

namespace Recorded

variable {σ : Type}

/-- What consumers gave, in order. -/
def receipts (recorded : Recorded σ) : List Receipt :=
  recorded.events.filterMap (·.receipt?)

/-- The messages that were acknowledged, in order. -/
def acknowledged (recorded : Recorded σ) : List MessageId :=
  recorded.events.filterMap (·.acknowledged?)

/-- Surroundings after one more event. -/
def told (recorded : Recorded σ) (env : σ) (event : Event) : Recorded σ :=
  ⟨env, recorded.events ++ [event]⟩

@[simp]
theorem receipts_told_received (recorded : Recorded σ) (env : σ) (receipt : Receipt) :
    (recorded.told env (.received receipt)).receipts = recorded.receipts ++ [receipt] :=
  List.filterMap_append

end Recorded

namespace Endpoint

variable {σ : Type}

/-- An endpoint that records what it tells about messages. -/
def recorded (endpoint : Endpoint σ) : Endpoint (Recorded σ) where
  answer request recorded :=
    let (outcome, env) := endpoint.answer request recorded.env
    (outcome, ⟨env, recorded.events ++ (Event.of? request outcome).toList⟩)
  clock recorded := endpoint.clock recorded.env
  sleep milliseconds recorded :=
    let (env, notices) := endpoint.sleep milliseconds recorded.env
    ({ recorded with env := env }, notices)

/-- An allowed request or a pause. -/
inductive Step (endpoint : Endpoint σ) (allowed : Request → Prop) (before : σ) : σ → Prop where
  | answer (request : Request) (h : allowed request) :
    Step endpoint allowed before (endpoint.answer request before).2
  | sleep (milliseconds : Nat) : Step endpoint allowed before (endpoint.sleep milliseconds before).1

/-- Allowed requests and pauses. -/
abbrev Steps (endpoint : Endpoint σ) (allowed : Request → Prop) : σ → σ → Prop :=
  Relation.ReflTransGen (endpoint.Step allowed)

end Endpoint

/-- Whether a request asks for no acknowledgment. -/
def Request.isLenient : Request → Bool
  | .broker (.acknowledge _ _) => false
  | _ => true

/-- An idle request is no event. -/
theorem Event.of?_of_isIdle {request : Request} (h : request.isIdle = true)
    (outcome : Outcome BrokerError request.Answer) : Event.of? request outcome = none := by
  cases request with
  | broker request =>
    cases request with
    | receive | acknowledge | send => cases h
    | _ => rfl
  | _ => rfl

/-- A request that asks for no acknowledgment acknowledges nothing. -/
theorem Event.acknowledged_of_isLenient {request : Request} (h : request.isLenient = true)
    (outcome : Outcome BrokerError request.Answer) :
    (Event.of? request outcome).toList.filterMap (·.acknowledged?) = [] := by
  cases request with
  | broker request =>
    cases request with
    | acknowledge => cases h
    | _ => rfl
  | _ => rfl

namespace Recorded

variable {σ : Type} {endpoint : Endpoint σ} {before after : Recorded σ}

/-- Idle requests and pauses are no events. -/
theorem events_of_idle (h : endpoint.recorded.Steps (·.isIdle = true) before after) :
    after.events = before.events := by
  induction h with
  | refl => rfl
  | tail _ hstep ih =>
    refine Eq.trans ?_ ih
    cases hstep with
    | answer request hidle =>
      simp only [Endpoint.recorded, Event.of?_of_isIdle hidle, Option.toList_none, List.append_nil]
    | sleep => rfl

/-- Where no acknowledgment is asked for, nothing is acknowledged. -/
theorem acknowledged_of_lenient (h : endpoint.recorded.Steps (·.isLenient = true) before after) :
    after.acknowledged = before.acknowledged := by
  induction h with
  | refl => rfl
  | @tail middle _ _ hstep ih =>
    refine Eq.trans ?_ ih
    cases hstep with
    | answer request hlenient =>
      rw [acknowledged, acknowledged]
      simp only [Endpoint.recorded, List.filterMap_append,
        Event.acknowledged_of_isLenient hlenient, List.append_nil]
    | sleep => rfl

end Recorded

/-! ## Recording changes nothing -/

/-- An endpoint that records answers like the endpoint that it records. -/
theorem Endpoint.recorded_alike {σ : Type} (endpoint : Endpoint σ) :
    endpoint.recorded.Alike endpoint (fun _ => True) fun recorded env => recorded.env = env := by
  constructor
  · rintro request - recorded _ rfl
    exact ⟨rfl, rfl⟩
  · rintro recorded _ rfl
    rfl
  · rintro milliseconds recorded _ rfl
    exact ⟨rfl, rfl⟩

namespace Scene

variable {ρ σ ε α : Type}

/-- A scene whose surroundings are not recorded. -/
def unrecorded (s : Scene ρ (Recorded σ)) : Scene ρ σ where
  client := s.client
  journal := s.journal
  env := s.env.env

/-- A call of surroundings that are not recorded ends as it does when they are. -/
theorem Agree.unrecorded {call : Action (Scene ρ (Recorded σ)) ε α}
    {call' : Action (Scene ρ σ) ε α}
    (h : Agree (fun recorded env => recorded.env = env) call call') (s : Scene ρ (Recorded σ)) :
    call' s.unrecorded = ((call s).1, (call s).2.unrecorded) :=
  h.through s

end Scene

/-! ## What a call asks for -/

namespace Scene

variable {ρ ρ' σ ε ε' α β : Type}

/-- A call makes no requests but allowed ones. -/
def Asks (endpoint : Endpoint σ) (allowed : Request → Prop) (call : Action (Scene ρ σ) ε α) :
    Prop :=
  ∀ s, endpoint.Steps allowed s.env (call s).2.env

variable {endpoint : Endpoint σ} {allowed : Request → Prop}

/-- A call makes no requests but allowed ones if it agrees with itself wherever those are answered
alike. Surroundings that allowed requests lead to agree with themselves. -/
theorem Asks.of_agree {call : Action (Scene ρ σ) ε α}
    (h : ∀ related : σ → σ → Prop, endpoint.Alike endpoint allowed related →
      Agree related call call) : Asks endpoint allowed call := by
  intro s
  have halike : endpoint.Alike endpoint allowed
      fun env env' => env = env' ∧ endpoint.Steps allowed s.env env := by
    constructor
    · rintro request hallowed env _ ⟨rfl, hsteps⟩
      exact ⟨rfl, rfl, hsteps.tail (.answer request hallowed)⟩
    · rintro env _ ⟨rfl, -⟩
      rfl
    · rintro milliseconds env _ ⟨rfl, hsteps⟩
      exact ⟨rfl, rfl, hsteps.tail (.sleep milliseconds)⟩
  obtain ⟨outcome, client, journal, env, env', hcall, -, -, hsteps⟩ :=
    h _ halike s.client s.journal s.env s.env ⟨rfl, .refl⟩
  have henv : (call s).2.env = env := by rw [hcall]
  rwa [henv]

/-- What a call leaves that asks for nothing but idle requests was told nothing. -/
theorem leaves_idle {s : Scene ρ (Recorded σ)} {call : Action (Scene ρ (Recorded σ)) ε α}
    {done : α → Scene ρ (Recorded σ) → Prop} {failed : ε → Scene ρ (Recorded σ) → Prop}
    {dropped : Scene ρ (Recorded σ) → Prop} (h : Leaves call s done failed dropped)
    (hidle : Asks endpoint.recorded (·.isIdle = true) call) :
    Leaves call s (fun value s' => done value s' ∧ s'.env.events = s.env.events)
      (fun error s' => failed error s' ∧ s'.env.events = s.env.events)
      (fun s' => dropped s' ∧ s'.env.events = s.env.events) := by
  refine h.and ?_
  exact Recorded.events_of_idle (hidle s)

end Scene

/-! ## Requests that concern messages -/

namespace Scene

variable {ρ σ : Type} {endpoint : Endpoint σ} {s : Scene ρ (Recorded σ)}
  {failed : BrokerError → Scene ρ (Recorded σ) → Prop} {dropped : Scene ρ (Recorded σ) → Prop}

/-- What a consumer gives is an event. -/
theorem leaves_receive {consumer : ConsumerHandle}
    {done : Option Message → Scene ρ (Recorded σ) → Prop}
    (answered : ∀ message env,
      done message { s with env := s.env.told env (.received (.done message)) })
    (refused : ∀ error env,
      failed error { s with env := s.env.told env (.received (.failed error)) })
    (unanswered : ∀ env, dropped { s with env := s.env.told env (.received .abandoned) }) :
    Leaves (ask endpoint.recorded (.broker (.receive consumer))) s done failed dropped := by
  have happly : ask endpoint.recorded (.broker (.receive consumer)) s =
      let result := endpoint.answer (.broker (.receive consumer)) s.env.env
      (result.1, { s with env := s.env.told result.2 (.received result.1) }) := rfl
  unfold Leaves
  rw [happly]
  generalize endpoint.answer (.broker (.receive consumer)) s.env.env = result
  obtain ⟨outcome, env⟩ := result
  cases outcome with
  | done message => exact answered message env
  | failed error => exact refused error env
  | abandoned => exact unanswered env

/-- How an acknowledgment ends is an event. -/
theorem leaves_acknowledge {session : SessionHandle} {id : MessageId}
    {done : Unit → Scene ρ (Recorded σ) → Prop}
    (answered : ∀ env, done () { s with env := s.env.told env (.acknowledgment id (.done ())) })
    (refused : ∀ error env,
      failed error { s with env := s.env.told env (.acknowledgment id (.failed error)) })
    (unanswered : ∀ env, dropped { s with env := s.env.told env (.acknowledgment id .abandoned) }) :
    Leaves (ask endpoint.recorded (.broker (.acknowledge session id))) s done failed dropped := by
  have happly : ask endpoint.recorded (.broker (.acknowledge session id)) s =
      let result := endpoint.answer (.broker (.acknowledge session id)) s.env.env
      (result.1, { s with env := s.env.told result.2 (.acknowledgment id result.1) }) := rfl
  unfold Leaves
  rw [happly]
  generalize endpoint.answer (.broker (.acknowledge session id)) s.env.env = result
  obtain ⟨outcome, env⟩ := result
  cases outcome with
  | done _ => exact answered env
  | failed error => exact refused error env
  | abandoned => exact unanswered env

end Scene

/-! ## What readers ask for -/

namespace Reader

variable {α σ : Type} (endpoint : Endpoint σ)

/-- A reader acquires its resources without asking for messages. -/
theorem asks_acquire : Scene.Asks endpoint (·.isIdle = true) (acquire (α := α) endpoint) :=
  .of_agree fun _ h => agree_acquire h

/-- A reader is closed without asking for messages. -/
theorem asks_close : Scene.Asks endpoint (·.isIdle = true) (close (α := α) endpoint) :=
  .of_agree fun _ h => agree_close h

end Reader

end BrokerConnector
