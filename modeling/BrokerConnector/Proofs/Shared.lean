import BrokerConnector.Proofs.Action
import BrokerConnector.Proofs.Broker.Circulation

/-!
# A broker that is shared with other clients

`Shared.endpoint` is what a reader sees of an in-memory broker while other clients use it too. A
schedule tells for every request of the reader what the others do just before, what time of day it
is, and whether the request fails before it takes effect. The surroundings keep a log of the
exchanges with the broker as it was before and after each.

A client cannot name what another one opened. So an operation of others that goes through a session
which was opened through the endpoint is not performed.

A reader makes one request after another, so what is shown of its calls comes down to
`Shared.ensures_ask`: the others do what they like, and then the broker grants the request or
nothing happens.
-/

namespace BrokerConnector

/-- What happens around a request. -/
structure Occasion where
  /-- What other clients do just before, each operation at its moment. -/
  others : List (Int64 × Operation) := []
  /-- The time of day. -/
  now : Int64 := 0
  /-- What the request fails with before it takes effect, if it does. -/
  failure : Request → Option BrokerError := fun _ => none

/-- What happens around each request, by its number. -/
abbrev Schedule := Nat → Occasion

/-- A request with its outcome, and the broker just before and after it. -/
structure Exchange where
  request : Request
  outcome : Outcome BrokerError request.Answer
  before : Broker
  after : Broker

namespace Exchange

/-- The session that was opened. -/
def opened? : Exchange → Option SessionHandle
  | ⟨.broker (.createSession _ _), .done session, _, _⟩ => some session
  | _ => none

/-- The message that was received. -/
def received? : Exchange → Option Message
  | ⟨.broker (.receive _), .done message, _, _⟩ => message
  | _ => none

end Exchange

/-- A broker with the exchanges so far. -/
structure Shared where
  broker : Broker
  log : List Exchange := []

namespace Occasion

/-- How a request ends, and the broker it leaves. Estimators always start. -/
def reply (occasion : Occasion) (request : Request) (broker : Broker) :
    Outcome BrokerError request.Answer × Broker :=
  match occasion.failure request with
  | some error => (.failed error, broker)
  | none =>
    match request with
    | .broker request =>
      (.ofExcept (broker.perform occasion.now request).1, (broker.perform occasion.now request).2)
    | .startEstimator _ => (.done ⟨0⟩, broker)
    | .stopEstimator _ => (.done (), broker)

/-- A request of the broker is granted, or it fails and leaves the broker as it is. -/
theorem reply_broker (occasion : Occasion) (request : BrokerRequest) (broker : Broker) :
    (∃ answer after, occasion.reply (.broker request) broker = (.done answer, after) ∧
      broker.perform occasion.now request = (.ok answer, after)) ∨
    ∃ error, occasion.reply (.broker request) broker = (.failed error, broker) ∧
      (occasion.failure (.broker request) = some error ∨
        (broker.perform occasion.now request).1 = .error error) := by
  unfold reply
  cases hf : occasion.failure (.broker request) with
  | some error => exact .inr ⟨error, rfl, .inl rfl⟩
  | none =>
    dsimp only
    cases hp : (broker.perform occasion.now request).1 with
    | ok answer =>
      refine .inl ⟨answer, _, rfl, ?_⟩
      rw [← hp]
    | error error =>
      refine .inr ⟨error, ?_, .inr rfl⟩
      rw [Broker.perform_of_refused hp]
      rfl

/-- A request of an estimator is granted or fails, and leaves the broker as it is. -/
theorem reply_estimator (occasion : Occasion) {request : Request} (broker : Broker)
    (h : ∀ asked, request ≠ .broker asked) :
    (∃ answer, occasion.reply request broker = (.done answer, broker)) ∨
      ∃ error, occasion.reply request broker = (.failed error, broker) := by
  unfold reply
  split
  · exact .inr ⟨_, rfl⟩
  · split
    · exact (h _ rfl).elim
    · exact .inl ⟨_, rfl⟩
    · exact .inl ⟨_, rfl⟩

end Occasion

namespace Shared

/-- The sessions, by their positions, that were opened here. -/
def sessions (shared : Shared) : List Nat :=
  shared.log.filterMap fun exchange => exchange.opened?.map (·.index)

/-- The messages that were received here, in order. -/
def received (shared : Shared) : List Message :=
  shared.log.filterMap (·.received?)

/-- Another client performs an operation, unless it would go through a session that was opened
here. -/
def disturb (shared : Shared) (now : Int64) (operation : Operation) : Shared :=
  if (shared.broker.sessionOf? operation).any (· ∈ shared.sessions) then shared
  else { shared with broker := shared.broker.operate now operation }

/-- Other clients perform operations in order. -/
def others (shared : Shared) : List (Int64 × Operation) → Shared
  | [] => shared
  | (now, operation) :: rest => (shared.disturb now operation).others rest

/-- Adds an exchange with the broker as it is. -/
def add (shared : Shared) (request : Request) (outcome : Outcome BrokerError request.Answer)
    (broker : Broker) : Shared where
  broker := broker
  log := shared.log ++ [⟨request, outcome, shared.broker, broker⟩]

/-- Answers a request when the others are done. -/
def answer (schedule : Schedule) (request : Request) (shared : Shared) :
    Outcome BrokerError request.Answer × Shared :=
  let occasion := schedule shared.log.length
  let shared := shared.others occasion.others
  let (outcome, broker) := occasion.reply request shared.broker
  (outcome, shared.add request outcome broker)

/-- A shared broker as one of its clients sees it. Time stands still. -/
def endpoint (schedule : Schedule) : Endpoint Shared where
  answer := answer schedule
  clock _ := 0
  sleep _ shared := (shared, [])

/-! ## What others leave alone -/

@[simp]
theorem log_others (shared : Shared) (operations : List (Int64 × Operation)) :
    (shared.others operations).log = shared.log := by
  induction operations generalizing shared with
  | nil => rfl
  | cons entry rest ih =>
    rw [others, ih, disturb]
    split <;> rfl

@[simp]
theorem sessions_others (shared : Shared) (operations : List (Int64 × Operation)) :
    (shared.others operations).sessions = shared.sessions := by
  rw [sessions, log_others, sessions]

@[simp]
theorem sessions_add (shared : Shared) (request : Request)
    (outcome : Outcome BrokerError request.Answer) (broker : Broker) :
    (shared.add request outcome broker).sessions = shared.sessions ++
      ((Exchange.mk request outcome shared.broker broker).opened?.map (·.index)).toList := by
  rw [sessions, add, List.filterMap_append, sessions]
  cases h : (Exchange.mk request outcome shared.broker broker).opened? <;> simp [h]

theorem subset_sessions_add (shared : Shared) (request : Request)
    (outcome : Outcome BrokerError request.Answer) (broker : Broker) :
    shared.sessions ⊆ (shared.add request outcome broker).sessions := by
  rw [sessions_add]
  exact List.subset_append_left _ _

@[simp]
theorem received_add (shared : Shared) (request : Request)
    (outcome : Outcome BrokerError request.Answer) (broker : Broker) :
    (shared.add request outcome broker).received = shared.received ++
      (Exchange.mk request outcome shared.broker broker).received?.toList := by
  rw [received, add, List.filterMap_append, received]
  cases h : (Exchange.mk request outcome shared.broker broker).received? <;> simp [h]

/-- Other clients leave the sessions alone that were opened here. -/
theorem spares_others (shared : Shared) (operations : List (Int64 × Operation)) :
    Contents.Spares (· ∈ shared.sessions) shared.broker.contents
      (shared.others operations).broker.contents := by
  induction operations generalizing shared with
  | nil => exact .refl _ _
  | cons entry rest ih =>
    obtain ⟨now, operation⟩ := entry
    have hrest := ih (shared.disturb now operation)
    have hsessions : (shared.disturb now operation).sessions = shared.sessions :=
      shared.sessions_others [(now, operation)]
    rw [hsessions] at hrest
    refine Contents.Spares.trans ?_ hrest
    unfold disturb
    split
    · exact .refl _ _
    · rename_i hthrough
      refine shared.broker.spares_operate now fun index hindex htouched => hthrough ?_
      rw [Broker.sessionOf?_of_touched? htouched]
      simpa using hindex

end Shared

/-! ## Requests -/

namespace Scene

open BrokerConnector.Action

variable {ρ : Type} {schedule : Schedule} {s : Scene ρ Shared}

/-- A request that a client makes of the broker is granted or leaves the broker as it is, after the
others have done what they like. Its number tells how many were made before. -/
theorem ensures_ask_numbered {request : BrokerRequest}
    {done : request.Answer → Scene ρ Shared → Prop} {failed : BrokerError → Scene ρ Shared → Prop}
    (granted : ∀ number answer broker, number = s.env.log.length →
      (s.env.others (schedule number).others).broker.perform (schedule number).now request =
          (.ok answer, broker) →
        done answer { s with
          env := (s.env.others (schedule number).others).add (.broker request) (.done answer)
            broker })
    (refused : ∀ number error, number = s.env.log.length →
      (schedule number).failure (.broker request) = some error ∨
          ((s.env.others (schedule number).others).broker.perform (schedule number).now
            request).1 = .error error →
        failed error { s with
          env := (s.env.others (schedule number).others).add (.broker request) (.failed error)
            (s.env.others (schedule number).others).broker }) :
    Ensures (ask (Shared.endpoint schedule) (.broker request)) s done failed := by
  unfold Ensures
  rw [ask_apply]
  simp only [Shared.endpoint, Shared.answer]
  rcases (schedule s.env.log.length).reply_broker request
    (s.env.others (schedule s.env.log.length).others).broker with
    ⟨answer, after, hreply, hperform⟩ | ⟨error, hreply, hrefused⟩
  · rw [hreply]
    exact granted _ answer after rfl hperform
  · rw [hreply]
    exact refused _ error rfl hrefused

/-- A request that a client makes of the broker is granted or leaves the broker as it is, after the
others have done what they like. -/
theorem ensures_ask {request : BrokerRequest} {done : request.Answer → Scene ρ Shared → Prop}
    {failed : BrokerError → Scene ρ Shared → Prop}
    (granted : ∀ number answer broker,
      (s.env.others (schedule number).others).broker.perform (schedule number).now request =
          (.ok answer, broker) →
        done answer { s with
          env := (s.env.others (schedule number).others).add (.broker request) (.done answer)
            broker })
    (refused : ∀ number error,
      (schedule number).failure (.broker request) = some error ∨
          ((s.env.others (schedule number).others).broker.perform (schedule number).now
            request).1 = .error error →
        failed error { s with
          env := (s.env.others (schedule number).others).add (.broker request) (.failed error)
            (s.env.others (schedule number).others).broker }) :
    Ensures (ask (Shared.endpoint schedule) (.broker request)) s done failed :=
  ensures_ask_numbered (fun number answer broker _ => granted number answer broker)
    fun number error _ => refused number error

/-- A request that a client makes of an estimator leaves the broker as it is, after the others have
done what they like. -/
theorem ensures_ask_estimator {request : Request} {done : request.Answer → Scene ρ Shared → Prop}
    {failed : BrokerError → Scene ρ Shared → Prop} (h : ∀ asked, request ≠ .broker asked)
    (answered : ∀ number outcome,
      let env := (s.env.others (schedule number).others).add request outcome
        (s.env.others (schedule number).others).broker
      (∀ answer, done answer { s with env := env }) ∧
        ∀ error, failed error { s with env := env }) :
    Ensures (ask (Shared.endpoint schedule) request) s done failed := by
  unfold Ensures
  rw [ask_apply]
  simp only [Shared.endpoint, Shared.answer]
  rcases (schedule s.env.log.length).reply_estimator
    (s.env.others (schedule s.env.log.length).others).broker h with
    ⟨answer, hreply⟩ | ⟨error, hreply⟩
  · rw [hreply]
    exact (answered _ _).1 answer
  · rw [hreply]
    exact (answered _ _).2 error

end Scene

end BrokerConnector
