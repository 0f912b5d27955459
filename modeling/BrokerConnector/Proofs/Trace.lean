import BrokerConnector.Proofs.Recording

/-!
# What a client asked for

`Endpoint.traced` answers like an endpoint and keeps every request with how it ended. The trace
tells what was acquired, what was to be closed and what was stranded: a connection is stopped before
it is closed, and a stop that is left unanswered is the last that is asked for its connection.
-/

namespace BrokerConnector

open BrokerConnector.Action

/-! ## Resources -/

/-- What a client acquires and has to give up again. -/
inductive Resource where
  | connection (handle : ConnectionHandle)
  | session (handle : SessionHandle)
  | consumer (handle : ConsumerHandle)
  | producer (handle : ProducerHandle)
  | estimator (handle : EstimatorHandle)
  deriving DecidableEq

namespace Resource

/-- Whether a resource is a connection. -/
def isConnection : Resource → Bool
  | connection _ => true
  | _ => false

/-- The requests that give a resource up. -/
def release : Resource → List Request
  | connection handle => [.broker (.stopConnection handle), .broker (.closeConnection handle)]
  | session handle => [.broker (.closeSession handle)]
  | consumer handle => [.broker (.closeConsumer handle)]
  | producer handle => [.broker (.closeProducer handle)]
  | estimator handle => [.stopEstimator handle]

end Resource

namespace Request

/-- The resource that a request is to close. -/
def closes? : Request → Option Resource
  | .broker (.closeConnection handle) => some (.connection handle)
  | .broker (.closeSession handle) => some (.session handle)
  | .broker (.closeConsumer handle) => some (.consumer handle)
  | .broker (.closeProducer handle) => some (.producer handle)
  | .stopEstimator handle => some (.estimator handle)
  | _ => none

/-- The connection that a request is to stop. -/
def stops? : Request → Option Resource
  | .broker (.stopConnection handle) => some (.connection handle)
  | _ => none

/-- Whether a request is one of those that give a resource up. -/
def isRelease (request : Request) : Bool :=
  request.stops?.isSome || request.closes?.isSome

/-- The resource that a request acquires when it is granted. -/
def acquires? : (request : Request) → request.Answer → Option Resource
  | .broker (.connect _), handle => some (.connection handle)
  | .broker (.createSession _ _), handle => some (.session handle)
  | .broker (.createConsumer _ _), handle => some (.consumer handle)
  | .broker (.createProducer _ _), handle => some (.producer handle)
  | .startEstimator _, handle => some (.estimator handle)
  | _, _ => none

/-- The step of a setup that a request is. -/
def step? : Request → Option SetupStep
  | .broker (.connect _) => some .connect
  | .broker (.startConnection _) => some .startConnection
  | .broker (.createSession _ _) => some .createSession
  | .broker (.resolve _ _) => some .resolveDestination
  | .broker (.createConsumer _ _) => some .createConsumer
  | .broker (.createProducer _ _) => some .createProducer
  | .startEstimator _ => some .startBacklogEstimator
  | _ => none

/-- A step of a setup gives nothing up. -/
theorem isRelease_of_step? {request : Request} {step : SetupStep} (h : request.step? = some step) :
    request.isRelease = false := by
  cases request with
  | broker request =>
    cases request with
    | stopConnection | closeConnection | closeSession | closeConsumer | closeProducer => cases h
    | _ => rfl
  | startEstimator => rfl
  | stopEstimator => cases h

/-- A request that gives nothing up is to close nothing. -/
theorem closes?_of_isRelease {request : Request} (h : request.isRelease = false) :
    request.closes? = none := by
  simp_all [isRelease]

end Request

/-! ## Traces -/

/-- A request with how it ended. -/
structure Inquiry where
  request : Request
  outcome : Outcome BrokerError request.Answer

namespace Inquiry

/-- Whether a request was granted. -/
def isGranted (inquiry : Inquiry) : Bool :=
  inquiry.outcome.isDone

/-- Whether a request was granted or refused. -/
def isAnswered (inquiry : Inquiry) : Bool :=
  match inquiry.outcome with
  | .abandoned => false
  | _ => true

/-- What a broker refused a request with. -/
def refusal? : Inquiry → Option BrokerError
  | ⟨.broker _, .failed error⟩ => some error
  | _ => none

/-- The resource that was acquired. -/
def acquired? (inquiry : Inquiry) : Option Resource :=
  match inquiry.outcome with
  | .done answer => inquiry.request.acquires? answer
  | _ => none

/-- The connection that is stranded: it was to be stopped, and the stop was left unanswered. -/
def stranded? (inquiry : Inquiry) : Option Resource :=
  if inquiry.isAnswered then none else inquiry.request.stops?

/-- A request that was granted was answered. -/
theorem isAnswered_of_isGranted {inquiry : Inquiry} (h : inquiry.isGranted = true) :
    inquiry.isAnswered = true := by
  obtain ⟨request, outcome⟩ := inquiry
  cases outcome with
  | done => rfl
  | failed | abandoned => cases h

/-- A request that gives nothing up strands nothing. -/
theorem stranded?_of_isRelease {inquiry : Inquiry} (h : inquiry.request.isRelease = false) :
    inquiry.stranded? = none := by
  simp_all [Request.isRelease, stranded?]

/-- A request to give something up acquires nothing. -/
theorem acquired?_of_isRelease {inquiry : Inquiry} (h : inquiry.request.isRelease = true) :
    inquiry.acquired? = none := by
  obtain ⟨request, outcome⟩ := inquiry
  cases outcome with
  | failed | abandoned => rfl
  | done answer =>
    cases request with
    | broker request =>
      cases request with
      | connect | createSession | createConsumer | createProducer => cases h
      | _ => rfl
    | startEstimator => cases h
    | stopEstimator => rfl

end Inquiry

/-- Requests in order, each with how it ended. -/
abbrev Trace := List Inquiry

namespace Trace

/-- What was acquired, in order. -/
def acquired (trace : Trace) : List Resource :=
  trace.filterMap (·.acquired?)

/-- What was to be closed, in order. -/
def closed (trace : Trace) : List Resource :=
  trace.filterMap (·.request.closes?)

/-- What was stranded, in order. -/
def stranded (trace : Trace) : List Resource :=
  trace.filterMap (·.stranded?)

/-- What a broker refused requests with, in order. -/
def refusals (trace : Trace) : List BrokerError :=
  trace.filterMap (·.refusal?)

/-- Whether the last request was to give a resource up and was left unanswered. -/
def isHanging (trace : Trace) : Bool :=
  trace.getLast?.any fun inquiry => inquiry.request.isRelease && !inquiry.isAnswered

/-- Every request was answered. -/
def Answered (trace : Trace) : Prop :=
  ∀ inquiry ∈ trace, inquiry.isAnswered = true

/-- A resource was acquired more often than it was to be closed. -/
def IsOpen (trace : Trace) (resource : Resource) : Prop :=
  trace.closed.count resource < trace.acquired.count resource

/-- Every resource was to be closed exactly as often as it was acquired. -/
def Even (trace : Trace) : Prop :=
  ∀ resource, trace.closed.count resource = trace.acquired.count resource

variable (trace : Trace) (inquiry : Inquiry)

theorem acquired_concat :
    acquired (trace ++ [inquiry]) = acquired trace ++ inquiry.acquired?.toList := by
  unfold acquired
  cases h : inquiry.acquired? <;> simp [h]

theorem closed_concat :
    closed (trace ++ [inquiry]) = closed trace ++ inquiry.request.closes?.toList := by
  unfold closed
  cases h : inquiry.request.closes? <;> simp [h]

theorem stranded_concat :
    stranded (trace ++ [inquiry]) = stranded trace ++ inquiry.stranded?.toList := by
  unfold stranded
  cases h : inquiry.stranded? <;> simp [h]

theorem refusals_append (later : Trace) :
    refusals (trace ++ later) = refusals trace ++ refusals later :=
  List.filterMap_append

/-- What one request was refused with. -/
theorem refusals_singleton : refusals [inquiry] = inquiry.refusal?.toList := by
  unfold refusals
  cases h : inquiry.refusal? <;> simp [h]

@[simp]
theorem isHanging_concat :
    isHanging (trace ++ [inquiry]) = (inquiry.request.isRelease && !inquiry.isAnswered) := by
  simp [isHanging]

instance (trace : Trace) : Decidable trace.Answered :=
  inferInstanceAs (Decidable (∀ inquiry ∈ trace, inquiry.isAnswered = true))

/-- Where every request was answered, none is left hanging. -/
theorem Answered.isHanging {trace : Trace} (h : trace.Answered) : trace.isHanging = false := by
  unfold Trace.isHanging
  cases hlast : trace.getLast? with
  | none => rfl
  | some last => simp [h last (List.mem_of_getLast? hlast)]

end Trace

/-! ## Surroundings that are traced -/

/-- Surroundings with what was asked of them so far. -/
structure Traced (σ : Type) where
  env : σ
  trace : Trace := []

namespace Traced

variable {σ : Type}

/-- Surroundings after one more request. -/
def told (traced : Traced σ) (env : σ) (inquiry : Inquiry) : Traced σ :=
  ⟨env, traced.trace ++ [inquiry]⟩

end Traced

/-- An endpoint that keeps what it is asked. -/
def Endpoint.traced {σ : Type} (endpoint : Endpoint σ) : Endpoint (Traced σ) where
  answer request traced :=
    let (outcome, env) := endpoint.answer request traced.env
    (outcome, traced.told env ⟨request, outcome⟩)
  clock traced := endpoint.clock traced.env
  sleep milliseconds traced :=
    let (env, notices) := endpoint.sleep milliseconds traced.env
    ({ traced with env := env }, notices)

/-- An endpoint that keeps what it is asked answers like the endpoint that it is made from. -/
theorem Endpoint.traced_alike {σ : Type} (endpoint : Endpoint σ) :
    endpoint.traced.Alike endpoint (fun _ => True) fun traced env => traced.env = env := by
  constructor
  · rintro request - traced _ rfl
    exact ⟨rfl, rfl⟩
  · rintro traced _ rfl
    rfl
  · rintro milliseconds traced _ rfl
    exact ⟨rfl, rfl⟩

/-- What was asked before stays in the trace. -/
theorem Traced.trace_prefix {σ : Type} {endpoint : Endpoint σ} {allowed : Request → Prop}
    {before after : Traced σ} (h : endpoint.traced.Steps allowed before after) :
    before.trace <+: after.trace := by
  induction h with
  | refl => exact List.prefix_refl _
  | tail _ hstep ih =>
    refine ih.trans ?_
    cases hstep with
    | answer request _ => exact List.prefix_append _ _
    | sleep milliseconds => exact List.prefix_refl _

namespace Scene

variable {ρ σ ε α : Type}

/-- A scene whose surroundings are not traced. -/
def untraced (s : Scene ρ (Traced σ)) : Scene ρ σ :=
  s.through (·.env)

/-- A scene whose surroundings are traced from now on. -/
def traced (s : Scene ρ σ) : Scene ρ (Traced σ) where
  client := s.client
  journal := s.journal
  env := ⟨s.env, []⟩

variable {endpoint : Endpoint σ} {s : Scene ρ (Traced σ)} {dropped : Scene ρ (Traced σ) → Prop}

/-- A request is added to the trace with how it ended. -/
theorem traces_ask {request : Request} {done : request.Answer → Scene ρ (Traced σ) → Prop}
    {failed : BrokerError → Scene ρ (Traced σ) → Prop}
    (answered : ∀ answer env, done answer { s with env := s.env.told env ⟨request, .done answer⟩ })
    (refused : ∀ error env, failed error { s with env := s.env.told env ⟨request, .failed error⟩ })
    (unanswered : ∀ env, dropped { s with env := s.env.told env ⟨request, .abandoned⟩ }) :
    Leaves (ask endpoint.traced request) s done failed dropped := by
  have happly : ask endpoint.traced request s =
      let result := endpoint.answer request s.env.env
      (result.1, { s with env := s.env.told result.2 ⟨request, result.1⟩ }) := rfl
  unfold Leaves
  rw [happly]
  generalize endpoint.answer request s.env.env = result
  obtain ⟨outcome, env⟩ := result
  cases outcome with
  | done answer => exact answered answer env
  | failed error => exact refused error env
  | abandoned => exact unanswered env

/-- A release that is asked of a broker is answered, and what it was refused with is listed, or it
is left unanswered. -/
theorem traces_release {request : BrokerRequest} {told : BrokerError → Notice}
    {done : List BrokerError → Scene ρ (Traced σ) → Prop} {failed : ε → Scene ρ (Traced σ) → Prop}
    (answered : ∀ inquiry env journal, inquiry.request = .broker request →
      inquiry.isAnswered = true →
      done inquiry.refusal?.toList
        { client := s.client, journal := journal, env := s.env.told env inquiry })
    (unanswered : ∀ env, dropped { s with env := s.env.told env ⟨.broker request, .abandoned⟩ }) :
    Leaves (release endpoint.traced (.broker request) told) s done failed dropped := by
  rw [leaves_release]
  refine traces_ask ?_ ?_ unanswered
  · exact fun answer env => answered ⟨_, .done answer⟩ env _ rfl rfl
  · exact fun error env => answered ⟨_, .failed error⟩ env _ rfl rfl

end Scene

end BrokerConnector
