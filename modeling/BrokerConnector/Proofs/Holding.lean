import BrokerConnector.Proofs.Trace

/-!
# What a client holds

`Traced.Holds held` is the law of conservation that readers and writers keep, whatever fails or is
left unanswered: what was acquired was to be closed, or is stranded, or is held, and at no time was
more than one connection open. A request changes both sides of the law by the same resources
(`Holds.told`).

A call that acquires nothing `Quits` what it holds no longer, and one that gives nothing up either
`Retains` it all. One that runs to its end `Released` the resources in order, and every release was
asked for whatever failed before it. A setup `Granted` its steps one by one; it is `Refused` one of
them, or `Waits` for one.
-/

namespace BrokerConnector

open BrokerConnector.Action

/-- How a call ends that releases what it can, by what it was refused. -/
def Outcome.ofRefusals : List BrokerError → Outcome ConnectorError Unit
  | [] => .done ()
  | refusals => .failed (.release refusals)

namespace Traced

variable {σ : Type} {held : List Resource} {traced before middle after : Traced σ}

/-! ## The law of conservation -/

/-- What was acquired was to be closed, or is stranded, or is held. At no time was more than one
connection open. -/
structure Holds (held : List Resource) (traced : Traced σ) : Prop where
  balance : traced.trace.acquired.Perm (traced.trace.closed ++ traced.trace.stranded ++ held)
  single : ∀ earlier : Trace, earlier <+: traced.trace →
    earlier.acquired.countP (·.isConnection) ≤
      (earlier.closed ++ earlier.stranded).countP (·.isConnection) + 1

/-- At first nothing is held. -/
theorem holds_nil (env : σ) : Holds [] ⟨env, []⟩ where
  balance := .refl _
  single earlier h := by simp [List.prefix_nil.1 h, Trace.acquired]

/-- Nothing is held where nothing was acquired. -/
theorem Holds.eq_nil (h : Holds held traced) (hnone : traced.trace.acquired = []) : held = [] := by
  have hbalance := h.balance
  rw [hnone] at hbalance
  exact (List.append_eq_nil_iff.1 hbalance.symm.eq_nil).2

/-- Nothing was to be closed more often than it was acquired. -/
theorem Holds.count_closed_le (h : Holds held traced) (resource : Resource) :
    traced.trace.closed.count resource ≤ traced.trace.acquired.count resource := by
  have hcount := h.balance.count_eq resource
  simp only [List.count_append] at hcount
  omega

/-- What is held is open. -/
theorem Holds.isOpen (h : Holds held traced) {resource : Resource} (hmem : resource ∈ held) :
    traced.trace.IsOpen resource := by
  have hcount := h.balance.count_eq resource
  have hpos := List.count_pos_iff.2 hmem
  simp only [List.count_append] at hcount
  unfold Trace.IsOpen
  omega

/-- Where nothing is held, everything was to be closed that is not stranded. -/
theorem Holds.even_iff (h : Holds [] traced) :
    traced.trace.Even ↔ traced.trace.stranded = [] := by
  have hcount : ∀ resource, traced.trace.acquired.count resource =
      traced.trace.closed.count resource + traced.trace.stranded.count resource := by
    intro resource
    rw [h.balance.count_eq resource, List.append_nil, List.count_append]
  constructor
  · intro heven
    refine List.eq_nil_iff_forall_not_mem.2 fun resource hmem => ?_
    have hpos := List.count_pos_iff.2 hmem
    have hsame := heven resource
    have hboth := hcount resource
    omega
  · intro hnone resource
    rw [hcount resource, hnone, List.count_nil, Nat.add_zero]

/-- It does not matter in which order things are held. -/
theorem Holds.perm (h : Holds held traced) {held' : List Resource} (hperm : held.Perm held') :
    Holds held' traced :=
  ⟨h.balance.trans (hperm.append_left _), h.single⟩

/-- A request that changes what is held by what it acquires, is to close or strands keeps the law. A
connection is acquired only where none is held. -/
theorem Holds.told (h : Holds held traced) (env : σ) {inquiry : Inquiry} {held' : List Resource}
    (balance : (inquiry.acquired?.toList ++ held).Perm
      (inquiry.request.closes?.toList ++ inquiry.stranded?.toList ++ held'))
    (single : ∀ resource, inquiry.acquired? = some resource → resource.isConnection = true →
      ∀ other ∈ held, other.isConnection = false) : Holds held' (traced.told env inquiry) := by
  constructor
  · -- Both sides grow by the same, counted resource by resource.
    refine List.perm_iff_count.2 fun resource => ?_
    have hbefore := h.balance.count_eq resource
    have hchange := balance.count_eq resource
    simp only [List.count_append] at hbefore hchange
    simp only [Traced.told, Trace.acquired_concat, Trace.closed_concat, Trace.stranded_concat,
      List.count_append]
    omega
  · intro earlier hearlier
    rcases List.prefix_concat_iff.1 hearlier with rfl | hearlier
    · have hbefore := h.single _ (List.prefix_refl _)
      have hbalance := h.balance.countP_eq (·.isConnection)
      -- Either no connection is acquired, or none is held before.
      have hfree : inquiry.acquired?.toList.countP (·.isConnection) = 0 ∨
          inquiry.acquired?.toList.countP (·.isConnection) = 1 ∧
            held.countP (·.isConnection) = 0 := by
        cases hacquired : inquiry.acquired? with
        | none => exact .inl rfl
        | some resource =>
          cases hconnection : resource.isConnection with
          | false => exact .inl (by simp [hconnection])
          | true =>
            refine .inr ⟨by simp [hconnection], List.countP_eq_zero.2 fun other hother => ?_⟩
            simp [single resource hacquired hconnection other hother]
      simp only [List.countP_append] at hbefore hbalance
      simp only [Trace.acquired_concat, Trace.closed_concat, Trace.stranded_concat,
        List.countP_append]
      omega
    · exact h.single _ hearlier

/-! ## Asking in between -/

/-- A request that acquires nothing leaves what was acquired as it is. -/
theorem acquired_told (env : σ) {inquiry : Inquiry} (h : inquiry.acquired? = none) :
    (traced.told env inquiry).trace.acquired = traced.trace.acquired := by
  simp [Traced.told, Trace.acquired_concat, h]

/-- A request that neither acquires nor gives up keeps the law. -/
theorem Holds.retained (h : traced.Holds held) (env : σ) {inquiry : Inquiry}
    (hacquired : inquiry.acquired? = none) (hidle : inquiry.request.isRelease = false) :
    (traced.told env inquiry).Holds held := by
  refine h.told env ?_ (by simp [hacquired])
  simp [hacquired, Request.closes?_of_isRelease hidle, Inquiry.stranded?_of_isRelease hidle]

/-- Requests were made that acquire nothing and give nothing up. -/
inductive Retains (before : Traced σ) : Traced σ → Prop where
  | refl : Retains before before
  | told {later : Traced σ} (h : Retains before later) (env : σ) {inquiry : Inquiry}
    (acquired : inquiry.acquired? = none) (idle : inquiry.request.isRelease = false) :
    Retains before (later.told env inquiry)

namespace Retains

/-- Such requests follow one another. -/
theorem trans (h : Retains before middle) (h' : Retains middle after) : Retains before after := by
  induction h' with
  | refl => exact h
  | told _ env hacquired hidle ih => exact ih.told env hacquired hidle

/-- What is held stays held. -/
theorem holds (h : Retains before after) (hbefore : before.Holds held) : after.Holds held := by
  induction h with
  | refl => exact hbefore
  | told _ env hacquired hidle ih => exact ih.retained env hacquired hidle

/-- Nothing is acquired. -/
theorem acquired (h : Retains before after) : after.trace.acquired = before.trace.acquired := by
  induction h with
  | refl => rfl
  | told _ env hacquired _ ih => exact (acquired_told env hacquired).trans ih

/-- No release is left hanging. -/
theorem isHanging (h : Retains before after) (hbefore : before.trace.isHanging = false) :
    after.trace.isHanging = false := by
  induction h with
  | refl => exact hbefore
  | told _ env _ hidle _ => simp [Traced.told, hidle]

end Retains

/-! ## Giving up -/

/-- Nothing was acquired meanwhile, and what is held no longer was to be closed or is stranded. -/
structure Quits (held : List Resource) (before : Traced σ) (held' : List Resource)
    (after : Traced σ) : Prop where
  less : held'.Sublist held
  acquired : after.trace.acquired = before.trace.acquired
  -- What else is held hinders no release, so the parts of a client can be put together.
  holds : ∀ others, before.Holds (held ++ others) → after.Holds (held' ++ others)

/-- Nothing is given up where nothing happens. -/
theorem Quits.refl (held : List Resource) (traced : Traced σ) : Quits held traced held traced :=
  ⟨.refl _, rfl, fun _ => id⟩

/-- What is given up in two parts is given up. -/
theorem Quits.trans {held' held'' : List Resource} (h : Quits held before held' middle)
    (h' : Quits held' middle held'' after) : Quits held before held'' after :=
  ⟨h'.less.trans h.less, h'.acquired.trans h.acquired, fun others hbefore =>
    h'.holds others (h.holds others hbefore)⟩

/-- What is given up is held no longer. -/
theorem Quits.holds_of {held' : List Resource} (h : Quits held before held' after)
    (hbefore : before.Holds held) : after.Holds held' := by
  have hholds := h.holds []
  simp only [List.append_nil] at hholds
  exact hholds hbefore

/-- What else is held, behind it, stays held. -/
theorem Quits.append {held' : List Resource} (h : Quits held before held' after)
    (others : List Resource) : Quits (held ++ others) before (held' ++ others) after where
  less := h.less.append_right _
  acquired := h.acquired
  holds more hbefore := by
    rw [List.append_assoc] at hbefore ⊢
    exact h.holds _ hbefore

/-- A request to give something up gives up what it is to close or strands. -/
theorem quits_told (traced : Traced σ) (env : σ) (inquiry : Inquiry)
    (h : inquiry.request.isRelease = true) :
    Quits (inquiry.request.closes?.toList ++ inquiry.stranded?.toList) traced []
      (traced.told env inquiry) where
  less := List.nil_sublist _
  acquired := acquired_told env (inquiry.acquired?_of_isRelease h)
  holds others hbefore := by
    refine hbefore.told env ?_ ?_ <;> simp [inquiry.acquired?_of_isRelease h]

/-- What is given up until a release is left unanswered. -/
structure Stalls (held : List Resource) (before : Traced σ) (held' : List Resource)
    (after : Traced σ) : Prop extends Quits held before held' after where
  hanging : after.trace.isHanging = true

/-- A resource is given up by a request of its release that is left unanswered. -/
theorem stalls_told (env : σ) {request : Request} {resource : Resource}
    (h : request.closes?.toList ++ request.stops?.toList = [resource]) :
    Stalls [resource] traced [] (traced.told env ⟨request, .abandoned⟩) := by
  have hrelease : request.isRelease = true := by
    unfold Request.isRelease
    cases hcloses : request.closes? <;> cases hstops : request.stops? <;> simp_all
  have hquits := quits_told traced env ⟨request, .abandoned⟩ hrelease
  refine ⟨?_, by simp [Traced.told, hrelease, Inquiry.isAnswered]⟩
  simpa [Inquiry.stranded?, Inquiry.isAnswered, h] using hquits

/-- Every release of resources was asked for in order, and each was granted or refused. -/
structure Released (resources : List Resource) (refusals : List BrokerError)
    (before after : Traced σ) : Prop where
  asked : ∃ trace : Trace, after.trace = before.trace ++ trace ∧
    trace.map (·.request) = resources.flatMap (·.release) ∧ trace.Answered ∧
    trace.refusals = refusals
  quits : Quits resources before [] after

/-- Nothing is released by asking for nothing. -/
theorem Released.nil (traced : Traced σ) : Released [] [] traced traced :=
  ⟨⟨[], (List.append_nil _).symm, rfl, by simp [Trace.Answered], rfl⟩, .refl _ _⟩

/-- What is released in two parts is released. -/
theorem Released.append {resources resources' : List Resource}
    {refusals refusals' : List BrokerError} (h : Released resources refusals before middle)
    (h' : Released resources' refusals' middle after) :
    Released (resources ++ resources') (refusals ++ refusals') before after where
  asked := by
    obtain ⟨trace, htrace, hrequests, hanswered, hrefusals⟩ := h.asked
    obtain ⟨trace', htrace', hrequests', hanswered', hrefusals'⟩ := h'.asked
    refine ⟨trace ++ trace', ?_, ?_, ?_, ?_⟩
    · rw [htrace', htrace, List.append_assoc]
    · rw [List.map_append, hrequests, hrequests', List.flatMap_append]
    · intro inquiry hmem
      rcases List.mem_append.1 hmem with hmem | hmem
      · exact hanswered inquiry hmem
      · exact hanswered' inquiry hmem
    · rw [Trace.refusals_append, hrefusals, hrefusals']
  quits := (h.quits.append resources').trans h'.quits

/-- A resource is released by the requests that give it up. -/
theorem Quits.released {resource : Resource} {trace : Trace} (h : Quits [resource] before [] after)
    (htrace : after.trace = before.trace ++ trace)
    (hrequests : trace.map (·.request) = resource.release) (hanswered : trace.Answered) :
    Released [resource] trace.refusals before after :=
  ⟨⟨trace, htrace, by simpa using hrequests, hanswered, rfl⟩, h⟩

/-- A release that is answered gives up what it is to close. -/
theorem quits_answered (traced : Traced σ) (env : σ) {inquiry : Inquiry} {request : Request}
    (hrequest : inquiry.request = request) (hrelease : request.isRelease = true)
    (hanswered : inquiry.isAnswered = true) :
    Quits request.closes?.toList traced [] (traced.told env inquiry) := by
  have hquits := quits_told traced env inquiry (hrequest ▸ hrelease)
  simpa [Inquiry.stranded?, hanswered, hrequest] using hquits

/-! ## Acquiring -/

/-- Steps of a setup were taken in order: the request of each was granted. What they acquired is
held, the last first. -/
structure Granted (steps : List SetupStep) (held : List Resource) (before after : Traced σ) :
    Prop where
  asked : ∃ trace : Trace, after.trace = before.trace ++ trace ∧
    trace.map (·.request.step?) = steps.map some ∧ (∀ inquiry ∈ trace, inquiry.isGranted = true) ∧
    trace.acquired.reverse = held
  holds : after.Holds held

/-- A setup that goes by a plan was refused the step behind those that were granted. -/
inductive Refused (plan : List SetupStep) (held : List Resource) (before : Traced σ) :
    ConnectorError → Traced σ → Prop where
  | next {steps rest : List SetupStep} {middle : Traced σ} (step : SetupStep) (request : Request)
      (cause : BrokerError) (env : σ) (granted : Granted steps held before middle)
      (planned : plan = steps ++ step :: rest) (asks : request.step? = some step) :
      Refused plan held before (.setup step cause) (middle.told env ⟨request, .failed cause⟩)

/-- A step of a setup is left unanswered behind those that were granted. -/
structure Waits (held : List Resource) (before after : Traced σ) : Prop where
  holds : after.Holds held
  acquired : after.trace.acquired = before.trace.acquired ++ held.reverse
  unanswered : ¬ after.trace.Answered

variable {steps : List SetupStep} {request : Request} {step : SetupStep}

/-- No step was taken yet. -/
theorem Granted.nil (h : before.Holds []) : Granted [] [] before before :=
  ⟨⟨[], (List.append_nil _).symm, rfl, by simp, rfl⟩, h⟩

/-- One more step was granted. -/
theorem Granted.told (h : Granted steps held before middle) (env : σ) {answer : request.Answer}
    (hstep : request.step? = some step)
    (hsingle : ∀ resource, request.acquires? answer = some resource →
      resource.isConnection = true → held = []) :
    Granted (steps ++ [step]) ((request.acquires? answer).toList ++ held) before
      (middle.told env ⟨request, .done answer⟩) where
  asked := by
    obtain ⟨trace, htrace, hsteps, hgranted, hheld⟩ := h.asked
    refine ⟨trace ++ [⟨request, .done answer⟩], ?_, ?_, ?_, ?_⟩
    · rw [Traced.told, htrace, List.append_assoc]
    · rw [List.map_append, List.map_append, hsteps]
      exact congrArg _ (congrArg (· :: []) hstep)
    · intro inquiry hmem
      rcases List.mem_append.1 hmem with hmem | hmem
      · exact hgranted inquiry hmem
      · rw [List.mem_singleton.1 hmem]
        rfl
    · rw [Trace.acquired_concat, List.reverse_append, hheld]
      show (request.acquires? answer).toList.reverse ++ held = _
      cases request.acquires? answer <;> rfl
  holds := by
    have hidle := Request.isRelease_of_step? hstep
    refine h.holds.told env ?_ ?_
    · rw [Request.closes?_of_isRelease hidle, Inquiry.stranded?_of_isRelease hidle]
      exact .refl _
    · intro resource hacquired hconnection other hother
      rw [hsingle resource hacquired hconnection] at hother
      cases hother

/-- Where a step was granted, no release is left hanging. -/
theorem Granted.isHanging (h : Granted steps held before after) (hsteps : steps ≠ []) :
    after.trace.isHanging = false := by
  -- The last step that was granted is the last request of all.
  obtain ⟨trace, htrace, hrequests, hgranted, -⟩ := h.asked
  obtain ⟨earlier, last, rfl⟩ : ∃ earlier last, trace = earlier ++ [last] := by
    refine (List.eq_nil_or_concat' trace).resolve_left ?_
    rintro rfl
    exact hsteps (List.map_eq_nil_iff.1 hrequests.symm)
  have hlast := Inquiry.isAnswered_of_isGranted (hgranted last (by simp))
  rw [htrace, ← List.append_assoc, Trace.isHanging_concat, hlast]
  simp

/-- What the steps acquired is held, the last first. -/
theorem Granted.acquired (h : Granted steps held before after) :
    after.trace.acquired = before.trace.acquired ++ held.reverse := by
  obtain ⟨trace, htrace, -, -, rfl⟩ := h.asked
  rw [htrace, List.reverse_reverse]
  exact List.filterMap_append

variable {plan : List SetupStep} {error : ConnectorError}

/-- What was acquired before a step that is refused is still held. -/
theorem Refused.holds (h : Refused plan held before error after) : after.Holds held := by
  obtain ⟨step, request, cause, env, hgranted, -, hstep⟩ := h
  exact hgranted.holds.retained env rfl (Request.isRelease_of_step? hstep)

/-- What was acquired before a step that is refused is held, the last first. -/
theorem Refused.acquired (h : Refused plan held before error after) :
    after.trace.acquired = before.trace.acquired ++ held.reverse := by
  obtain ⟨step, request, cause, env, hgranted, -, -⟩ := h
  exact (acquired_told env rfl).trans hgranted.acquired

/-- A step that is refused is not granted. -/
theorem Refused.ungranted (h : Refused plan held before error after) :
    ∃ trace : Trace, after.trace = before.trace ++ trace ∧
      ∃ inquiry ∈ trace, inquiry.isGranted = false := by
  obtain ⟨step, request, cause, env, hgranted, -, -⟩ := h
  obtain ⟨trace, htrace, -⟩ := hgranted.asked
  refine ⟨trace ++ [⟨request, .failed cause⟩], ?_, _, List.mem_concat_self, rfl⟩
  rw [Traced.told, htrace, List.append_assoc]

end Traced

namespace Scene

variable {ρ σ : Type} {endpoint : Endpoint σ} {s : Scene ρ (Traced σ)}

/-- A step of a setup is granted, refused or left unanswered. -/
theorem traces_setupStep {plan steps rest : List SetupStep} {held : List Resource}
    {before : Traced σ} {step : SetupStep} {request : Request}
    {done : request.Answer → Scene ρ (Traced σ) → Prop}
    {failed : ConnectorError → Scene ρ (Traced σ) → Prop} {dropped : Scene ρ (Traced σ) → Prop}
    (h : Traced.Granted steps held before s.env) (hplan : plan = steps ++ step :: rest)
    (hstep : request.step? = some step)
    (hsingle : ∀ answer resource, request.acquires? answer = some resource →
      resource.isConnection = true → held = [])
    (granted : ∀ answer env,
      Traced.Granted (steps ++ [step]) ((request.acquires? answer).toList ++ held) before env →
      done answer { s with env := env })
    (refused : ∀ error env, Traced.Refused plan held before error env →
      failed error { s with env := env })
    (waits : ∀ env, Traced.Waits held before env → dropped { s with env := env }) :
    Leaves (setupStep endpoint.traced step request) s done failed dropped := by
  have hidle := Request.isRelease_of_step? hstep
  rw [setupStep, leaves_mapError]
  refine traces_ask ?_ ?_ ?_
  · exact fun answer env => granted answer _ (h.told env hstep (hsingle answer))
  · exact fun cause env => refused _ _ (.next step request cause env h hplan hstep)
  · refine fun env => waits _ ⟨h.holds.retained env rfl hidle, ?_, ?_⟩
    · exact (Traced.acquired_told env rfl).trans h.acquired
    · intro hanswered
      have hlast := hanswered ⟨request, .abandoned⟩ (by simp [Traced.told])
      cases hlast

/-- A resource that one request closes is released by it. -/
theorem traces_close {request : BrokerRequest} {resource : Resource} {told : BrokerError → Notice}
    {ε : Type} {done : List BrokerError → Scene ρ (Traced σ) → Prop}
    {failed : ε → Scene ρ (Traced σ) → Prop} {dropped : Scene ρ (Traced σ) → Prop}
    (hrelease : resource.release = [.broker request])
    (hcloses : (Request.broker request).closes? = some resource)
    (hstops : (Request.broker request).stops? = none)
    (released : ∀ refusals journal env, Traced.Released [resource] refusals s.env env →
      done refusals { client := s.client, journal := journal, env := env })
    (stalls : ∀ env, Traced.Stalls [resource] s.env [] env → dropped { s with env := env }) :
    Leaves (release endpoint.traced (.broker request) told) s done failed dropped := by
  refine traces_release ?_ fun env => stalls _ (Traced.stalls_told env (by simp [hcloses, hstops]))
  intro inquiry env journal hrequest hanswered
  have hquits := Traced.quits_answered s.env env hrequest (by simp [Request.isRelease, hcloses])
    hanswered
  rw [hcloses] at hquits
  rw [← Trace.refusals_singleton]
  refine released _ _ _ (hquits.released rfl ?_ ?_)
  · rw [hrelease, ← hrequest]
    rfl
  · simpa [Trace.Answered] using hanswered

end Scene

/-! ## Calls that hold on to what they have -/

namespace Scene

variable {ρ ρ' σ ε ε' α β γ : Type} {endpoint : Endpoint σ}

/-- A part of the client is as it was, and no request acquired or gave up anything. -/
structure Retained (part : ρ → γ) (before after : Scene ρ (Traced σ)) : Prop where
  client : part after.client = part before.client
  env : Traced.Retains before.env after.env

/-- A call leaves a part of its client alone and makes no request that acquires or gives up
anything. It fails with some errors only. -/
def Retains (part : ρ → γ) (fails : ε → Prop) (call : Action (Scene ρ (Traced σ)) ε α) : Prop :=
  ∀ s, Leaves call s (fun _ => Retained part s) (fun error s' => fails error ∧ Retained part s s')
    (Retained part s)

/-- Nothing happened. -/
theorem Retained.refl (part : ρ → γ) (s : Scene ρ (Traced σ)) : Retained part s s :=
  ⟨rfl, .refl⟩

/-- What is retained twice is retained. -/
theorem Retained.trans {part : ρ → γ} {before middle after : Scene ρ (Traced σ)}
    (h : Retained part before middle) (h' : Retained part middle after) :
    Retained part before after :=
  ⟨h'.client.trans h.client, h.env.trans h'.env⟩

namespace Retains

variable {part : ρ → γ} {fails : ε → Prop}

/-- However a call ends, it retained what it is said to. -/
theorem retained {call : Action (Scene ρ (Traced σ)) ε α} (h : Retains part fails call)
    (s : Scene ρ (Traced σ)) : Retained part s (call s).2 :=
  Leaves.result (fun _ => Retained part s)
    ((h s).mono (fun _ _ => id) (fun _ _ => And.right) fun _ => id)

protected theorem pure (value : α) :
    Retains part fails (pure value : Action (Scene ρ (Traced σ)) ε α) :=
  fun _ => .refl _ _

protected theorem fail {error : ε} (h : fails error) :
    Retains part fails (fail error : Action (Scene ρ (Traced σ)) ε α) :=
  fun _ => ⟨h, .refl _ _⟩

protected theorem get : Retains part fails (get : Action (Scene ρ (Traced σ)) ε ρ) :=
  fun _ => .refl _ _

protected theorem modify {change : ρ → ρ} (h : ∀ client, part (change client) = part client) :
    Retains part fails (modify change : Action (Scene ρ (Traced σ)) ε Unit) :=
  fun s => ⟨h s.client, .refl⟩

protected theorem modifyJournaled {change : ρ → Journal → ρ × Journal}
    (h : ∀ client journal, part (change client journal).1 = part client) :
    Retains part fails (modifyJournaled change : Action (Scene ρ (Traced σ)) ε Unit) :=
  fun s => ⟨h s.client s.journal, .refl⟩

protected theorem note (notice : Notice) :
    Retains part fails (note notice : Action (Scene ρ (Traced σ)) ε Unit) :=
  fun _ => ⟨rfl, .refl⟩

protected theorem count (metric : Metric) (amount : Int) :
    Retains part fails (count metric amount : Action (Scene ρ (Traced σ)) ε Unit) :=
  fun _ => ⟨rfl, .refl⟩

protected theorem bind {first : Action (Scene ρ (Traced σ)) ε β}
    {next : β → Action (Scene ρ (Traced σ)) ε α} (hfirst : Retains part fails first)
    (hnext : ∀ value, Retains part fails (next value)) : Retains part fails (first >>= next) := by
  intro s
  rw [leaves_bind]
  refine (hfirst s).mono ?_ (fun _ _ => id) (fun _ => id)
  intro value s' h
  exact (hnext value s').mono (fun _ _ => h.trans) (fun _ _ => And.imp_right h.trans)
    (fun _ => h.trans)

protected theorem attempt {call : Action (Scene ρ (Traced σ)) ε' α} {fails' : ε' → Prop}
    (h : Retains part fails' call) :
    Retains part fails (attempt call : Action (Scene ρ (Traced σ)) ε (Except ε' α)) := by
  intro s
  rw [leaves_attempt]
  exact (h s).mono (fun _ _ => id) (fun _ _ => And.right) (fun _ => id)

protected theorem mapError {call : Action (Scene ρ (Traced σ)) ε' α} {fails' : ε' → Prop}
    {tell : ε' → ε} (h : Retains part fails' call) (htell : ∀ error, fails (tell error)) :
    Retains part fails (mapError tell call) := by
  intro s
  rw [leaves_mapError]
  exact (h s).mono (fun _ _ => id) (fun _ _ => And.imp_left fun _ => htell _) (fun _ => id)

/-- A request that acquires nothing and gives nothing up. -/
protected theorem ask {request : Request} (hacquires : ∀ answer, request.acquires? answer = none)
    (hidle : request.isRelease = false) :
    Retains part (fun _ => True) (ask (ρ := ρ) endpoint.traced request) := by
  refine fun s => traces_ask ?_ ?_ ?_
  · exact fun answer env => ⟨rfl, .told .refl env (hacquires answer) hidle⟩
  · exact fun error env => ⟨trivial, rfl, .told .refl env rfl hidle⟩
  · exact fun env => ⟨rfl, .told .refl env rfl hidle⟩

/-- A call of a part of the client that does not count leaves the rest alone. -/
protected theorem within {field : ρ → ρ'} {put : ρ' → ρ → ρ} {fails : ε → Prop}
    {call : Action (Scene ρ' (Traced σ)) ε α} (h : Retains (fun _ => ()) fails call)
    (hput : ∀ inner client, part (put inner client) = part client) :
    Retains part fails (within field put call) := by
  intro s
  rw [leaves_within]
  refine (h _).mono ?_ ?_ ?_
  · exact fun _ s' hs' => ⟨hput s'.client s.client, hs'.env⟩
  · exact fun _ s' hs' => ⟨hs'.1, hput s'.client s.client, hs'.2.env⟩
  · exact fun s' hs' => ⟨hput s'.client s.client, hs'.env⟩

end Retains

end Scene

/-! ## Links -/

namespace Link

variable {σ : Type} {endpoint : Endpoint σ}

/-- What a link holds, in the order in which it gives it up. -/
def resources (link : Link) : List Resource :=
  link.session.toList.map .session ++ link.connection.toList.map .connection

/-- The steps by which a link is acquired. -/
def plan : List SetupStep :=
  [.connect, .startConnection, .createSession]

/-- A link is acquired step by step. -/
theorem traces_acquire (credentials : Option Credentials) (mode : AcknowledgeMode)
    (rest : List SetupStep) {s : Scene Link (Traced σ)} (hempty : s.client = {})
    (h : s.env.Holds []) :
    Leaves (acquire endpoint.traced credentials mode) s
      (fun session s' => ∃ connection, s'.client = ⟨some connection, some session⟩ ∧
        Traced.Granted plan s'.client.resources s.env s'.env)
      (fun error s' => Traced.Refused (plan ++ rest) s'.client.resources s.env error s'.env)
      (fun s' => Traced.Waits s'.client.resources s.env s'.env) := by
  obtain ⟨client, journal, env⟩ := s
  obtain rfl : client = {} := hempty
  simp only [acquire, leaves_bind]
  refine Scene.traces_setupStep (.nil h) rfl rfl (fun _ _ _ _ => rfl) ?_ (fun _ _ => id)
    (fun _ => id)
  intro connection env₁ h₁
  rw [Scene.leaves_modify]
  refine Scene.traces_setupStep h₁ rfl rfl (by simp [Request.acquires?]) ?_ (fun _ _ => id)
    (fun _ => id)
  intro _ env₂ h₂
  refine Scene.traces_setupStep h₂ rfl rfl ?_ ?_ (fun _ _ => id) (fun _ => id)
  · rintro session resource hacquires hconnection
    cases hacquires
    cases hconnection
  · intro session env₃ h₃
    exact ⟨connection, rfl, h₃⟩

/-- A session that is held is closed. -/
theorem traces_releaseSession (s : Scene Link (Traced σ)) :
    Leaves (releaseSession endpoint.traced) s
      (fun refusals s' => s'.client = { s.client with session := none } ∧
        Traced.Released (s.client.session.toList.map .session) refusals s.env s'.env)
      (fun _ _ => False)
      (fun s' => s'.client = { s.client with session := none } ∧
        Traced.Stalls (s.client.session.toList.map .session) s.env [] s'.env) := by
  simp only [releaseSession, leaves_bind, Scene.leaves_get]
  cases hsession : s.client.session with
  | none =>
    refine ⟨?_, .nil _⟩
    rw [← hsession]
  | some session =>
    simp only [leaves_bind, Scene.leaves_modify]
    exact Scene.traces_close rfl rfl rfl (fun _ _ _ h => ⟨rfl, h⟩) fun _ h => ⟨rfl, h⟩

/-- A connection that is held is stopped and closed. -/
theorem traces_releaseConnection (s : Scene Link (Traced σ)) :
    Leaves (releaseConnection endpoint.traced) s
      (fun refusals s' => s'.client = { s.client with connection := none } ∧
        Traced.Released (s.client.connection.toList.map .connection) refusals s.env s'.env)
      (fun _ _ => False)
      (fun s' => s'.client = { s.client with connection := none } ∧
        Traced.Stalls (s.client.connection.toList.map .connection) s.env [] s'.env) := by
  simp only [releaseConnection, leaves_bind, Scene.leaves_get]
  cases hconnection : s.client.connection with
  | none =>
    refine ⟨?_, .nil _⟩
    rw [← hconnection]
  | some connection =>
    simp only [leaves_bind, Scene.leaves_modify]
    refine Scene.traces_release ?_ fun env => ⟨rfl, Traced.stalls_told env rfl⟩
    intro stopping env journal hstop hstopped
    -- A stop that is answered gives nothing up by itself.
    have hkept : Traced.Quits [.connection connection] s.env [.connection connection]
        (s.env.told env stopping) :=
      (Traced.quits_answered _ env hstop rfl hstopped).append [.connection connection]
    refine Scene.traces_release ?_ ?_
    · intro closing env' journal' hclose hclosed
      have hquits : Traced.Quits [.connection connection] (s.env.told env stopping) []
          ((s.env.told env stopping).told env' closing) :=
        Traced.quits_answered _ env' hclose rfl hclosed
      refine ⟨rfl, ?_⟩
      rw [← Trace.refusals_singleton, ← Trace.refusals_singleton, ← Trace.refusals_append]
      refine (hkept.trans hquits).released ?_ ?_ ?_
      · simp [Traced.told]
      · simp [hstop, hclose, Resource.release]
      · simp [Trace.Answered, hstopped, hclosed]
    · intro env'
      let closing : Inquiry := ⟨.broker (.closeConnection connection), .abandoned⟩
      have hstalls : Traced.Stalls [.connection connection] (s.env.told env stopping) []
          ((s.env.told env stopping).told env' closing) := Traced.stalls_told env' rfl
      exact ⟨rfl, hkept.trans hstalls.toQuits, hstalls.hanging⟩

/-- A link gives up what it holds, the session first. -/
theorem traces_release (s : Scene Link (Traced σ)) :
    Leaves (release endpoint.traced) s
      (fun refusals s' => s'.client = {} ∧
        Traced.Released s.client.resources refusals s.env s'.env)
      (fun _ _ => False)
      (fun s' => Traced.Stalls s.client.resources s.env s'.client.resources s'.env) := by
  simp only [release, leaves_bind, leaves_pure]
  refine (traces_releaseSession s).mono ?_ (fun _ _ => id) ?_
  · rintro refusals s₁ ⟨hclient₁, hsession⟩
    refine (traces_releaseConnection s₁).mono ?_ (fun _ _ => id) ?_
    · rintro refusals' s₂ ⟨hclient₂, hconnection⟩
      rw [hclient₁] at hclient₂ hconnection
      exact ⟨hclient₂, hsession.append hconnection⟩
    · rintro s₂ ⟨hclient₂, hconnection⟩
      rw [hclient₁] at hclient₂ hconnection
      rw [hclient₂]
      exact ⟨(hsession.quits.append _).trans hconnection.toQuits, hconnection.hanging⟩
  · rintro s₁ ⟨hclient₁, hsession⟩
    rw [hclient₁]
    exact ⟨hsession.toQuits.append _, hsession.hanging⟩

end Link

end BrokerConnector
