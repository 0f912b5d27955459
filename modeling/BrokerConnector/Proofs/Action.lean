import BrokerConnector.Endpoint

/-!
# What calls ensure

`Action.Ensures call s done failed` says that a call which runs against `s` ends, with a value and a
state that satisfy `done` or with an error and a state that satisfy `failed`. Every way to put calls
together has its equation, so the condition of a call comes down to conditions of the requests that
it makes. A call that is abandoned ensures nothing.

`Action.Leaves call s done failed dropped` says as much of a call that may be abandoned, and what it
leaves behind then. It holds of every call with some conditions, so it is what can be said against
surroundings of which nothing is known.
-/

namespace BrokerConnector

/-- Whether a call ended with a value. -/
def Outcome.isDone {ε α : Type} : Outcome ε α → Bool
  | done _ => true
  | _ => false

namespace Action

variable {σ τ ε ε' α β : Type}

/-- A call ends, with a value and a state or an error and a state that satisfy a condition. -/
def Ensures (call : Action σ ε α) (s : σ) (done : α → σ → Prop) (failed : ε → σ → Prop) : Prop :=
  match call s with
  | (.done value, s') => done value s'
  | (.failed error, s') => failed error s'
  | (.abandoned, _) => False

variable {s : σ} {done : α → σ → Prop} {failed : ε → σ → Prop}

/-- Weaker conditions are ensured as well. -/
theorem Ensures.mono {call : Action σ ε α} {done' : α → σ → Prop} {failed' : ε → σ → Prop}
    (h : Ensures call s done failed) (hdone : ∀ value s', done value s' → done' value s')
    (hfailed : ∀ error s', failed error s' → failed' error s') :
    Ensures call s done' failed' := by
  unfold Ensures at h ⊢
  split at h
  · exact hdone _ _ h
  · exact hfailed _ _ h
  · exact h

/-- A call ends in one of two ways. -/
theorem Ensures.outcome {call : Action σ ε α} (h : Ensures call s done failed) :
    (∃ value, (call s).1 = .done value ∧ done value (call s).2) ∨
      ∃ error, (call s).1 = .failed error ∧ failed error (call s).2 := by
  unfold Ensures at h
  generalize call s = result at h
  obtain ⟨outcome, s'⟩ := result
  cases outcome with
  | done value => exact .inl ⟨value, rfl, h⟩
  | failed error => exact .inr ⟨error, rfl, h⟩
  | abandoned => exact h.elim

/-- A condition on states that is ensured in both cases holds when the call is over. -/
theorem Ensures.state {call : Action σ ε α} {post : σ → Prop}
    (h : Ensures call s (fun _ => post) (fun _ => post)) : post (call s).2 := by
  rcases h.outcome with ⟨value, -, hpost⟩ | ⟨error, -, hpost⟩
  · exact hpost
  · exact hpost

/-- A call that ended with a value ensures what it ensures of values. -/
theorem Ensures.of_isDone {call : Action σ ε α} (h : Ensures call s done failed)
    (hdone : (call s).1.isDone = true) :
    ∃ value, (call s).1 = .done value ∧ done value (call s).2 := by
  rcases h.outcome with hvalue | ⟨error, hfailed, -⟩
  · exact hvalue
  · rw [hfailed] at hdone
    cases hdone

/-- What a call ensures can be read off how it ended. -/
theorem Ensures.of_done {call : Action σ ε α} {value : α} {s' : σ}
    (h : Ensures call s done failed) (hcall : call s = (.done value, s')) : done value s' := by
  unfold Ensures at h
  rwa [hcall] at h

/-- A call ensures of its value what holds of it. -/
theorem Ensures.of_apply {call : Action σ ε α} {value : α} {s' : σ}
    (hcall : call s = (.done value, s')) (h : done value s') : Ensures call s done failed := by
  unfold Ensures
  rwa [hcall]

/-- What is known of the state that a call leaves is ensured in both cases. -/
theorem Ensures.and {call : Action σ ε α} (post : σ → Prop) (h : Ensures call s done failed)
    (hpost : post (call s).2) :
    Ensures call s (fun value s' => done value s' ∧ post s')
      (fun error s' => failed error s' ∧ post s') := by
  unfold Ensures at h ⊢
  generalize call s = result at h hpost
  obtain ⟨outcome, s'⟩ := result
  cases outcome with
  | done value => exact ⟨h, hpost⟩
  | failed error => exact ⟨h, hpost⟩
  | abandoned => exact h

@[simp]
theorem ensures_pure (value : α) :
    Ensures (pure value : Action σ ε α) s done failed ↔ done value s := Iff.rfl

/-- One call after another ensures what the second ensures of every state that the first leaves. -/
@[simp]
theorem ensures_bind (first : Action σ ε β) (next : β → Action σ ε α) :
    Ensures (first >>= next) s done failed ↔
      Ensures first s (fun value s' => Ensures (next value) s' done failed) failed := by
  unfold Ensures
  rw [bind_apply]
  rcases first s with ⟨outcome, s'⟩
  cases outcome <;> rfl

@[simp]
theorem ensures_fail (error : ε) :
    Ensures (fail error : Action σ ε α) s done failed ↔ failed error s := Iff.rfl

@[simp]
theorem ensures_attempt (call : Action σ ε α) {done : Except ε α → σ → Prop}
    {failed : ε' → σ → Prop} :
    Ensures (attempt call) s done failed ↔
      Ensures call s (fun value s' => done (.ok value) s')
        (fun error s' => done (.error error) s') := by
  unfold Ensures attempt
  rcases call s with ⟨outcome, s'⟩
  cases outcome <;> rfl

@[simp]
theorem ensures_mapError (tell : ε' → ε) (call : Action σ ε' α) :
    Ensures (mapError tell call) s done failed ↔
      Ensures call s done (fun error s' => failed (tell error) s') := by
  unfold Ensures mapError
  rcases call s with ⟨outcome, s'⟩
  cases outcome <;> rfl

/-! ## Calls that may be abandoned -/

/-- Whatever a call ends with, or leaves behind when it is abandoned, satisfies the condition of its
case. -/
def Leaves (call : Action σ ε α) (s : σ) (done : α → σ → Prop) (failed : ε → σ → Prop)
    (dropped : σ → Prop) : Prop :=
  match call s with
  | (.done value, s') => done value s'
  | (.failed error, s') => failed error s'
  | (.abandoned, s') => dropped s'

variable {dropped : σ → Prop}

/-- Weaker conditions are satisfied as well. -/
theorem Leaves.mono {call : Action σ ε α} {done' : α → σ → Prop} {failed' : ε → σ → Prop}
    {dropped' : σ → Prop} (h : Leaves call s done failed dropped)
    (hdone : ∀ value s', done value s' → done' value s')
    (hfailed : ∀ error s', failed error s' → failed' error s')
    (hdropped : ∀ s', dropped s' → dropped' s') : Leaves call s done' failed' dropped' := by
  unfold Leaves at h ⊢
  split at h
  · exact hdone _ _ h
  · exact hfailed _ _ h
  · exact hdropped _ h

/-- A weaker condition on the values is satisfied as well. -/
theorem Leaves.mono_done {call : Action σ ε α} {done' : α → σ → Prop}
    (h : Leaves call s done failed dropped) (hdone : ∀ value s', done value s' → done' value s') :
    Leaves call s done' failed dropped :=
  h.mono hdone (fun _ _ => id) (fun _ => id)

/-- What holds in any case is satisfied. -/
theorem Leaves.of_forall {call : Action σ ε α} (hdone : ∀ value s', done value s')
    (hfailed : ∀ error s', failed error s') (hdropped : ∀ s', dropped s') :
    Leaves call s done failed dropped := by
  unfold Leaves
  split
  · exact hdone _ _
  · exact hfailed _ _
  · exact hdropped _

/-- What is known of the state that a call leaves holds in each case. -/
theorem Leaves.and {call : Action σ ε α} {post : σ → Prop} (h : Leaves call s done failed dropped)
    (hpost : post (call s).2) :
    Leaves call s (fun value s' => done value s' ∧ post s')
      (fun error s' => failed error s' ∧ post s') (fun s' => dropped s' ∧ post s') := by
  unfold Leaves at h ⊢
  generalize call s = result at h hpost
  obtain ⟨outcome, s'⟩ := result
  cases outcome <;> exact ⟨h, hpost⟩

/-- What is known of the state that a call leaves holds however it ends. -/
theorem leaves_of_state {call : Action σ ε α} {post : σ → Prop} (h : post (call s).2) :
    Leaves call s (fun _ => post) (fun _ => post) post := by
  unfold Leaves
  generalize call s = result at h
  obtain ⟨outcome, s'⟩ := result
  cases outcome <;> exact h

/-- What a call leaves on two accounts, it leaves on both. -/
theorem Leaves.both {call : Action σ ε α} {done' : α → σ → Prop} {failed' : ε → σ → Prop}
    {dropped' : σ → Prop} (h : Leaves call s done failed dropped)
    (h' : Leaves call s done' failed' dropped') :
    Leaves call s (fun value s' => done value s' ∧ done' value s')
      (fun error s' => failed error s' ∧ failed' error s')
      (fun s' => dropped s' ∧ dropped' s') := by
  unfold Leaves at h h' ⊢
  generalize call s = result at h h' ⊢
  obtain ⟨outcome, s'⟩ := result
  cases outcome <;> exact ⟨h, h'⟩

/-- What holds of each case holds of the outcome and the state. -/
theorem Leaves.result {call : Action σ ε α} (post : Outcome ε α → σ → Prop)
    (h : Leaves call s (fun value => post (.done value)) (fun error => post (.failed error))
      (post .abandoned)) : post (call s).1 (call s).2 := by
  unfold Leaves at h
  generalize call s = result at h ⊢
  obtain ⟨outcome, s'⟩ := result
  cases outcome <;> exact h

/-- A call that ends with a value leaves what is said of values. -/
theorem Leaves.of_done {call : Action σ ε α} {value : α} (h : Leaves call s done failed dropped)
    (hdone : (call s).1 = .done value) : done value (call s).2 := by
  unfold Leaves at h
  generalize call s = result at h hdone ⊢
  obtain ⟨outcome, s'⟩ := result
  subst hdone
  exact h

@[simp]
theorem leaves_pure (value : α) :
    Leaves (pure value : Action σ ε α) s done failed dropped ↔ done value s := Iff.rfl

/-- One call after another leaves what the second leaves of every state that the first ends with. -/
@[simp]
theorem leaves_bind (first : Action σ ε β) (next : β → Action σ ε α) :
    Leaves (first >>= next) s done failed dropped ↔
      Leaves first s (fun value s' => Leaves (next value) s' done failed dropped) failed
        dropped := by
  unfold Leaves
  rw [bind_apply]
  rcases first s with ⟨outcome, s'⟩
  cases outcome <;> rfl

@[simp]
theorem leaves_fail (error : ε) :
    Leaves (fail error : Action σ ε α) s done failed dropped ↔ failed error s := Iff.rfl

@[simp]
theorem leaves_abandon : Leaves (abandon : Action σ ε α) s done failed dropped ↔ dropped s := Iff.rfl

@[simp]
theorem leaves_ofExcept (result : Except ε α) :
    Leaves (ofExcept result) s done failed dropped ↔
      match result with
      | .ok value => done value s
      | .error error => failed error s := by
  cases result <;> rfl

@[simp]
theorem leaves_attempt (call : Action σ ε α) {done : Except ε α → σ → Prop}
    {failed : ε' → σ → Prop} :
    Leaves (attempt call) s done failed dropped ↔
      Leaves call s (fun value s' => done (.ok value) s')
        (fun error s' => done (.error error) s') dropped := by
  unfold Leaves attempt
  rcases call s with ⟨outcome, s'⟩
  cases outcome <;> rfl

@[simp]
theorem leaves_mapError (tell : ε' → ε) (call : Action σ ε' α) :
    Leaves (mapError tell call) s done failed dropped ↔
      Leaves call s done (fun error s' => failed (tell error) s') dropped := by
  unfold Leaves mapError
  rcases call s with ⟨outcome, s'⟩
  cases outcome <;> rfl

end Action

namespace Scene

open BrokerConnector.Action

variable {ρ ρ' σ ε α : Type} {s : Scene ρ σ}

@[simp]
theorem ensures_get {done : ρ → Scene ρ σ → Prop} {failed : ε → Scene ρ σ → Prop} :
    Ensures (get : Action (Scene ρ σ) ε ρ) s done failed ↔ done s.client s := Iff.rfl

section

variable {done : Unit → Scene ρ σ → Prop} {failed : ε → Scene ρ σ → Prop}

@[simp]
theorem ensures_modify (change : ρ → ρ) :
    Ensures (modify change : Action (Scene ρ σ) ε Unit) s done failed ↔
      done () { s with client := change s.client } := Iff.rfl

@[simp]
theorem ensures_note (notice : Notice) :
    Ensures (note notice : Action (Scene ρ σ) ε Unit) s done failed ↔
      done () { s with journal := s.journal.note notice } := Iff.rfl

@[simp]
theorem ensures_count (metric : Metric) (amount : Int) :
    Ensures (count metric amount : Action (Scene ρ σ) ε Unit) s done failed ↔
      done () { s with journal := s.journal.change metric amount } := Iff.rfl

@[simp]
theorem ensures_modifyJournaled (change : ρ → Journal → ρ × Journal) :
    Ensures (modifyJournaled change : Action (Scene ρ σ) ε Unit) s done failed ↔
      done () { s with
        client := (change s.client s.journal).1, journal := (change s.client s.journal).2 } :=
  Iff.rfl

end

variable {done : α → Scene ρ σ → Prop} {failed : ε → Scene ρ σ → Prop}

/-- A call of a part of the client ensures what it ensures of the part, put back. -/
@[simp]
theorem ensures_within (part : ρ → ρ') (put : ρ' → ρ → ρ) (call : Action (Scene ρ' σ) ε α) :
    Ensures (within part put call) s done failed ↔
      Ensures call { client := part s.client, journal := s.journal, env := s.env }
        (fun value s' => done value
          { client := put s'.client s.client, journal := s'.journal, env := s'.env })
        (fun error s' => failed error
          { client := put s'.client s.client, journal := s'.journal, env := s'.env }) := by
  unfold Ensures within
  rcases call _ with ⟨outcome, s'⟩
  cases outcome <;> rfl

/-- A release ends with what failed, which is noted, and with nothing when it is granted. -/
theorem ensures_release (endpoint : Endpoint σ) (request : Request) (told : BrokerError → Notice)
    {done : List BrokerError → Scene ρ σ → Prop} :
    Ensures (release endpoint request told) s done failed ↔
      Ensures (ask endpoint request) s (fun _ s' => done [] s')
        (fun error s' => done [error] { s' with journal := s'.journal.note (told error) }) := by
  unfold release
  rw [ensures_bind, ensures_attempt]
  rfl

/-! ## Calls that may be abandoned -/

section

variable {dropped : Scene ρ σ → Prop}

@[simp]
theorem leaves_get {done : ρ → Scene ρ σ → Prop} {failed : ε → Scene ρ σ → Prop} :
    Leaves (get : Action (Scene ρ σ) ε ρ) s done failed dropped ↔ done s.client s := Iff.rfl

section

variable {done : Unit → Scene ρ σ → Prop} {failed : ε → Scene ρ σ → Prop}

@[simp]
theorem leaves_modify (change : ρ → ρ) :
    Leaves (modify change : Action (Scene ρ σ) ε Unit) s done failed dropped ↔
      done () { s with client := change s.client } := Iff.rfl

@[simp]
theorem leaves_note (notice : Notice) :
    Leaves (note notice : Action (Scene ρ σ) ε Unit) s done failed dropped ↔
      done () { s with journal := s.journal.note notice } := Iff.rfl

@[simp]
theorem leaves_count (metric : Metric) (amount : Int) :
    Leaves (count metric amount : Action (Scene ρ σ) ε Unit) s done failed dropped ↔
      done () { s with journal := s.journal.change metric amount } := Iff.rfl

@[simp]
theorem leaves_modifyJournaled (change : ρ → Journal → ρ × Journal) :
    Leaves (modifyJournaled change : Action (Scene ρ σ) ε Unit) s done failed dropped ↔
      done () { s with
        client := (change s.client s.journal).1, journal := (change s.client s.journal).2 } :=
  Iff.rfl

end

@[simp]
theorem leaves_clock (endpoint : Endpoint σ) {done : Nat → Scene ρ σ → Prop}
    {failed : ε → Scene ρ σ → Prop} :
    Leaves (clock endpoint : Action (Scene ρ σ) ε Nat) s done failed dropped ↔
      done (endpoint.clock s.env) s := Iff.rfl

@[simp]
theorem leaves_pause (endpoint : Endpoint σ) (milliseconds : Nat) {done : Unit → Scene ρ σ → Prop}
    {failed : ε → Scene ρ σ → Prop} :
    Leaves (pause endpoint milliseconds : Action (Scene ρ σ) ε Unit) s done failed dropped ↔
      done () { s with
        env := (endpoint.sleep milliseconds s.env).1
        journal := s.journal.noteAll (endpoint.sleep milliseconds s.env).2 } := Iff.rfl

/-- A call of another client leaves what it leaves of that client, which is gone. -/
@[simp]
theorem leaves_alone (client : ρ') (gone : ρ' → Journal → Journal)
    (call : Action (Scene ρ' σ) ε α) :
    Leaves (alone client gone call) s done failed dropped ↔
      Leaves call { client := client, journal := s.journal, env := s.env }
        (fun value s' => done value
          { client := s.client, journal := gone s'.client s'.journal, env := s'.env })
        (fun error s' => failed error
          { client := s.client, journal := gone s'.client s'.journal, env := s'.env })
        (fun s' => dropped
          { client := s.client, journal := gone s'.client s'.journal, env := s'.env }) := by
  unfold Leaves alone
  rcases call _ with ⟨outcome, s'⟩
  cases outcome <;> rfl

/-- A call of a part of the client leaves what it leaves of the part, put back. -/
@[simp]
theorem leaves_within (part : ρ → ρ') (put : ρ' → ρ → ρ) (call : Action (Scene ρ' σ) ε α) :
    Leaves (within part put call) s done failed dropped ↔
      Leaves call { client := part s.client, journal := s.journal, env := s.env }
        (fun value s' => done value
          { client := put s'.client s.client, journal := s'.journal, env := s'.env })
        (fun error s' => failed error
          { client := put s'.client s.client, journal := s'.journal, env := s'.env })
        (fun s' => dropped
          { client := put s'.client s.client, journal := s'.journal, env := s'.env }) := by
  unfold Leaves within
  rcases call _ with ⟨outcome, s'⟩
  cases outcome <;> rfl

/-- A request changes the surroundings alone, as they answer it. -/
theorem leaves_ask {endpoint : Endpoint σ} {request : Request}
    {done : request.Answer → Scene ρ σ → Prop} {failed : BrokerError → Scene ρ σ → Prop}
    (answered : ∀ answer env, endpoint.answer request s.env = (.done answer, env) →
      done answer { s with env := env })
    (refused : ∀ error env, endpoint.answer request s.env = (.failed error, env) →
      failed error { s with env := env })
    (unanswered : ∀ env, endpoint.answer request s.env = (.abandoned, env) →
      dropped { s with env := env }) :
    Leaves (ask endpoint request) s done failed dropped := by
  unfold Leaves
  rw [ask_apply]
  rcases h : endpoint.answer request s.env with ⟨outcome, env⟩
  cases outcome with
  | done answer => exact answered answer env h
  | failed error => exact refused error env h
  | abandoned => exact unanswered env h

/-- A release ends with what failed, which is noted, and with nothing when it is granted. -/
theorem leaves_release (endpoint : Endpoint σ) (request : Request) (told : BrokerError → Notice)
    {done : List BrokerError → Scene ρ σ → Prop} :
    Leaves (release endpoint request told) s done failed dropped ↔
      Leaves (ask endpoint request) s (fun _ s' => done [] s')
        (fun error s' => done [error] { s' with journal := s'.journal.note (told error) })
        dropped := by
  unfold release
  rw [leaves_bind, leaves_attempt]
  rfl

end

end Scene

end BrokerConnector
