/-!
# Calls and how they end

A call runs against a state. It may end with a value, it may end with an error, or it may wait for
an answer that never comes until its caller drops it. In all three cases the state keeps what the
call did before. `Action.attempt` turns an error into a value; nothing turns an abandoned call into
one.
-/

namespace BrokerConnector

/-- How a call ends. -/
inductive Outcome (ε α : Type) where
  | done (value : α)
  | failed (error : ε)
  /-- The caller dropped the call while it waited. -/
  | abandoned
  deriving DecidableEq, Inhabited

/-- The outcome of a computation that cannot wait. -/
def Outcome.ofExcept {ε α : Type} : Except ε α → Outcome ε α
  | .ok value => .done value
  | .error error => .failed error

/-- A call that runs against a state. -/
def Action (σ ε α : Type) : Type :=
  σ → Outcome ε α × σ

namespace Action

variable {σ τ ε ε' α β : Type}

/-- The call that ends at once with a value. -/
protected def pure (value : α) : Action σ ε α :=
  fun s => (.done value, s)

/-- One call after another. The second runs only if the first ends with a value. -/
protected def bind (first : Action σ ε α) (next : α → Action σ ε β) : Action σ ε β :=
  fun s =>
    match first s with
    | (.done value, s') => next value s'
    | (.failed error, s') => (.failed error, s')
    | (.abandoned, s') => (.abandoned, s')

instance : Monad (Action σ ε) where
  pure := Action.pure
  bind := Action.bind

/-- The call that ends at once with an error. -/
def fail (error : ε) : Action σ ε α :=
  fun s => (.failed error, s)

/-- The call that is dropped while it waits. -/
def abandon : Action σ ε α :=
  fun s => (.abandoned, s)

/-- The state that the call runs against. -/
def state : Action σ ε σ :=
  fun s => (.done s, s)

/-- Changes the state. -/
def update (change : σ → σ) : Action σ ε Unit :=
  fun s => (.done (), change s)

/-- Runs a call and returns its value or its error. -/
def attempt (call : Action σ ε α) : Action σ ε' (Except ε α) :=
  fun s =>
    match call s with
    | (.done value, s') => (.done (.ok value), s')
    | (.failed error, s') => (.done (.error error), s')
    | (.abandoned, s') => (.abandoned, s')

/-- Ends with the value or the error of a computation that is over. -/
def ofExcept (result : Except ε α) : Action σ ε α :=
  fun s => (.ofExcept result, s)

/-- Runs a call, with its error told in other words. -/
def mapError (tell : ε → ε') (call : Action σ ε α) : Action σ ε' α :=
  fun s =>
    match call s with
    | (.done value, s') => (.done value, s')
    | (.failed error, s') => (.failed (tell error), s')
    | (.abandoned, s') => (.abandoned, s')

/-- Runs a call against a part of the state. -/
def zoom (part : τ → σ) (put : σ → τ → τ) (call : Action σ ε α) : Action τ ε α :=
  fun t =>
    let (outcome, s) := call (part t)
    (outcome, put s t)

/-! ## What each call does to a state -/

@[simp]
theorem pure_apply (value : α) (s : σ) : (pure value : Action σ ε α) s = (.done value, s) := rfl

theorem bind_apply (first : Action σ ε α) (next : α → Action σ ε β) (s : σ) :
    (first >>= next) s =
      match first s with
      | (.done value, s') => next value s'
      | (.failed error, s') => (.failed error, s')
      | (.abandoned, s') => (.abandoned, s') := rfl

@[simp]
theorem fail_apply (error : ε) (s : σ) : (fail error : Action σ ε α) s = (.failed error, s) := rfl

@[simp]
theorem abandon_apply (s : σ) : (abandon : Action σ ε α) s = (.abandoned, s) := rfl

@[simp]
theorem state_apply (s : σ) : (state : Action σ ε σ) s = (.done s, s) := rfl

@[simp]
theorem update_apply (change : σ → σ) (s : σ) :
    (update change : Action σ ε Unit) s = (.done (), change s) := rfl

@[simp]
theorem ofExcept_apply (result : Except ε α) (s : σ) :
    (ofExcept result : Action σ ε α) s = (.ofExcept result, s) := rfl

end Action

end BrokerConnector
