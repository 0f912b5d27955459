import BrokerConnector.Action
import BrokerConnector.Journal
import BrokerConnector.Request

/-!
# What a client sees of its surroundings

An endpoint answers requests, tells the time that passed and lets time pass. Readers and writers are
written against any endpoint, so what is shown of them for every endpoint holds whatever a broker
answers. A scene is a client, such as a reader, with the journal it writes and the surroundings that
the endpoint answers for.
-/

namespace BrokerConnector

/-- Surroundings of type `σ`, as a client sees them. -/
structure Endpoint (σ : Type) where
  answer : (request : Request) → σ → Outcome BrokerError request.Answer × σ
  /-- The milliseconds that passed so far. -/
  clock : σ → Nat
  /-- Lets milliseconds pass, with the notices of what happens meanwhile. -/
  sleep : Nat → σ → σ × List Notice

/-- A client in its surroundings. -/
structure Scene (ρ σ : Type) where
  client : ρ
  journal : Journal
  env : σ

/-- A call of a client. -/
abbrev Call (ρ σ α : Type) := Action (Scene ρ σ) ConnectorError α

namespace Scene

variable {ρ ρ' σ ε α : Type}

/-- The client as it is. -/
def get : Action (Scene ρ σ) ε ρ :=
  fun s => (.done s.client, s)

/-- Changes the client. -/
def modify (change : ρ → ρ) : Action (Scene ρ σ) ε Unit :=
  fun s => (.done (), { s with client := change s.client })

/-- Writes a notice. -/
def note (notice : Notice) : Action (Scene ρ σ) ε Unit :=
  fun s => (.done (), { s with journal := s.journal.note notice })

/-- Changes a metric. -/
def count (metric : Metric) (amount : Int) : Action (Scene ρ σ) ε Unit :=
  fun s => (.done (), { s with journal := s.journal.change metric amount })

/-- Changes the client together with the journal. -/
def modifyJournaled (change : ρ → Journal → ρ × Journal) : Action (Scene ρ σ) ε Unit :=
  fun s =>
    let (client, journal) := change s.client s.journal
    (.done (), { s with client := client, journal := journal })

/-- Makes a request. -/
def ask (endpoint : Endpoint σ) (request : Request) :
    Action (Scene ρ σ) BrokerError request.Answer :=
  fun s =>
    let (outcome, env) := endpoint.answer request s.env
    (outcome, { s with env := env })

/-- Lets time pass. -/
def pause (endpoint : Endpoint σ) (milliseconds : Nat) : Action (Scene ρ σ) ε Unit :=
  fun s =>
    let (env, notices) := endpoint.sleep milliseconds s.env
    (.done (), { s with env := env, journal := s.journal.noteAll notices })

/-- The milliseconds that passed so far. -/
def clock (endpoint : Endpoint σ) : Action (Scene ρ σ) ε Nat :=
  fun s => (.done (endpoint.clock s.env), s)

/-- Makes a request that releases a resource. What it fails with is noted and listed. -/
def release (endpoint : Endpoint σ) (request : Request) (told : BrokerError → Notice) :
    Action (Scene ρ σ) ε (List BrokerError) := do
  match ← (ask endpoint request).attempt with
  | .ok _ => return []
  | .error error =>
    note (told error)
    return [error]

/-- Runs a call of a part of the client. -/
def within (part : ρ → ρ') (put : ρ' → ρ → ρ) (call : Action (Scene ρ' σ) ε α) :
    Action (Scene ρ σ) ε α :=
  fun s =>
    let (outcome, s') := call { client := part s.client, journal := s.journal, env := s.env }
    (outcome, { client := put s'.client s.client, journal := s'.journal, env := s'.env })

/-- Runs a call of another client, which is gone when the call ends. -/
def alone (client : ρ') (gone : ρ' → Journal → Journal) (call : Action (Scene ρ' σ) ε α) :
    Action (Scene ρ σ) ε α :=
  fun s =>
    let (outcome, s') := call { client := client, journal := s.journal, env := s.env }
    (outcome, { client := s.client, journal := gone s'.client s'.journal, env := s'.env })

/-! ## What each call does to a scene -/

@[simp]
theorem get_apply (s : Scene ρ σ) :
    (get : Action (Scene ρ σ) ε ρ) s = (.done s.client, s) := rfl

@[simp]
theorem modify_apply (change : ρ → ρ) (s : Scene ρ σ) :
    (modify change : Action (Scene ρ σ) ε Unit) s =
      (.done (), { s with client := change s.client }) := rfl

@[simp]
theorem note_apply (notice : Notice) (s : Scene ρ σ) :
    (note notice : Action (Scene ρ σ) ε Unit) s =
      (.done (), { s with journal := s.journal.note notice }) := rfl

@[simp]
theorem count_apply (metric : Metric) (amount : Int) (s : Scene ρ σ) :
    (count metric amount : Action (Scene ρ σ) ε Unit) s =
      (.done (), { s with journal := s.journal.change metric amount }) := rfl

@[simp]
theorem clock_apply (endpoint : Endpoint σ) (s : Scene ρ σ) :
    (clock endpoint : Action (Scene ρ σ) ε Nat) s = (.done (endpoint.clock s.env), s) := rfl

theorem ask_apply (endpoint : Endpoint σ) (request : Request) (s : Scene ρ σ) :
    ask endpoint request s =
      ((endpoint.answer request s.env).1,
        { s with env := (endpoint.answer request s.env).2 }) := rfl

end Scene

end BrokerConnector
