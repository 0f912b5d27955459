import BrokerConnector.Bounded

/-!
# Reads that take turns

The splits of a read are read side by side. A read has a turn until it makes a pause, and the next
turn goes to the read whose pause ends first. Which one that is depends on chance.
-/

namespace BrokerConnector

/-- A read among several. -/
inductive Progress (α : Type) where
  /-- The read pauses until the clock shows `wake`. -/
  | pausing (read : BoundedRead α) (wake : Nat)
  | ended (records : List (Timestamped α))

/-- A read that pauses, by its position among several. -/
structure Sleeper (α : Type) where
  position : Nat
  read : BoundedRead α
  wake : Nat

namespace Progress

variable {α σ : Type}

/-- What was read. -/
def records : Progress α → List (Timestamped α)
  | pausing read _ => read.records
  | ended records => records

/-- Gives a read its turn. It ends with a pause, or with the end of the read. -/
def turn (endpoint : Endpoint σ) (chance budget : Nat) (read : BoundedRead α) :
    Call Unit σ (Progress α) :=
  Scene.alone read (fun _ journal => journal) do
    match ← (BoundedRead.untilPause endpoint chance budget).attempt with
    | .ok (some milliseconds) =>
      return .pausing (← Scene.get) ((← Scene.clock endpoint) + milliseconds)
    | .ok none => return .ended (← BoundedRead.conclude endpoint (.ok ()))
    | .error error => return .ended (← BoundedRead.conclude endpoint (.error error))

/-- Gives a read its first turn. -/
def begin (endpoint : Endpoint σ) (chance budget : Nat) (bounded : BoundedReader α) :
    Call Unit σ (Progress α) := do
  if bounded.isEmpty then
    return .ended []
  else
    turn endpoint chance budget (bounded.begin (← Scene.clock endpoint))

/-- The one of two sleepers that wakes first. -/
def sooner (a b : Sleeper α) : Sleeper α :=
  if b.wake < a.wake then b else a

/-- The reads that pause. -/
def sleepers (reads : List (Progress α)) : List (Sleeper α) :=
  reads.zipIdx.filterMap fun (progress, position) =>
    match progress with
    | pausing read wake => some ⟨position, read, wake⟩
    | ended _ => none

/-- The read that wakes first. -/
def next? (reads : List (Progress α)) : Option (Sleeper α) :=
  match sleepers reads with
  | [] => none
  | first :: others => some (others.foldl sooner first)

/-- Gives turns until every read is over, at most `budget` of them. No turn has more than `polls`
polls. -/
def finish (endpoint : Endpoint σ) (chance : Nat → Nat) (polls : Nat) :
    Nat → List (Progress α) → Call Unit σ (List (List (Timestamped α)))
  | 0, _ => Action.abandon
  | budget + 1, reads =>
    match next? reads with
    | none => return reads.map records
    | some sleeper => do
      Scene.pause endpoint (sleeper.wake - (← Scene.clock endpoint))
      let progress ← turn endpoint (chance budget) polls sleeper.read
      finish endpoint chance polls budget (reads.set sleeper.position progress)

end Progress

end BrokerConnector
