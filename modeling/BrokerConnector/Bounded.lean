import BrokerConnector.Reader

/-!
# Bounded reads

A bounded reader makes a finite read of one split. It polls a reader until it has enough records or
its time is over, acknowledges what it read and closes the reader. Between two polls of which the
first found nothing it sleeps: the pause grows with the number of idle polls in a row, half of it at
most is left to chance, and it never lasts beyond the deadline.

`BoundedRead.poll` is one turn of a read, so several reads can take turns; `BoundedReader.read` runs
one to its end.
-/

namespace BrokerConnector

/-! ## Pauses -/

/-- The longest pause after `idle` polls in a row that found nothing, in milliseconds. -/
def longestPause (idle : Nat) : Nat :=
  min (10 * (idle + 1)) 500

/-- A pause after `idle` polls in a row that found nothing. The number that `chance` gives selects
one between half of the longest and the longest. -/
def pauseAfter (idle chance : Nat) : Nat :=
  let longest := longestPause idle
  longest / 2 + chance % (longest - longest / 2 + 1)

/-- A pause lasts five milliseconds at least. -/
theorem five_le_pauseAfter (idle chance : Nat) : 5 ≤ pauseAfter idle chance := by
  simp only [pauseAfter, longestPause]; omega

/-- A pause lasts no longer than the longest one. -/
theorem pauseAfter_le_longestPause (idle chance : Nat) :
    pauseAfter idle chance ≤ longestPause idle := by
  have := Nat.mod_lt chance (Nat.zero_lt_succ (longestPause idle - longestPause idle / 2))
  simp only [pauseAfter, Nat.succ_eq_add_one] at *; omega

/-! ## One read -/

/-- A read that goes on. -/
structure BoundedRead (α : Type) where
  reader : Reader α
  /-- What the clock shows when the time for reading is over. -/
  deadline : Option Nat
  records : List (Timestamped α) := []
  /-- How many polls in a row found nothing. -/
  idlePolls : Nat := 0

/-- What a read does after a poll. -/
inductive Turn where
  | pollAgain
  | pauseFor (milliseconds : Nat)
  | finish
  deriving DecidableEq, Inhabited

namespace BoundedRead

variable {α σ : Type}

/-- A read that begins when the clock shows `now`. -/
def begin (config : ReadConfig α) (now : Nat) : BoundedRead α where
  reader := Reader.create config none
  deadline := config.maxReadTime.map (now + ·.toNat)

/-- Runs a call of the reader. -/
def withReader {β : Type} (call : Call (Reader α) σ β) : Call (BoundedRead α) σ β :=
  Scene.within (·.reader) (fun reader read => { read with reader := reader }) call

/-- Whether there are as many records as are wanted. -/
def isFull (read : BoundedRead α) : Bool :=
  match read.reader.config.maxNumRecords with
  | some limit => limit.toNat ≤ read.records.length
  | none => false

/-- Whether the time for reading is over when the clock shows `now`. -/
def isOverdue (read : BoundedRead α) (now : Nat) : Bool :=
  match read.deadline with
  | some deadline => deadline ≤ now
  | none => false

/-- A pause that ends with the time for reading. -/
def cutPause (read : BoundedRead α) (now pause : Nat) : Nat :=
  match read.deadline with
  | some deadline => min pause (deadline - now)
  | none => pause

/-- What follows a poll after which the clock shows `now`. -/
def turn (read : BoundedRead α) (now : Nat) (found : Bool) (chance : Nat) : Turn :=
  if read.isFull || read.isOverdue now then .finish
  else if found then .pollAgain
  else .pauseFor (read.cutPause now (pauseAfter read.idlePolls chance))

/-- Moves the reader to its next message, starting it first if need be, and collects the record. -/
def collect (endpoint : Endpoint σ) : Call (BoundedRead α) σ Bool := do
  let state := (← Scene.get).reader.state
  let found ← withReader <|
    if state = .uninitialized then Reader.start endpoint else Reader.advance endpoint
  if found then
    let reader := (← Scene.get).reader
    let value ← Action.ofExcept reader.currentValue
    let timestamp ← Action.ofExcept reader.currentTimestamp
    Scene.modify fun read =>
      { read with records := read.records ++ [⟨value, timestamp⟩], idlePolls := 0 }
  return found

/-- Polls once, and tells what to do next. -/
def poll (endpoint : Endpoint σ) (chance : Nat) : Call (BoundedRead α) σ Turn := do
  let found ← collect endpoint
  let now ← Scene.clock endpoint
  let turn := (← Scene.get).turn now found chance
  match turn with
  | .pauseFor _ =>
    Scene.modify fun read => { read with idlePolls := read.idlePolls + 1 }
    return turn
  | _ => return turn

/-- Polls and pauses until there is nothing more to do, at most `budget` times. The choice of each
pause comes from `chance`. -/
def run (endpoint : Endpoint σ) (chance : Nat → Nat) : Nat → Call (BoundedRead α) σ Unit
  | 0 => Action.abandon
  | budget + 1 => do
    match ← poll endpoint (chance budget) with
    | .finish => return ()
    | .pollAgain => run endpoint chance budget
    | .pauseFor milliseconds =>
      Scene.pause endpoint milliseconds
      run endpoint chance budget

/-- Polls until there is a pause to make, which is the result, or nothing more to do. -/
def untilPause (endpoint : Endpoint σ) (chance : Nat) : Nat → Call (BoundedRead α) σ (Option Nat)
  | 0 => Action.abandon
  | budget + 1 => do
    match ← poll endpoint chance with
    | .finish => return none
    | .pollAgain => untilPause endpoint chance budget
    | .pauseFor milliseconds => return some milliseconds

/-- Ends a read: acknowledges what was read if nothing failed before, and closes the reader in any
case. The result is the records, or what failed first. -/
def conclude (endpoint : Endpoint σ) (result : Except ConnectorError Unit) :
    Call (BoundedRead α) σ (List (Timestamped α)) := do
  let result ←
    match result with
    | .ok () => (withReader (Reader.finalize endpoint)).attempt
    | .error error => pure (.error error)
  match ← (withReader (Reader.close endpoint)).attempt with
  | .ok () => pure ()
  | .error failure => Scene.note (.boundedReaderNotClosed failure)
  match result with
  | .ok _ => return (← Scene.get).records
  | .error error => Action.fail error

/-- The journal after the reader of a read is gone. -/
def discard (read : BoundedRead α) (journal : Journal) : Journal :=
  read.reader.mark.discard journal

end BoundedRead

/-! ## Bounded readers -/

/-- A split of a read that a number of records or a time limits. -/
structure BoundedReader (α : Type) where
  source : Source α
  isBounded : source.config.isBounded = true

namespace BoundedReader

variable {α σ : Type}

/-- A source without a limit has no bounded reader. -/
def ofSource (source : Source α) : Except ConfigurationFault (BoundedReader α) :=
  if h : source.config.isBounded = true then .ok ⟨source, h⟩ else .error .unboundedRead

/-- Whether no record at all is wanted. Such a read is over before it begins. -/
def isEmpty (bounded : BoundedReader α) : Bool :=
  bounded.source.config.maxNumRecords = some 0

/-- A read that begins when the clock shows `now`. -/
def begin (bounded : BoundedReader α) (now : Nat) : BoundedRead α :=
  .begin bounded.source.config now

/-- Reads until a limit is reached, with at most `budget` polls. A read with a time limit is over
after one poll for each message, one for every five milliseconds and two more. -/
def read (endpoint : Endpoint σ) (chance : Nat → Nat) (budget : Nat) (bounded : BoundedReader α) :
    Call Unit σ (List (Timestamped α)) := do
  if bounded.isEmpty then
    return []
  else
    let read := bounded.begin (← Scene.clock endpoint)
    Scene.alone read (fun read journal => read.discard journal) do
      let result ← (BoundedRead.run endpoint chance budget).attempt
      BoundedRead.conclude endpoint result

end BoundedReader

end BrokerConnector
