import BrokerConnector.Config.Read
import BrokerConnector.Link
import BrokerConnector.Mark.Basic

/-!
# The checkpointed reader

A reader owns a link in client mode and a consumer on its session. It lists every message that it
receives in its mark and acknowledges nothing until the mark is finalized, so a broker delivers
again what was emitted but not finalized when the reader goes away.

A reader that begins with a restored mark skips, once each, the messages that the mark lists: they
were emitted before and come again under the identifiers that they had.

Like the parts of its link, a consumer and an estimator leave the reader before their release is
asked for.
-/

namespace BrokerConnector

/-- The life of a reader. -/
inductive ReaderState where
  | uninitialized
  | connecting
  | consuming
  | closed
  deriving DecidableEq, Inhabited

/-- The name of a state. -/
def ReaderState.label : ReaderState → String
  | uninitialized => "uninitialized"
  | connecting => "connecting"
  | consuming => "consuming"
  | closed => "closed"

/-- A value with the timestamp of the message that it came from. -/
structure Timestamped (α : Type) where
  value : α
  timestamp : Int64
  deriving DecidableEq, Inhabited

/-- A reader of one split. -/
structure Reader (α : Type) where
  config : ReadConfig α
  state : ReaderState := .uninitialized
  link : Link := {}
  consumer : Option ConsumerHandle := none
  estimator : Option EstimatorHandle := none
  mark : Mark := {}
  /-- The messages of the restored mark that were not received again yet. -/
  skipped : List MessageId := []
  /-- The record that the last poll emitted. -/
  record : Option α := none
  /-- The timestamp of the message that the record came from. -/
  timestamp : Option Int64 := none

namespace Reader

variable {α σ : Type}

/-- A reader that begins with a restored mark, or with an empty one. -/
def create (config : ReadConfig α) (mark : Option Mark) : Reader α :=
  { config := config, mark := mark.getD {} }

/-! ## Acquiring and releasing -/

/-- Runs a call of the link. -/
def withLink {β : Type} (call : Call Link σ β) : Call (Reader α) σ β :=
  Scene.within (·.link) (fun link reader => { reader with link := link }) call

/-- Attaches the mark to a fresh session, and remembers its entries as messages to skip. -/
def attach (session : SessionHandle) (reader : Reader α) (journal : Journal) :
    Reader α × Journal :=
  let stale := reader.mark.stale
  let (mark, journal) := reader.mark.attach session journal
  ({ reader with mark := mark, skipped := reader.skipped ++ stale.map (·.id) }, journal)

/-- Acquires the resources in order. What was acquired before a failing step is held. -/
def acquire (endpoint : Endpoint σ) : Call (Reader α) σ Unit := do
  let config := (← Scene.get).config
  let session ← withLink (Link.acquire endpoint config.credentials .client)
  let destination ←
    setupStep endpoint .resolveDestination (.broker (.resolve session config.destination))
  let consumer ←
    setupStep endpoint .createConsumer (.broker (.createConsumer session destination))
  Scene.modify ({ · with consumer := some consumer })
  Scene.modifyJournaled (attach session)
  let estimator ←
    setupStep endpoint .startBacklogEstimator
      (.startEstimator (config.estimator.getD .noInformation))
  Scene.modify ({ · with estimator := some estimator })

/-- Releases the consumer, if the reader holds one. -/
def releaseConsumer (endpoint : Endpoint σ) : Call (Reader α) σ (List BrokerError) := do
  match (← Scene.get).consumer with
  | none => return []
  | some consumer =>
    Scene.modify ({ · with consumer := none })
    Scene.release endpoint (.broker (.closeConsumer consumer)) .consumerNotClosed

/-- Stops the estimator, if the reader holds one. -/
def releaseEstimator (endpoint : Endpoint σ) : Call (Reader α) σ Unit := do
  match (← Scene.get).estimator with
  | none => return ()
  | some estimator =>
    Scene.modify ({ · with estimator := none })
    let _ ← (Scene.ask endpoint (.stopEstimator estimator)).attempt

/-- Detaches the mark and forgets the current record. -/
def retire (reader : Reader α) (journal : Journal) : Reader α × Journal :=
  let (mark, journal) := reader.mark.detach journal
  ({ reader with mark := mark, record := none, timestamp := none, state := .closed }, journal)

/-- Releases whatever the reader holds. Every release is tried whatever fails before it, and what
failed is reported together. The mark keeps its entries. -/
def close (endpoint : Endpoint σ) : Call (Reader α) σ Unit := do
  let ofConsumer ← releaseConsumer endpoint
  let ofLink ← withLink (Link.release endpoint)
  releaseEstimator endpoint
  Scene.modifyJournaled retire
  let failures := ofConsumer ++ ofLink
  if failures.isEmpty then
    return ()
  else
    Action.fail (.release failures)

/-! ## Reading -/

/-- Removes a message from those to skip. -/
def unskip (id : MessageId) (reader : Reader α) : Reader α :=
  { reader with skipped := reader.skipped.filter (· ≠ id) }

/-- Appends a received message to the mark. -/
def track (id : MessageId) (timestamp : Int64) (reader : Reader α) (journal : Journal) :
    Reader α × Journal :=
  let (mark, journal) := reader.mark.add id timestamp journal
  ({ reader with mark := mark }, journal)

/-- Maps a received message and makes it the current record. -/
def emit (message : Message) (id : MessageId) : Call (Reader α) σ Bool := do
  let config := (← Scene.get).config
  match config.mapper message with
  | .error reason => Action.fail (.mapping id.text reason)
  | .ok value =>
    Scene.count (.readerMessages config.destination.address) 1
    Scene.modify ({ · with record := some value, timestamp := some message.timestamp })
    return true

/-- Receives messages until one is not skipped, and emits it. No more than `budget` messages are
skipped: as many as are to be skipped at all will do. -/
def poll (endpoint : Endpoint σ) (consumer : ConsumerHandle) (budget : Nat) :
    Call (Reader α) σ Bool := do
  match ← (Scene.ask endpoint (.broker (.receive consumer))).mapError .broker with
  | none => return false
  | some message =>
    match message.id with
    | none => Action.fail (.checkpoint "received a message without identifier")
    | some id =>
      Scene.modifyJournaled (track id message.timestamp)
      match budget with
      | 0 => emit message id
      | budget + 1 =>
        if id ∈ (← Scene.get).skipped then
          Scene.modify (unskip id)
          Scene.count .redeliveriesSkipped 1
          poll endpoint consumer budget
        else
          emit message id

/-- Moves to the next message without waiting for one, and tells whether there was one. -/
def advance (endpoint : Endpoint σ) : Call (Reader α) σ Bool := do
  let reader ← Scene.get
  if reader.state ≠ .consuming then
    Action.fail (.invalidState ("can not advance a reader that is " ++ reader.state.label))
  else
    Scene.modify ({ · with record := none, timestamp := none })
    match reader.consumer with
    | none => Action.fail (.invalidState "the reader has no consumer")
    | some consumer => poll endpoint consumer reader.skipped.length

/-- Acquires the resources and moves to the first message. A failing step releases what was
acquired and is not tried again. -/
def start (endpoint : Endpoint σ) : Call (Reader α) σ Bool := do
  let reader ← Scene.get
  if reader.state ≠ .uninitialized then
    Action.fail
      (.invalidState ("a reader can only be started once, it is " ++ reader.state.label))
  else
    Scene.modify ({ · with state := .connecting })
    match ← (acquire endpoint).attempt with
    | .ok () =>
      Scene.modify ({ · with state := .consuming })
      advance endpoint
    | .error error =>
      Scene.note (.readerNotStarted error)
      match ← (close endpoint).attempt with
      | .ok () => pure ()
      | .error failure => Scene.note (.partialReaderNotReleased failure)
      Action.fail error

/-- Acknowledges everything that was emitted so far. -/
def finalize (endpoint : Endpoint σ) : Call (Reader α) σ Nat :=
  Scene.within (·.mark) (fun mark reader => { reader with mark := mark }) (Mark.finalize endpoint)

/-! ## What a reader shows -/

/-- The current record. -/
def currentValue (reader : Reader α) : Except ConnectorError α :=
  match reader.record with
  | some value => .ok value
  | none => .error .noCurrentRecord

/-- The timestamp of the current record. -/
def currentTimestamp (reader : Reader α) : Except ConnectorError Int64 :=
  match reader.timestamp with
  | some timestamp => .ok timestamp
  | none => .error .noCurrentRecord

/-- What the last poll emitted. -/
def current (reader : Reader α) : Option (Timestamped α) :=
  match reader.record, reader.timestamp with
  | some value, some timestamp => some ⟨value, timestamp⟩
  | _, _ => none

/-- The oldest timestamp that waits for its acknowledgment. -/
def watermark (reader : Reader α) : Int64 :=
  reader.mark.watermark

/-- Advances until no message is available or a call fails, at most `budget` times. The result is
what was emitted, and the failure that ended it. -/
def drain (endpoint : Endpoint σ) :
    Nat → Call (Reader α) σ (List α × Option ConnectorError)
  | 0 => return ([], none)
  | budget + 1 => do
    match ← (advance endpoint).attempt with
    | .error error => return ([], some error)
    | .ok false => return ([], none)
    | .ok true =>
      let emitted := (← Scene.get).current.toList.map (·.value)
      let (others, failure) ← drain endpoint budget
      return (emitted ++ others, failure)

end Reader

end BrokerConnector
