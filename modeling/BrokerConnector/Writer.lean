import BrokerConnector.Config.Write
import BrokerConnector.Link

/-!
# The writer

A writer owns a link in auto mode and one producer that is bound to no destination. It maps and
sends records one by one. A record that cannot be mapped, resolved or sent goes to the failure
output, and the writer moves on to the next.
-/

namespace BrokerConnector

/-- The life of a writer. A writer that was torn down can be set up again. -/
inductive WriterState where
  | uninitialized
  | ready
  | tornDown
  deriving DecidableEq, Inhabited

/-- A state as a value that is shown. -/
def WriterState.debug : WriterState → String
  | uninitialized => "Uninitialized"
  | ready => "Ready"
  | tornDown => "TornDown"

/-- What became of a record. -/
inductive WriteOutcome where
  | sent (destination : Destination) (id : MessageId)
  /-- The record went to the failure output. -/
  | failed
  deriving DecidableEq, Inhabited

/-- Whether a record was sent. -/
def WriteOutcome.isSent : WriteOutcome → Bool
  | sent _ _ => true
  | failed => false

/-- How many records were sent and how many failed. -/
structure WriteSummary where
  sent : Nat := 0
  failed : Nat := 0
  deriving DecidableEq, Inhabited

/-- Counts one more outcome. -/
def WriteSummary.add (summary : WriteSummary) (outcome : WriteOutcome) : WriteSummary :=
  if outcome.isSent then { summary with sent := summary.sent + 1 }
  else { summary with failed := summary.failed + 1 }

/-- The records that failed and were not taken away yet. Once its receiving end is closed, further
records are lost. -/
structure FailureOutput (ρ : Type) where
  records : List ρ := []
  isOpen : Bool := true
  deriving DecidableEq, Inhabited

namespace FailureOutput

variable {ρ : Type}

/-- Puts a record out. -/
def push (output : FailureOutput ρ) (record : ρ) : FailureOutput ρ :=
  if output.isOpen then { output with records := output.records ++ [record] } else output

/-- Takes every record away. -/
def drain (output : FailureOutput ρ) : List ρ × FailureOutput ρ :=
  (output.records, { output with records := [] })

/-- Closes the receiving end. -/
def close (output : FailureOutput ρ) : FailureOutput ρ :=
  { output with isOpen := false }

end FailureOutput

/-- A writer of records. -/
structure Writer (ρ : Type) where
  config : WriteConfig ρ
  state : WriterState := .uninitialized
  link : Link := {}
  producer : Option ProducerHandle := none
  /-- The destination of every record, unless each has its own. -/
  fixedDestination : Option Destination := none
  failures : FailureOutput ρ := {}

namespace Writer

variable {ρ σ : Type}

/-! ## Acquiring and releasing -/

/-- Runs a call of the link. -/
def withLink {β : Type} (call : Call Link σ β) : Call (Writer ρ) σ β :=
  Scene.within (·.link) (fun link writer => { writer with link := link }) call

/-- Acquires the resources in order. What was acquired before a failing step is held. -/
def acquire (endpoint : Endpoint σ) : Call (Writer ρ) σ Unit := do
  let config := (← Scene.get).config
  let session ← withLink (Link.acquire endpoint config.credentials .auto)
  match config.destination with
  | .fixed destination =>
    let destination ←
      setupStep endpoint .resolveDestination (.broker (.resolve session destination))
    Scene.modify ({ · with fixedDestination := some destination })
  | .topicOf _ =>
    Scene.modify ({ · with fixedDestination := none })
  let producer ← setupStep endpoint .createProducer (.broker (.createProducer session none))
  Scene.modify ({ · with producer := some producer })

/-- Closes the producer, if the writer holds one. -/
def releaseProducer (endpoint : Endpoint σ) : Call (Writer ρ) σ (List BrokerError) := do
  match (← Scene.get).producer with
  | none => return []
  | some producer =>
    Scene.modify ({ · with producer := none })
    Scene.release endpoint (.broker (.closeProducer producer)) .producerNotClosed

/-- Releases whatever the writer holds. Every release is tried whatever fails before it, and what
failed is reported together. -/
def release (endpoint : Endpoint σ) : Call (Writer ρ) σ Unit := do
  let ofProducer ← releaseProducer endpoint
  let ofLink ← withLink (Link.release endpoint)
  Scene.modify ({ · with fixedDestination := none })
  let failures := ofProducer ++ ofLink
  if failures.isEmpty then
    return ()
  else
    Action.fail (.release failures)

/-- Releases what an abandoned setup left behind. -/
def releaseLeftovers (endpoint : Endpoint σ) : Call (Writer ρ) σ Unit := do
  if (← Scene.get).link.isEmpty then
    return ()
  else
    match ← (release endpoint).attempt with
    | .ok () => return ()
    | .error failure => Scene.note (.leftoversNotReleased failure)

/-- Acquires the resources of a writer that is not ready. A failing step releases what was
acquired. -/
def setup (endpoint : Endpoint σ) : Call (Writer ρ) σ Unit := do
  if (← Scene.get).state = .ready then
    return ()
  else
    releaseLeftovers endpoint
    match ← (acquire endpoint).attempt with
    | .ok () => Scene.modify ({ · with state := .ready })
    | .error error =>
      Scene.note (.writerNotSetUp error)
      match ← (release endpoint).attempt with
      | .ok () => pure ()
      | .error failure => Scene.note (.partialWriterNotReleased failure)
      Action.fail error

/-- Releases the resources. -/
def teardown (endpoint : Endpoint σ) : Call (Writer ρ) σ Unit := do
  let result ← (release endpoint).attempt
  Scene.modify ({ · with state := .tornDown })
  Action.ofExcept result

/-! ## Writing -/

/-- Hands a record to the failure output. -/
def routeFailure (record : ρ) (reason : FailureReason) : Call (Writer ρ) σ WriteOutcome := do
  Scene.count (.writerFailed reason) 1
  Scene.modify fun writer => { writer with failures := writer.failures.push record }
  return .failed

/-- Sends a mapped record. -/
def deliver (endpoint : Endpoint σ) (record : ρ) (producer : ProducerHandle)
    (destination : Destination) (message : Message) : Call (Writer ρ) σ WriteOutcome := do
  match ← (Scene.ask endpoint (.broker (.send producer destination message))).attempt with
  | .ok id =>
    Scene.count .writerSent 1
    return .sent destination id
  | .error error =>
    Scene.note (.recordNotSent destination.address error)
    routeFailure record .send

/-- Sends a mapped record to where it belongs. -/
def dispatch (endpoint : Endpoint σ) (record : ρ) (session : SessionHandle)
    (producer : ProducerHandle) (message : Message) : Call (Writer ρ) σ WriteOutcome := do
  let writer ← Scene.get
  match writer.config.destination with
  | .topicOf name =>
    let topic := Destination.topic (name record)
    match ← (Scene.ask endpoint (.broker (.resolve session topic))).attempt with
    | .ok destination => deliver endpoint record producer destination message
    | .error error =>
      Scene.note (.recordNotResolved writer.config.destination.address error)
      routeFailure record .destination
  | .fixed _ =>
    match writer.fixedDestination with
    | some destination => deliver endpoint record producer destination message
    | none =>
      Scene.note (.recordWithoutDestination writer.config.destination.address)
      routeFailure record .destination

/-- Maps and sends a record. A record that fails goes to the failure output. -/
def process (endpoint : Endpoint σ) (record : ρ) : Call (Writer ρ) σ WriteOutcome := do
  let writer ← Scene.get
  match writer.link.session, writer.producer with
  | some session, some producer =>
    match writer.config.mapper record session with
    | .ok message => dispatch endpoint record session producer message
    | .error reason =>
      Scene.note (.recordNotMapped writer.config.destination.address reason)
      routeFailure record .mapping
  | _, _ =>
    Scene.note (.writerNotReady writer.config.destination.address writer.state.debug)
    routeFailure record .notReady

/-- Processes records in order and counts the outcomes. -/
def processAll (endpoint : Endpoint σ) :
    List ρ → WriteSummary → Call (Writer ρ) σ WriteSummary
  | [], summary => return summary
  | record :: rest, summary => do
    let outcome ← process endpoint record
    processAll endpoint rest (summary.add outcome)

/-- Sets the writer up, processes every record and tears the writer down. Only a failing setup is
reported as a failure. -/
def writeAll (endpoint : Endpoint σ) (records : List ρ) : Call (Writer ρ) σ WriteSummary := do
  setup endpoint
  let summary ← processAll endpoint records {}
  match ← (teardown endpoint).attempt with
  | .ok () => pure ()
  | .error failure => Scene.note (.writerNotTornDown failure)
  return summary

end Writer

end BrokerConnector
