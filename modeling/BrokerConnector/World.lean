import BrokerConnector.Backlog
import BrokerConnector.Broker.Fault
import BrokerConnector.Endpoint

/-!
# Brokers, estimators and time

A world holds brokers behind their faults, the estimators that poll them, and messages that will be
published at later moments. Its clock moves only when a client lets time pass, from one event to
the next; the time of day, which stamps messages, does not depend on it. `World.endpoint` is what
the client of one of the brokers sees.
-/

namespace BrokerConnector

/-- An estimator with the plan that it follows. -/
structure Estimator where
  plan : EstimatorPlan
  depth : DepthEstimator
  deriving DecidableEq, Inhabited

/-- A message to be published when the clock shows `due`. -/
structure Publication where
  due : Nat
  site : Nat
  destination : Destination
  message : Message
  deriving DecidableEq, Inhabited

/-- Brokers, estimators and time. -/
structure World where
  /-- The time of day, in milliseconds since the epoch. -/
  timeOfDay : Int64
  /-- The milliseconds that passed. -/
  clock : Nat := 0
  sites : List Site := []
  estimators : List Estimator := []
  planned : List Publication := []
  deriving DecidableEq, Inhabited

namespace World

/-! ## Brokers -/

/-- A world with one more broker, and the position of it. -/
def addBroker (world : World) (broker : Broker) : Nat × World :=
  (world.sites.length, { world with sites := world.sites ++ [{ broker := broker }] })

/-- A broker, by its position. -/
def broker (world : World) (site : Nat) : Broker :=
  (world.sites[site]?.getD {}).broker

/-- Changes a broker with its faults. -/
def changeSite (world : World) (site : Nat) (change : Site → Site) : World :=
  match world.sites[site]? with
  | some found => { world with sites := world.sites.set site (change found) }
  | none => world

/-- Publishes a message at a broker. -/
def publish (world : World) (site : Nat) (destination : Destination) (message : Message) :
    MessageId × World :=
  match world.sites[site]? with
  | some found =>
    let (id, broker) := found.broker.publish world.timeOfDay destination message
    (id, { world with sites := world.sites.set site { found with broker := broker } })
  | none => (⟨""⟩, world)

/-- Hands a request to a broker. -/
def perform (world : World) (site : Nat) (request : BrokerRequest) :
    Outcome BrokerError request.Answer × World :=
  match world.sites[site]? with
  | some found =>
    let (outcome, found) := found.perform world.timeOfDay request
    (outcome, { world with sites := world.sites.set site found })
  | none => (.failed (.unavailable "no such broker"), world)

/-! ## Estimators -/

/-- What is reported of the depth that a plan asks for. -/
def report (world : World) : EstimatorPlan → Except BrokerError Nat
  | .noInformation => .error (.unsupported "no information")
  | .queueDepth site queue _ => ((world.broker site).queueDepth queue).1

/-- An estimator that is not running yet. -/
def createEstimator (world : World) (plan : EstimatorPlan) : EstimatorHandle × World :=
  let interval :=
    match plan with
    | .noInformation => 0
    | .queueDepth _ _ interval => interval
  (⟨world.estimators.length⟩,
    { world with estimators := world.estimators ++ [⟨plan, { interval := interval }⟩] })

/-- Replaces the state of an estimator. -/
def setDepth (world : World) (index : Nat) (depth : DepthEstimator) : World :=
  { world with estimators := world.estimators.modify index ({ · with depth := depth }) }

/-- Starts an estimator, unless it runs. One without information has nothing to start. -/
def startEstimator (world : World) (estimator : EstimatorHandle) :
    Except BrokerError Unit × World :=
  match world.estimators[estimator.index]? with
  | none => (.ok (), world)
  | some found =>
    match found.plan with
    | .noInformation => (.ok (), world)
    | .queueDepth _ _ _ =>
      match found.depth.start world.clock fun _ => world.report found.plan with
      | .ok depth => (.ok (), world.setDepth estimator.index depth)
      | .error error => (.error error, world)

/-- Stops an estimator. -/
def stopEstimator (world : World) (estimator : EstimatorHandle) : World :=
  match world.estimators[estimator.index]? with
  | none => world
  | some found => world.setDepth estimator.index found.depth.stop

/-- What an estimator reports. -/
def estimate (world : World) (estimator : EstimatorHandle) : Option Nat :=
  world.estimators[estimator.index]?.bind (·.depth.estimate)

/-! ## Time -/

/-- When something happens next. -/
def nextDue? (world : World) : Option Nat :=
  (world.planned.map (·.due) ++ world.estimators.filterMap (·.depth.nextPoll)).min?

/-- Publishes the messages that are due. -/
def publishDue (world : World) : World :=
  let due := world.planned.filter (·.due ≤ world.clock)
  let rest := world.planned.filter (world.clock < ·.due)
  due.foldl
    (fun world publication =>
      (world.publish publication.site publication.destination publication.message).2)
    { world with planned := rest }

/-- The notice of a poll. -/
def pollNotice : EstimatorPlan → Except BrokerError Nat → List Notice
  | .queueDepth _ queue _, .error error => [.depthNotPolled queue error]
  | _, _ => []

/-- Lets an estimator poll, if its poll is due. -/
def pollDue (world : World) (estimator : Estimator) : Estimator × List Notice :=
  match estimator.depth.nextPoll with
  | none => (estimator, [])
  | some due =>
    if due ≤ world.clock then
      let report := world.report estimator.plan
      ({ estimator with depth := estimator.depth.poll due report },
        pollNotice estimator.plan report)
    else (estimator, [])

/-- Does everything that is due. -/
def fire (world : World) : World × List Notice :=
  let world := world.publishDue
  let polled := world.estimators.map world.pollDue
  ({ world with estimators := polled.map (·.1) }, polled.flatMap (·.2))

/-- Moves the clock from event to event until it shows `target`, at most `budget` events. Every
event moves the clock, so the time that is left is budget enough. -/
def passUntil (target : Nat) : Nat → World → World × List Notice
  | 0, world => ({ world with clock := target }, [])
  | budget + 1, world =>
    match world.nextDue? with
    | none => ({ world with clock := target }, [])
    | some due =>
      if due ≤ target then
        let (world, notices) := fire { world with clock := max due (world.clock + 1) }
        let (world, later) := passUntil target budget world
        (world, notices ++ later)
      else ({ world with clock := target }, [])

/-- Lets milliseconds pass. -/
def pass (world : World) (milliseconds : Nat) : World × List Notice :=
  passUntil (world.clock + milliseconds) milliseconds world

/-! ## What a client sees -/

/-- Answers a request of a client of a broker. -/
def answer (site : Nat) :
    (request : Request) → World → Outcome BrokerError request.Answer × World
  | .broker request, world => world.perform site request
  | .startEstimator plan, world =>
    let (estimator, created) := world.createEstimator plan
    match created.startEstimator estimator with
    | (.ok (), started) => (.done estimator, started)
    | (.error error, _) => (.failed error, world)
  | .stopEstimator estimator, world => (.done (), world.stopEstimator estimator)

/-- A broker, by its position, as its clients see it. -/
def endpoint (site : Nat) : Endpoint World where
  answer := answer site
  clock := World.clock
  sleep milliseconds world := world.pass milliseconds

/-- How many messages a client of a broker can receive without anything being published. -/
def available (world : World) (site : Nat) : Nat :=
  let broker := world.broker site
  broker.waiting.length + (broker.consumers.flatMap (·.buffer)).length

end World

end BrokerConnector
