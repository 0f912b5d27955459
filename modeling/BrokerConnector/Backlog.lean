import BrokerConnector.Error

/-!
# Queue depth estimators

An estimator asks for the depth of a queue when it is started and then at every period until it is
stopped. Between two polls it reports what it was told last, and a failed poll changes nothing. The
first poll has to succeed, or the estimator does not start.
-/

namespace BrokerConnector

/-- The depth that stands for none: no queue is reported to be that deep. -/
def unknownDepth : Nat :=
  0xFFFFFFFFFFFFFFFF

/-- An estimator. Times are in milliseconds. -/
structure DepthEstimator where
  interval : Nat
  /-- The depth that was reported last. -/
  lastDepth : Nat := unknownDepth
  /-- When the next poll is due, while the estimator runs. -/
  nextPoll : Option Nat := none
  deriving DecidableEq, Inhabited

namespace DepthEstimator

/-- The time between two polls. -/
def period (estimator : DepthEstimator) : Nat :=
  max estimator.interval 1

/-- The depth that was reported last, if any. -/
def estimate (estimator : DepthEstimator) : Option Nat :=
  if estimator.lastDepth = unknownDepth then none else some estimator.lastDepth

/-- Whether the estimator polls. -/
def isRunning (estimator : DepthEstimator) : Bool :=
  estimator.nextPoll.isSome

/-- Takes in a report that was asked for at the moment `now`. -/
def poll (estimator : DepthEstimator) (now : Nat) (report : Except BrokerError Nat) :
    DepthEstimator :=
  let lastDepth :=
    match report with
    | .ok depth => depth
    | .error _ => estimator.lastDepth
  { estimator with lastDepth := lastDepth, nextPoll := some (now + estimator.period) }

/-- Starts an estimator at the moment `now`, with the report that is given when it asks. A running
estimator does not ask. -/
def start (estimator : DepthEstimator) (now : Nat) (report : Unit → Except BrokerError Nat) :
    Except BrokerError DepthEstimator :=
  if estimator.isRunning then .ok estimator
  else
    match report () with
    | .ok depth => .ok (estimator.poll now (.ok depth))
    | .error error => .error error

/-- Stops an estimator. Its estimate stays. -/
def stop (estimator : DepthEstimator) : DepthEstimator :=
  { estimator with nextPoll := none }

/-- The time between two polls is at least a millisecond. -/
theorem period_pos (estimator : DepthEstimator) : 0 < estimator.period := by
  unfold period; omega

end DepthEstimator

end BrokerConnector
