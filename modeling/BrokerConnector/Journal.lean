import BrokerConnector.Error
import BrokerConnector.Keyed

/-!
# The journal

What a connector tells its operators: notices of what went wrong, in order, and metrics. A metric
exists from its first change on. All metrics count up but one, the number of consumed messages that
wait for their acknowledgment, which goes both ways.
-/

namespace BrokerConnector

/-- How grave a notice is. -/
inductive Severity where
  | warning
  | error
  deriving DecidableEq, Inhabited

/-- Something that went wrong. -/
inductive Notice where
  | readerNotStarted (error : ConnectorError)
  | partialReaderNotReleased (error : ConnectorError)
  | consumerNotClosed (error : BrokerError)
  | sessionNotClosed (error : BrokerError)
  | connectionNotStopped (error : BrokerError)
  | connectionNotClosed (error : BrokerError)
  | producerNotClosed (error : BrokerError)
  | entryNotHeld (id : MessageId) (session : String)
  | boundedReaderNotClosed (error : ConnectorError)
  | depthNotPolled (queue : String) (error : BrokerError)
  | writerNotReady (destination state : String)
  | recordNotMapped (destination reason : String)
  | recordNotResolved (destination : String) (error : BrokerError)
  | recordWithoutDestination (destination : String)
  | recordNotSent (destination : String) (error : BrokerError)
  | writerNotSetUp (error : ConnectorError)
  | leftoversNotReleased (error : ConnectorError)
  | partialWriterNotReleased (error : ConnectorError)
  | writerNotTornDown (error : ConnectorError)
  deriving DecidableEq, Inhabited

namespace Notice

/-- A record that is lost to its destination and a reader or writer that cannot begin are errors,
everything else is a warning. -/
def severity : Notice → Severity
  | readerNotStarted _ | writerNotSetUp _ | writerNotReady _ _ | recordNotMapped _ _
  | recordNotResolved _ _ | recordWithoutDestination _ | recordNotSent _ _ => .error
  | _ => .warning

/-- The text of a notice. -/
def message : Notice → String
  | readerNotStarted _ => "unable to start the reader"
  | partialReaderNotReleased _ => "unable to release a partially started reader"
  | consumerNotClosed _ => "unable to close the consumer"
  | sessionNotClosed _ => "unable to close the session"
  | connectionNotStopped _ => "unable to stop the connection"
  | connectionNotClosed _ => "unable to close the connection"
  | producerNotClosed _ => "unable to close the producer"
  | entryNotHeld _ _ => "dropping a checkpoint entry the session does not hold"
  | boundedReaderNotClosed _ => "unable to close the reader after a bounded read"
  | depthNotPolled _ _ => "unable to poll the queue depth"
  | writerNotReady _ _ => "writer is not set up"
  | recordNotMapped _ _ => "unable to map the record"
  | recordNotResolved _ _ => "unable to resolve the destination of the record"
  | recordWithoutDestination _ => "no destination resolved for the record"
  | recordNotSent _ _ => "unable to send the record"
  | writerNotSetUp _ => "unable to set up the writer"
  | leftoversNotReleased _ => "unable to release leftovers of an earlier setup"
  | partialWriterNotReleased _ => "unable to release a partially set up writer"
  | writerNotTornDown _ => "unable to tear down the writer"

/-- The named details of a notice. -/
def fields : Notice → List (String × String)
  | readerNotStarted error | partialReaderNotReleased error | boundedReaderNotClosed error
  | writerNotSetUp error | leftoversNotReleased error | partialWriterNotReleased error
  | writerNotTornDown error => [("error", error.message)]
  | consumerNotClosed error | sessionNotClosed error | connectionNotStopped error
  | connectionNotClosed error | producerNotClosed error => [("error", error.message)]
  | entryNotHeld id session => [("message_id", id.text), ("session", session)]
  | depthNotPolled queue error => [("queue", queue), ("error", error.message)]
  | writerNotReady destination state => [("destination", destination), ("state", state)]
  | recordNotMapped destination reason => [("destination", destination), ("error", reason)]
  | recordNotResolved destination error | recordNotSent destination error =>
    [("destination", destination), ("error", error.message)]
  | recordWithoutDestination destination => [("destination", destination)]

end Notice

/-- Why a record went to the failure output. -/
inductive FailureReason where
  | notReady
  | mapping
  | destination
  | send
  deriving DecidableEq, Inhabited

/-- The name of a reason. -/
def FailureReason.label : FailureReason → String
  | notReady => "not_ready"
  | mapping => "mapping"
  | destination => "destination"
  | send => "send"

/-- What is counted. -/
inductive Metric where
  | readerMessages (destination : String)
  | redeliveriesSkipped
  | acknowledged
  | pendingAcknowledgments
  | writerSent
  | writerFailed (reason : FailureReason)
  deriving DecidableEq, Inhabited

/-- The name of a metric, its label behind it in braces. -/
def Metric.name : Metric → String
  | readerMessages destination =>
    "danube_mq_reader_messages_total\x7bdestination=" ++ destination ++ "\x7d"
  | redeliveriesSkipped => "danube_mq_reader_redeliveries_skipped_total"
  | acknowledged => "danube_mq_checkpoint_acknowledged_total"
  | pendingAcknowledgments => "danube_mq_checkpoint_pending_acks"
  | writerSent => "danube_mq_writer_sent_total"
  | writerFailed reason => "danube_mq_writer_failed_total\x7breason=" ++ reason.label ++ "\x7d"

/-- The notices in order, and the metrics that were changed so far. -/
structure Journal where
  notices : List Notice := []
  metrics : Keyed Metric Int := []
  deriving DecidableEq, Inhabited

namespace Journal

/-- Appends a notice. -/
def note (journal : Journal) (notice : Notice) : Journal :=
  { journal with notices := journal.notices ++ [notice] }

/-- Appends notices in order. -/
def noteAll (journal : Journal) (notices : List Notice) : Journal :=
  { journal with notices := journal.notices ++ notices }

/-- The value of a metric, zero before its first change. -/
def value (journal : Journal) (metric : Metric) : Int :=
  (journal.metrics.get? metric).getD 0

/-- Changes a metric by an amount. -/
def change (journal : Journal) (metric : Metric) (amount : Int) : Journal :=
  { journal with metrics := journal.metrics.set metric (journal.value metric + amount) }

/-- A change adds its amount to the metric. -/
@[simp]
theorem value_change_self (journal : Journal) (metric : Metric) (amount : Int) :
    (journal.change metric amount).value metric = journal.value metric + amount := by
  simp [value, change]

/-- A change leaves the other metrics alone. -/
theorem value_change_of_ne (journal : Journal) {metric other : Metric} (amount : Int)
    (h : other ≠ metric) : (journal.change metric amount).value other = journal.value other := by
  simp [value, change, Keyed.get?_set_of_ne, h]

end Journal

end BrokerConnector
