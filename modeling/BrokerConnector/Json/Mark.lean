import BrokerConnector.Json.Message
import BrokerConnector.Mark.Basic

/-!
# Marks as JSON

A mark is written with its session identifier and its entries. A mark that was read is detached and
none of its entries are counted.
-/

namespace BrokerConnector.Form

/-- Entries of a mark. -/
def pendingDelivery : Form PendingDelivery where
  write delivery :=
    Json.ofFields
      [("message_id", messageId.write delivery.id),
       ("timestamp", int64.write delivery.timestamp)]
  read json := do
    let [id, timestamp] ← arrange
      [("message_id", .required), ("timestamp", .required)] json | none
    return ⟨← messageId.read id, ← int64.read timestamp⟩

/-- Marks. -/
def mark : Form Mark where
  write mark :=
    Json.ofFields
      [("session_id", (option text).write mark.sessionId),
       ("pending", (list pendingDelivery).write mark.pending)]
  read json := do
    let [sessionId, pending] ← arrange
      [("session_id", .optional), ("pending", .required)] json | none
    return {
      sessionId := ← (option text).read sessionId
      pending := ← (list pendingDelivery).read pending }

end BrokerConnector.Form
