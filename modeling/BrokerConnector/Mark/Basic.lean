import BrokerConnector.Endpoint

/-!
# Checkpoint marks

A mark lists the messages that a reader consumed since the last finalization, in the order in which
they came. It is attached to the session that delivered them, since only that session can
acknowledge them; a mark that was read back from bytes is detached until a reader attaches it.

A metric counts the listed messages of all marks of a process that still wait for their
acknowledgment there. Each mark knows how many of its own are counted.
-/

namespace BrokerConnector

/-- A consumed message that waits for its acknowledgment. -/
structure PendingDelivery where
  id : MessageId
  timestamp : Int64
  deriving DecidableEq, Inhabited

/-- What a reader consumed since the last finalization. -/
structure Mark where
  /-- The identifier of the session that the mark was attached to last. -/
  sessionId : Option String := none
  pending : List PendingDelivery := []
  /-- The session that the mark is attached to. -/
  session : Option SessionHandle := none
  /-- How many of the entries the metric counts. -/
  tracked : Nat := 0
  deriving DecidableEq, Inhabited

namespace Mark

/-- The watermark of a mark without entries. -/
def noTimestamp : Int64 := Int64.maxValue

/-- The oldest timestamp of the entries. -/
def watermark (mark : Mark) : Int64 :=
  mark.pending.foldr (fun delivery oldest => min delivery.timestamp oldest) noTimestamp

/-- Whether a mark can acknowledge its entries. -/
def isAttached (mark : Mark) : Bool :=
  mark.session.isSome

/-- A mark as a value that is shown. -/
def debug (mark : Mark) : String :=
  Text.structureOf "CheckpointMark"
    [("session_id", Text.optional (mark.sessionId.map Text.quoted)),
     ("pending", toString mark.pending.length),
     ("watermark", toString mark.watermark.toInt),
     ("attached", Text.truth mark.isAttached)]

/-! ## Changes that the metric follows -/

/-- Stops counting entries that were removed, at most as many as are counted. -/
def untrack (mark : Mark) (removed : Nat) (journal : Journal) : Mark × Journal :=
  let counted := min removed mark.tracked
  if counted = 0 then (mark, journal)
  else
    ({ mark with tracked := mark.tracked - counted },
      journal.change .pendingAcknowledgments (-counted))

/-- Appends a consumed message. -/
def add (mark : Mark) (id : MessageId) (timestamp : Int64) (journal : Journal) : Mark × Journal :=
  ({ mark with
      pending := mark.pending ++ [⟨id, timestamp⟩]
      tracked := mark.tracked + 1 },
    journal.change .pendingAcknowledgments 1)

/-- Attaches a mark to a fresh session. The entries it has were delivered to an earlier session and
are removed: see `stale`. -/
def attach (mark : Mark) (session : SessionHandle) (journal : Journal) : Mark × Journal :=
  let (mark, journal) := { mark with pending := [] }.untrack mark.pending.length journal
  ({ mark with sessionId := some session.id, session := some session }, journal)

/-- The entries that a fresh session cannot acknowledge. -/
def stale (mark : Mark) : List PendingDelivery :=
  mark.pending

/-- Detaches a mark from a session that is gone. It keeps its entries, uncounted. -/
def detach (mark : Mark) (journal : Journal) : Mark × Journal :=
  let (mark, journal) := mark.untrack mark.tracked journal
  ({ mark with session := none }, journal)

/-- Removes the oldest entries. -/
def dropSettled (mark : Mark) (count : Nat) (journal : Journal) : Mark × Journal :=
  { mark with pending := mark.pending.drop count }.untrack count journal

/-- What remains of the count when a mark is gone. -/
def discard (mark : Mark) (journal : Journal) : Journal :=
  (mark.untrack mark.tracked journal).2

/-! ## Finalization -/

variable {σ : Type}

/-- How far the acknowledgments of a list of entries went. -/
structure Settlement where
  acknowledged : Nat := 0
  /-- The acknowledged entries and those that the session does not hold. -/
  settled : Nat := 0
  failure : Option BrokerError := none
  deriving DecidableEq, Inhabited

/-- Acknowledges entries in order, up to the first failure. An entry that the session does not hold
is settled with a notice. -/
def settle (endpoint : Endpoint σ) (session : SessionHandle) :
    List PendingDelivery → Call Mark σ Settlement
  | [] => return {}
  | delivery :: rest => do
    match ← (Scene.ask endpoint (.broker (.acknowledge session delivery.id))).attempt with
    | .ok _ =>
      let others ← settle endpoint session rest
      return { others with
        acknowledged := others.acknowledged + 1, settled := others.settled + 1 }
    | .error error =>
      if error.isNotPending then
        Scene.note (.entryNotHeld delivery.id session.id)
        let others ← settle endpoint session rest
        return { others with settled := others.settled + 1 }
      else
        return { failure := some error }

/-- Acknowledges every entry in order and removes what was settled. The entries from the first
failure on stay. The number of acknowledged entries is the result. -/
def finalize (endpoint : Endpoint σ) : Call Mark σ Nat := do
  let mark ← Scene.get
  if mark.pending.isEmpty then
    return 0
  match mark.session with
  | none =>
    Action.fail (.checkpoint
      (toString mark.pending.length ++
        " pending messages but the mark is not attached to a session"))
  | some session =>
    let settlement ← settle endpoint session mark.pending
    Scene.modifyJournaled fun mark journal => mark.dropSettled settlement.settled journal
    Scene.count .acknowledged settlement.acknowledged
    match settlement.failure with
    | some error => Action.fail (.broker error)
    | none => return settlement.acknowledged

end Mark

end BrokerConnector
