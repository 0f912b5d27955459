import BrokerConnector.Config.Write
import BrokerConnector.Loopback.Configuration
import BrokerConnector.Loopback.ReadBack
import BrokerConnector.Record
import BrokerConnector.World
import BrokerConnector.Writer

/-!
# The loopback

A loopback writes numbered records to a broker of its own and reads them back. Every split of the
read has its first turn before anything is written, since a topic keeps nothing for those who
subscribe late. Then all records are written, and then the splits take turns until they are done.
-/

namespace BrokerConnector.Loopback

/-- Why a loopback ends without a report. -/
inductive Failure where
  | unreadable (path : String)
  | malformed (path : String)
  | noSplits
  | writeConfiguration (fault : ConfigurationFault)
  | readConfiguration (fault : ConfigurationFault)
  | readLimits (fault : ConfigurationFault)
  | writing (error : ConnectorError)
  | reading (error : ConnectorError)
  deriving DecidableEq, Inhabited

/-- The text of a failure, then those of its causes. The causes of a file that cannot be read and of
one that is malformed are not told. -/
def Failure.chain : Failure → List String
  | unreadable path => ["Failed to read the configuration file " ++ path]
  | malformed path => ["Failed to parse the configuration file " ++ path]
  | noSplits => ["read.desired_splits must be at least 1"]
  | writeConfiguration fault => "Invalid write configuration" :: fault.error.chain
  | readConfiguration fault => "Invalid read configuration" :: fault.error.chain
  | readLimits fault => "Invalid read limits" :: fault.error.chain
  | writing error => "Failed to set up the writer" :: error.chain
  | reading error => "Failed to read back the records" :: error.chain

/-! ## Reports -/

/-- What was written and what was read back. -/
structure Report where
  /-- The records of each split. -/
  splits : List (List (Timestamped Record))
  summary : WriteSummary
  /-- The records that failed. -/
  failed : List String

namespace Report

/-- The line of a record. -/
def recordLine (stamp : Int64 → String) (split : Nat) (record : Timestamped Record) : String :=
  "split=" ++ toString split ++ " id=" ++ record.value.messageId ++
    " timestamp=" ++ stamp record.timestamp ++ " payload=" ++ record.value.payload

/-- The line behind the records of a split. -/
def splitLine (stamp : Int64 → String) (split : Nat) (records : List (Timestamped Record)) :
    String :=
  match (records.map (·.timestamp)).min? with
  | some watermark =>
    "split " ++ toString split ++ ": " ++ toString records.length ++
      " records, low watermark " ++ stamp watermark
  | none => "split " ++ toString split ++ ": no records"

/-- How many records were read. -/
def readCount (report : Report) : Nat :=
  report.splits.flatten.length

/-- The last line. -/
def summaryLine (report : Report) : String :=
  "sent " ++ toString report.summary.sent ++ " records, " ++ toString report.summary.failed ++
    " failed, read " ++ toString report.readCount ++ " records"

/-- The lines of a report, with timestamps written by `stamp`. -/
def lines (report : Report) (stamp : Int64 → String) : List String :=
  (report.splits.zipIdx.flatMap fun (records, split) =>
    records.map (recordLine stamp split) ++ [splitLine stamp split records]) ++
    [report.summaryLine]

/-- The lines about the records that failed. -/
def failureLines (report : Report) : List String :=
  report.failed.map fun record => "failed to write: " ++ Text.quoted record

end Report

/-! ## Writing and reading back -/

/-- A part of a loopback. -/
abbrev Stage (α : Type) := Action (Scene Unit World) Failure α

/-- The message of a payload. It carries a property that tells where it comes from. -/
def messageOf : ValueMapper String := fun payload _ =>
  if payload.isEmpty then .error "empty payload"
  else
    .ok { Message.ofText payload with
      properties := Keyed.set [] "origin" (.string "danube-mq-cli") }

/-- The payloads of a number of records. -/
def payloads (count : Nat) : List String :=
  (List.range count).map fun number => "record-" ++ toString number

/-- Writes every record, and gives the ones that failed with the summary. -/
def write (factory : ConnectionFactory) (configuration : Configuration) :
    Stage (WriteSummary × List String) := do
  let builder := WriteBuilder.ofSettings configuration.write
  let config ← Action.ofExcept <|
    ({ builder with factory := some factory, mapper := some messageOf }.build).mapError
      .writeConfiguration
  Action.mapError Failure.writing <|
    Scene.alone { config := config : Writer String } (fun _ journal => journal) do
      let summary ← Writer.writeAll (World.endpoint factory.site) (payloads configuration.count)
      return (summary, (← Scene.get).failures.drain.1)

/-- The bounded readers of the splits of a read. -/
def readers (factory : ConnectionFactory) (settings : ReadSettings) :
    Except Failure (List (BoundedReader Record)) := do
  let builder : ReadBuilder Record := ReadBuilder.ofSettings settings
  let config ←
    ({ builder with factory := some factory, mapper := some Record.mapper }.build).mapError
      .readConfiguration
  let source : Source Record := { config := config }
  ((source.split settings.desiredSplits).mapM BoundedReader.ofSource).mapError .readLimits

/-- The polls that a turn can have. Each but the last takes a record. -/
def pollsPerTurn (configuration : Configuration) : Nat :=
  configuration.count + 2

/-- The turns that a number of splits can have until their time is over. -/
def turnsOf (configuration : Configuration) (splits : Nat) : Nat :=
  let time := (configuration.read.maxReadTime.map UInt64.toNat).getD 0
  splits * (time / 5 + configuration.count + 3) + 1

/-- Gives every split its first turn. -/
def subscribe (factory : ConnectionFactory) (chance : Nat → Nat) (configuration : Configuration) :
    Stage (List (Progress Record)) := do
  let readers ← Action.ofExcept (readers factory configuration.read)
  let endpoint := World.endpoint factory.site
  readers.zipIdx.mapM fun (reader, split) =>
    Action.mapError Failure.reading <|
      Progress.begin endpoint (chance split) (pollsPerTurn configuration) reader

/-- Lets the splits take turns until they are done. -/
def readBack (factory : ConnectionFactory) (chance : Nat → Nat) (configuration : Configuration)
    (reads : List (Progress Record)) : Stage (List (List (Timestamped Record))) :=
  Action.mapError Failure.reading <|
    Progress.finish (World.endpoint factory.site) chance (pollsPerTurn configuration)
      (turnsOf configuration reads.length) reads

/-- Writes the records and reads them back. A failure of the writing is told in place of one of the
reading. -/
def exchange (factory : ConnectionFactory) (chance : Nat → Nat) (configuration : Configuration) :
    Stage Report := do
  let subscribed ← (subscribe factory (fun split => chance split) configuration).attempt
  let (summary, failed) ← write factory configuration
  let reads ← Action.ofExcept subscribed
  let splits ← readBack factory (fun turn => chance (reads.length + turn)) configuration reads
  return { splits := splits, summary := summary, failed := failed }

/-- Runs a loopback on a broker of its own. -/
def run (timeOfDay : Int64) (chance : Nat → Nat) (configuration : Configuration) :
    Outcome Failure Report :=
  let broker : Broker := { credentials := configuration.broker }
  let (site, world) := World.addBroker { timeOfDay := timeOfDay } broker
  (exchange ⟨site, "Broker"⟩ chance configuration
    { client := (), journal := {}, env := world }).1

/-! ## The command -/

/-- The configuration in a file, with the number of records that the command asks for. A file that
cannot be read has no content. -/
def load (path : String) (content : Option String) (count : Option Nat) :
    Except Failure Configuration :=
  match content with
  | none => .error (.unreadable path)
  | some content =>
    match Configuration.ofFile content with
    | .error .malformed => .error (.malformed path)
    | .error .noSplits => .error .noSplits
    | .ok configuration => .ok { configuration with count := count.getD configuration.count }

end BrokerConnector.Loopback
