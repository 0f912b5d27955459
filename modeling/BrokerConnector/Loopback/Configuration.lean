import BrokerConnector.Credentials
import BrokerConnector.Yaml.Settings

/-!
# The configuration of a loopback

A file with the settings of a write and of a read, the credentials that the broker asks for, if any,
and the number of records. The read is always bounded: without a limit of its own it gets one.
-/

namespace BrokerConnector.Loopback

/-- The configuration of a loopback. -/
structure Configuration where
  /-- What the broker asks for. -/
  broker : Option Credentials
  read : ReadSettings
  write : WriteSettings
  /-- How many records are written. -/
  count : Nat
  deriving DecidableEq, Inhabited

/-- Why a file holds no configuration. -/
inductive Configuration.Fault where
  | malformed
  | noSplits
  deriving DecidableEq, Inhabited

namespace Configuration

/-- How many records are written when a file does not tell. -/
def defaultCount : Nat := 10

/-- How long is read when a file sets no limit, in milliseconds. -/
def defaultReadTime : UInt64 := 2000

/-- The settings of a read with a limit. -/
def limited (settings : ReadSettings) : ReadSettings :=
  if settings.maxNumRecords.isNone && settings.maxReadTime.isNone then
    { settings with maxReadTime := some defaultReadTime }
  else settings

/-- Credentials in a file. -/
def credentials? (document : Yaml.Document) (node : Yaml.Node) : Option Credentials := do
  let [some username, password] ← node.fields document ["username", "password"] | none
  return ⟨← username.text?, ← Yaml.Node.optionalField Yaml.Node.text? password⟩

/-- The configuration in a document, before it is checked. -/
def ofDocument? (document : Yaml.Document) : Option Configuration := do
  let [broker, some read, some write, count] ←
    document.root.fields document ["broker", "read", "write", "count"] | none
  let count ← Yaml.Node.optionalField Yaml.Node.word? count
  return {
    broker := ← Yaml.Node.optionalField (credentials? document) broker
    read := ← read.readSettings? document
    write := ← write.writeSettings? document
    count := (count.map UInt64.toNat).getD defaultCount }

/-- The configuration that a file holds. A read has at least one split. -/
def ofFile (file : String) : Except Fault Configuration :=
  match (Yaml.document? file).bind ofDocument? with
  | none => .error .malformed
  | some configuration =>
    if configuration.read.desiredSplits = 0 then .error .noSplits
    else .ok { configuration with read := limited configuration.read }

end Configuration

end BrokerConnector.Loopback
