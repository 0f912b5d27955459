import BrokerConnector.Config.Settings
import BrokerConnector.Credentials
import BrokerConnector.Json.Form

/-!
# Credentials and settings as JSON
-/

namespace BrokerConnector.Form

/-- Credentials. -/
def credentials : Form Credentials where
  write credentials :=
    Json.ofFields
      [("username", text.write credentials.username),
       ("password", (option text).write credentials.password)]
  read json := do
    let [username, password] ← arrange
      [("username", .required), ("password", .optional)] json | none
    return ⟨← text.read username, ← (option text).read password⟩

/-- The settings of a read. -/
def readSettings : Form ReadSettings where
  write settings :=
    Json.ofFields
      [("queue", (option text).write settings.queue),
       ("topic", (option text).write settings.topic),
       ("username", (option text).write settings.username),
       ("password", (option text).write settings.password),
       ("max_num_records", (option uint64).write settings.maxNumRecords),
       ("max_read_time_ms", (option uint64).write settings.maxReadTime),
       ("desired_splits", uint64.write settings.desiredSplits)]
  read json := do
    let [queue, topic, username, password, maxNumRecords, maxReadTime, desiredSplits] ← arrange
      [("queue", .defaulted .null), ("topic", .defaulted .null), ("username", .defaulted .null),
       ("password", .defaulted .null), ("max_num_records", .defaulted .null),
       ("max_read_time_ms", .defaulted .null),
       ("desired_splits", .defaulted (Json.ofNat 1))] json | none
    return {
      queue := ← (option text).read queue
      topic := ← (option text).read topic
      username := ← (option text).read username
      password := ← (option text).read password
      maxNumRecords := ← (option uint64).read maxNumRecords
      maxReadTime := ← (option uint64).read maxReadTime
      desiredSplits := ← uint64.read desiredSplits }

/-- The settings of a write. -/
def writeSettings : Form WriteSettings where
  write settings :=
    Json.ofFields
      [("queue", (option text).write settings.queue),
       ("topic", (option text).write settings.topic),
       ("username", (option text).write settings.username),
       ("password", (option text).write settings.password)]
  read json := do
    let [queue, topic, username, password] ← arrange
      [("queue", .defaulted .null), ("topic", .defaulted .null), ("username", .defaulted .null),
       ("password", .defaulted .null)] json | none
    return {
      queue := ← (option text).read queue
      topic := ← (option text).read topic
      username := ← (option text).read username
      password := ← (option text).read password }

end BrokerConnector.Form
