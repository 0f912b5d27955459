/-!
# Settings

The part of a configuration that is data, as a settings file holds it. Mappers and the way to a
broker are code and are added when a configuration is built.
-/

namespace BrokerConnector

/-- The settings of a read. Its time is in milliseconds. -/
structure ReadSettings where
  queue : Option String := none
  topic : Option String := none
  username : Option String := none
  password : Option String := none
  maxNumRecords : Option UInt64 := none
  maxReadTime : Option UInt64 := none
  desiredSplits : UInt64 := 1
  deriving DecidableEq, Inhabited

/-- The settings of a write. -/
structure WriteSettings where
  queue : Option String := none
  topic : Option String := none
  username : Option String := none
  password : Option String := none
  deriving DecidableEq, Inhabited

end BrokerConnector
