import BrokerConnector.Destination
import BrokerConnector.Keyed

/-!
# Messages

A message has a body, a text or bytes, and headers. The broker owns three of the headers: it stamps
the identifier, the destination and the redelivered flag. Two headers are moments in milliseconds
since the epoch, the timestamp and the expiration, and zero stands for "not set" in both.
-/

namespace BrokerConnector

/-- The identifier of a message. A message keeps it across redeliveries. -/
structure MessageId where
  text : String
  deriving DecidableEq, Inhabited

/-- Whether a message is to survive a restart of its broker. -/
inductive DeliveryMode where
  | nonPersistent
  | persistent
  deriving DecidableEq, Inhabited

/-- The number that stands for a delivery mode. -/
def DeliveryMode.code : DeliveryMode → Int32
  | nonPersistent => 1
  | persistent => 2

/-- The value of a property. The floating point kinds hold the bits of their IEEE 754 format. -/
inductive PropertyValue where
  | bool (value : Bool)
  | byte (value : Int8)
  | short (value : Int16)
  | int (value : Int32)
  | long (value : Int64)
  | float (bits : UInt32)
  | double (bits : UInt64)
  | string (value : String)
  deriving DecidableEq, Inhabited

/-- The named values of a message, each name once. -/
abbrev Properties := Keyed String PropertyValue

/-- The body of a message. -/
inductive Body where
  | text (content : String)
  | bytes (content : List UInt8)
  deriving DecidableEq, Inhabited

/-- The size of a body in bytes. A text counts the bytes of its UTF-8 form. -/
def Body.size : Body → Nat
  | text content => content.utf8ByteSize
  | bytes content => content.length

/-- A message as a broker holds and delivers it. -/
structure Message where
  id : Option MessageId := none
  timestamp : Int64 := 0
  correlationId : Option String := none
  replyTo : Option Destination := none
  destination : Option Destination := none
  deliveryMode : DeliveryMode := .persistent
  redelivered : Bool := false
  messageType : Option String := none
  expiration : Int64 := 0
  priority : Int32 := 4
  properties : Properties := []
  body : Body
  deriving DecidableEq, Inhabited

namespace Message

/-- A text message with every header unset. -/
def ofText (content : String) : Message :=
  { body := .text content }

/-- The text of a text message. -/
def text? (message : Message) : Option String :=
  match message.body with
  | .text content => some content
  | .bytes _ => none

/-- The size of the body in bytes. -/
def size (message : Message) : Nat :=
  message.body.size

/-- Whether a message is no longer to be delivered at the moment `now`. A message whose expiration
is zero or negative never expires. -/
def isExpired (message : Message) (now : Int64) : Bool :=
  0 < message.expiration && message.expiration ≤ now

/-- A message stamped with a timestamp where it has none. -/
def stamped (message : Message) (now : Int64) : Message :=
  if message.timestamp = 0 then { message with timestamp := now } else message

end Message

end BrokerConnector
