import BrokerConnector.Message

/-!
# Records

A record is a text message as a pipeline sees it: every header and property copied out, with the
payload in place of the body. Only a message that a broker has stamped is a record.
-/

namespace BrokerConnector

/-- A consumed text message. -/
structure Record where
  messageId : String
  timestamp : Int64
  correlationId : Option String
  replyTo : Option Destination
  destination : Destination
  deliveryMode : Int32
  redelivered : Bool
  messageType : Option String
  expiration : Int64
  priority : Int32
  properties : Properties
  payload : String
  deriving DecidableEq, Inhabited

namespace Record

/-- Why a message is no record. -/
inductive Fault where
  | noIdentifier
  | noDestination (id : MessageId)
  | notText (id : MessageId)
  deriving DecidableEq

/-- The text of a fault. -/
def Fault.message : Fault → String
  | noIdentifier => "message has no identifier"
  | noDestination id => "message " ++ id.text ++ " has no destination"
  | notText id => "message " ++ id.text ++ " is not a text message"

/-- The record of a message. -/
def ofMessage (message : Message) : Except Fault Record := do
  let some id := message.id | throw .noIdentifier
  let some destination := message.destination | throw (.noDestination id)
  let some payload := message.text? | throw (.notText id)
  return {
    messageId := id.text
    timestamp := message.timestamp
    correlationId := message.correlationId
    replyTo := message.replyTo
    destination := destination
    deliveryMode := message.deliveryMode.code
    redelivered := message.redelivered
    messageType := message.messageType
    expiration := message.expiration
    priority := message.priority
    properties := message.properties
    payload := payload }

/-- The record of a message, or the text of the fault. -/
def mapper (message : Message) : Except String Record :=
  (ofMessage message).mapError Fault.message

/-- Whether a record has a property of this name. -/
def hasProperty (record : Record) (name : String) : Bool :=
  (record.properties.get? name).isSome

end Record

end BrokerConnector
