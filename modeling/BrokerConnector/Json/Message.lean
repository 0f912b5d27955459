import BrokerConnector.Json.Form
import BrokerConnector.Record

/-!
# Messages and records as JSON
-/

namespace BrokerConnector.Form

/-- Destinations. -/
def destination : Form Destination where
  write
    | .queue name => writeCase "Queue" (Json.ofText name)
    | .topic name => writeCase "Topic" (Json.ofText name)
  read json :=
    match readCase json with
    | some ("Queue", some name) => name.text?.map .queue
    | some ("Topic", some name) => name.text?.map .topic
    | _ => none

/-- Identifiers of messages. -/
def messageId : Form MessageId :=
  text.via MessageId.text MessageId.mk

/-- Delivery modes. -/
def deliveryMode : Form DeliveryMode where
  write
    | .nonPersistent => Json.ofText "NonPersistent"
    | .persistent => Json.ofText "Persistent"
  read json :=
    match readBareCase json with
    | some "NonPersistent" => some .nonPersistent
    | some "Persistent" => some .persistent
    | _ => none

/-- Bodies. -/
def body : Form Body where
  write
    | .text content => writeCase "Text" (Json.ofText content)
    | .bytes content => writeCase "Bytes" ((list uint8).write content)
  read json :=
    match readCase json with
    | some ("Text", some content) => content.text?.map .text
    | some ("Bytes", some content) => ((list uint8).read content).map .bytes
    | _ => none

/-- The name of the kind of a property value. -/
def kindOf : PropertyValue → String
  | .bool _ => "Bool"
  | .byte _ => "Byte"
  | .short _ => "Short"
  | .int _ => "Int"
  | .long _ => "Long"
  | .float _ => "Float"
  | .double _ => "Double"
  | .string _ => "String"

/-- A property value without its kind. -/
def writeContent : PropertyValue → Json
  | .bool value => truth.write value
  | .byte value => int8.write value
  | .short value => int16.write value
  | .int value => int32.write value
  | .long value => int64.write value
  | .float bits => float.write bits
  | .double bits => double.write bits
  | .string value => text.write value

/-- A property value of a kind. -/
def readContent (kind : String) (content : Json) : Option PropertyValue :=
  match kind with
  | "Bool" => (truth.read content).map .bool
  | "Byte" => (int8.read content).map .byte
  | "Short" => (int16.read content).map .short
  | "Int" => (int32.read content).map .int
  | "Long" => (int64.read content).map .long
  | "Float" => (float.read content).map .float
  | "Double" => (double.read content).map .double
  | "String" => (text.read content).map .string
  | _ => none

/-- Property values: the kind and the value. The kind is a case in an object and a text in an
array. -/
def propertyValue : Form PropertyValue where
  write value :=
    Json.ofFields [("type", Json.ofText (kindOf value)), ("value", writeContent value)]
  read
    | .array [kind, content] => do readContent (← kind.text?) content
    | .object fields => do
      let [kind, content] ← arrangeFields [("type", .required), ("value", .required)] fields | none
      readContent (← readBareCase kind) content
    | _ => none

/-- Properties: an object of property values. Of two fields with one name the last counts. -/
def properties : Form Properties where
  write values := Json.ofFields (values.map fun entry => (entry.1, propertyValue.write entry.2))
  read json := do
    let entries ← (← json.fields?).mapM fun (name, value) => do
      return (← name, ← propertyValue.read value)
    return entries.foldl (fun values entry => values.set entry.1 entry.2) []

/-- Messages. -/
def message : Form Message where
  write message :=
    Json.ofFields
      [("message_id", (option messageId).write message.id),
       ("timestamp", int64.write message.timestamp),
       ("correlation_id", (option text).write message.correlationId),
       ("reply_to", (option destination).write message.replyTo),
       ("destination", (option destination).write message.destination),
       ("delivery_mode", deliveryMode.write message.deliveryMode),
       ("redelivered", truth.write message.redelivered),
       ("message_type", (option text).write message.messageType),
       ("expiration", int64.write message.expiration),
       ("priority", int32.write message.priority),
       ("properties", properties.write message.properties),
       ("body", body.write message.body)]
  read json := do
    let [id, timestamp, correlationId, replyTo, destinationField, deliveryModeField, redelivered,
        messageType, expiration, priority, propertiesField, bodyField] ← arrange
      [("message_id", .optional), ("timestamp", .required), ("correlation_id", .optional),
       ("reply_to", .optional), ("destination", .optional), ("delivery_mode", .required),
       ("redelivered", .required), ("message_type", .optional), ("expiration", .required),
       ("priority", .required), ("properties", .required), ("body", .required)] json | none
    return {
      id := ← (option messageId).read id
      timestamp := ← int64.read timestamp
      correlationId := ← (option text).read correlationId
      replyTo := ← (option destination).read replyTo
      destination := ← (option destination).read destinationField
      deliveryMode := ← deliveryMode.read deliveryModeField
      redelivered := ← truth.read redelivered
      messageType := ← (option text).read messageType
      expiration := ← int64.read expiration
      priority := ← int32.read priority
      properties := ← properties.read propertiesField
      body := ← body.read bodyField }

/-- Records. -/
def record : Form Record where
  write record :=
    Json.ofFields
      [("message_id", text.write record.messageId),
       ("timestamp", int64.write record.timestamp),
       ("correlation_id", (option text).write record.correlationId),
       ("reply_to", (option destination).write record.replyTo),
       ("destination", destination.write record.destination),
       ("delivery_mode", int32.write record.deliveryMode),
       ("redelivered", truth.write record.redelivered),
       ("message_type", (option text).write record.messageType),
       ("expiration", int64.write record.expiration),
       ("priority", int32.write record.priority),
       ("properties", properties.write record.properties),
       ("payload", text.write record.payload)]
  read json := do
    let [id, timestamp, correlationId, replyTo, destinationField, mode, redelivered, messageType,
        expiration, priority, propertiesField, payload] ← arrange
      [("message_id", .required), ("timestamp", .required), ("correlation_id", .optional),
       ("reply_to", .optional), ("destination", .required), ("delivery_mode", .required),
       ("redelivered", .required), ("message_type", .optional), ("expiration", .required),
       ("priority", .required), ("properties", .required), ("payload", .required)] json | none
    return {
      messageId := ← text.read id
      timestamp := ← int64.read timestamp
      correlationId := ← (option text).read correlationId
      replyTo := ← (option destination).read replyTo
      destination := ← destination.read destinationField
      deliveryMode := ← int32.read mode
      redelivered := ← truth.read redelivered
      messageType := ← (option text).read messageType
      expiration := ← int64.read expiration
      priority := ← int32.read priority
      properties := ← properties.read propertiesField
      payload := ← text.read payload }

end BrokerConnector.Form
