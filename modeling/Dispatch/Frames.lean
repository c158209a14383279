import Dispatch.Backend

/-!
# Messages on the wire

How an envelope looks to each kind of broker: properties and body for AMQP, two frames for a socket, a
record for a log, a packet for MQTT. Only AMQP and the log carry headers.
-/

set_option autoImplicit false

namespace Dispatch

structure AmqpProperties where
  deliveryMode : Nat
  contentType : String
  correlationId : Option String
  messageId : Option String
  headers : Headers
  deriving DecidableEq, Repr, Inhabited

/-- The delivery mode of a message that survives a restart of the broker. -/
def AmqpProperties.persistent : Nat := 2

def AmqpProperties.ofEnvelope (e : Envelope) : AmqpProperties where
  deliveryMode := persistent
  contentType := e.contentType
  correlationId := e.correlationId
  messageId := e.messageId
  headers := e.headers

structure LogRecord where
  topic : String
  key : String
  payload : Bytes
  headers : Headers
  deriving DecidableEq, Repr, Inhabited

namespace LogRecord

def correlationHeader : String := "correlation_id"
def messageHeader : String := "message_id"

/-- Puts an id, where there is one, among the headers. -/
def withId (key : String) (id : Option String) (headers : Headers) : Headers :=
  match id with
  | none => headers
  | some id => insertSorted key id headers

/-- Ids travel as headers, in place of application headers of the same name. -/
def ofEnvelope (e : Envelope) : LogRecord where
  topic := if e.destination.exchange.isEmpty then e.destination.routingKey else e.destination.exchange
  key := e.destination.routingKey
  payload := e.payload
  headers :=
    withId messageHeader e.messageId (withId correlationHeader e.correlationId e.headers)

end LogRecord

def socketFrames (e : Envelope) : List Bytes := [Bytes.ofString e.destination.topicName, e.payload]

structure MqttPacket where
  topic : String
  payload : Bytes
  qos : Nat
  retain : Bool
  deriving DecidableEq, Repr, Inhabited

end Dispatch
