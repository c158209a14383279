import Dispatch.Json.Shape

/-!
# Messages

Applications work with JSON values, headers and destinations. An `Envelope` is the serialized form that
goes to a broker, a `Delivery` is what comes back from one. Headers are kept sorted by key.
-/

set_option autoImplicit false

namespace Dispatch

/-- Texts by key, sorted, one for each key. -/
abbrev Headers := List (String × String)

/-- Where a message goes. A broker with topics only takes the routing key, or the exchange where the
routing key is empty. -/
structure Destination where
  exchange : String
  routingKey : String
  deriving DecidableEq, Repr, Inhabited

namespace Destination

def topic (name : String) : Destination := ⟨name, name⟩

def empty : Destination := ⟨"", ""⟩

def isEmpty (d : Destination) : Bool := d.exchange.isEmpty && d.routingKey.isEmpty

def topicName (d : Destination) : String :=
  if d.routingKey.isEmpty then d.exchange else d.routingKey

def text (d : Destination) : String :=
  if d.routingKey.isEmpty ∨ d.exchange = d.routingKey then d.exchange
  else if d.exchange.isEmpty then d.routingKey
  else d.exchange ++ "/" ++ d.routingKey

end Destination

/-- A topic and headers given alongside a message, or carried by a delivery. -/
structure Metadata where
  topic : String
  headers : Headers
  deriving DecidableEq, Repr, Inhabited

namespace Metadata

def new (topic : String) : Metadata := ⟨topic, []⟩

def withHeader (m : Metadata) (key value : String) : Metadata :=
  { m with headers := insertSorted key value m.headers }

end Metadata

structure MessageContext where
  payload : Json
  headers : Headers
  correlationId : Option String
  messageId : Option String
  deriving Repr, Inhabited

namespace MessageContext

def new (payload : Json) : MessageContext := ⟨payload, [], none, none⟩

def withHeader (c : MessageContext) (key value : String) : MessageContext :=
  { c with headers := insertSorted key value c.headers }

def withCorrelationId (c : MessageContext) (id : String) : MessageContext :=
  { c with correlationId := some id }

def withMessageId (c : MessageContext) (id : String) : MessageContext := { c with messageId := some id }

end MessageContext

structure Envelope where
  destination : Destination
  payload : Bytes
  headers : Headers
  correlationId : Option String
  messageId : Option String
  contentType : String
  deriving DecidableEq, Repr, Inhabited

namespace Envelope

def jsonContentType : String := "application/json"

def raw (destination : Destination) (payload : Bytes) : Envelope where
  destination
  payload
  headers := []
  correlationId := none
  messageId := none
  contentType := jsonContentType

def json (destination : Destination) (message : Json) : Envelope :=
  raw destination (Bytes.ofString message.text)

def size (e : Envelope) : Nat := e.payload.length

end Envelope

structure Delivery where
  source : String
  payload : Bytes
  headers : Headers
  correlationId : Option String
  messageId : Option String
  deriving DecidableEq, Repr, Inhabited

namespace Delivery

def new (source : String) (payload : Bytes) : Delivery := ⟨source, payload, [], none, none⟩

def json (d : Delivery) (shape : Json.Shape) : Except Json.Fault Json := shape.ofBytes d.payload

def metadata (d : Delivery) : Metadata := ⟨d.source, d.headers⟩

def size (d : Delivery) : Nat := d.payload.length

end Delivery

end Dispatch
