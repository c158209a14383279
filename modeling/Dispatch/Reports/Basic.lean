import Dispatch.Frames
import Dispatch.Metrics
import Dispatch.Pool
import Dispatch.Spans

/-!
# Values as data

How failures, messages, policies and the readings of breakers, pools, metrics and spans are written as
JSON for people and tools that watch an adapter. Durations are nanoseconds as a text, instants whole
milliseconds, fractions texts with four places, and bytes a text where they are one and hexadecimal
digits otherwise.
-/

set_option autoImplicit false

namespace Dispatch

namespace Json

def option {α : Type} (toData : α → Json) : Option α → Json
  | none => .null
  | some value => toData value

def optionalText : Option String → Json := option .string

/-- A success as a record of one member, a failure as it is. -/
def result {ε α : Type} (onError : ε → Json) (onOk : α → Json) : Except ε α → Json
  | .ok value => .object [("ok", onOk value)]
  | .error error => onError error

end Json

def Duration.toData (d : Duration) : Json := .string (toString d)

def Instant.toData (instant : Instant) : Json := .ofNat (Duration.millis instant)

def Binary64.toData (x : Binary64) : Json := .string (Decimal.fixed 4 x)

def Bytes.toData (bytes : Bytes) : Json :=
  match bytes.decode? with
  | some text => .string text
  | none => .object [("hex", .string bytes.hex)]

def Headers.toData (headers : Headers) : Json :=
  .object (headers.map fun header => (header.1, .string header.2))

def Destination.toData (d : Destination) : Json :=
  .object [("exchange", .string d.exchange), ("routing_key", .string d.routingKey)]

def Metadata.toData (m : Metadata) : Json :=
  .object [("topic", .string m.topic), ("headers", Headers.toData m.headers)]

/-! ## Failures -/

namespace Json.Fault

def label : Fault → String
  | .malformed => "Syntax"
  | .mismatch => "Data"
  | .truncated => "Eof"

def toData (fault : Fault) : Json := .object [("error", .string fault.label)]

end Json.Fault

namespace Failure

def label : Failure → String
  | .transient _ => "Transient"
  | .permanent _ => "Permanent"
  | .circuitOpen _ => "CircuitOpen"
  | .cancelled => "Cancelled"
  | .timeout _ => "Timeout"
  | .poolExhausted => "PoolExhausted"
  | .poolClosed => "PoolClosed"
  | .rateLimited => "RateLimitExceeded"
  | .retriesExhausted _ _ => "RetriesExhausted"

def fields (failure : Failure) : List (String × Json) :=
  [("error", .string failure.label), ("message", .string failure.message)]

def toData (failure : Failure) : Json := .object failure.fields

def resultData {α : Type} (onOk : α → Json) : Except Failure α → Json := Json.result toData onOk

end Failure

namespace TransportError

def label : TransportError → String
  | .connection _ => "Connection"
  | .authentication _ => "Authentication"
  | .send _ => "Send"
  | .rejected _ => "Rejected"
  | .timeout _ => "Timeout"
  | .closed => "Closed"
  | .unsupported _ => "Unsupported"

def toData (error : TransportError) : Json :=
  .object [("error", .string error.label), ("message", .string error.message)]

def statusData : Except TransportError Unit → Json
  | .ok () => .string "ok"
  | .error error => error.toData

end TransportError

namespace BrokerError

def label : BrokerError → String
  | .connect _ _ => "Connect"
  | .circuitOpen _ _ => "CircuitOpen"
  | .transmission _ _ _ => "Transmission"
  | .cancelled _ => "Cancelled"
  | .config _ => "Config"
  | .unsupported _ _ => "Unsupported"

def toData (error : BrokerError) : Json :=
  .object [("error", .string error.label), ("message", .string error.message),
    ("backend", Json.option (fun backend => .string (Backend.name backend)) error.backend?),
    ("source", Json.optionalText error.source?)]

def resultData {α : Type} (onOk : α → Json) : Except BrokerError α → Json := Json.result toData onOk

def statusData : Except BrokerError Unit → Json
  | .ok () => .string "ok"
  | .error error => error.toData

end BrokerError

/-! ## Policies and readings -/

def RetryPolicy.toData (policy : RetryPolicy) : Json :=
  .object [("max_retries", .ofNat policy.maxRetries), ("max_attempts", .ofNat policy.maxAttempts),
    ("delay_ns", Duration.toData policy.delay), ("multiplier", policy.multiplier.toData),
    ("max_delay_ns", Duration.toData policy.maxDelay)]

def BreakerPolicy.toData (policy : BreakerPolicy) : Json :=
  .object [("threshold", .ofNat policy.threshold), ("cooldown_ns", Duration.toData policy.cooldown)]

namespace Breaker

/-- The state, for an open circuit the milliseconds until its probe, and the counted failures. -/
def fields (b : Breaker) (now : Instant) : List (String × Json) :=
  let state : Json :=
    match b.state with
    | .closed => .string "closed"
    | .halfOpen => .string "half_open"
    | .opened probeAt =>
      .object [("open", .integer ((Duration.millis probeAt : Int) - (Duration.millis now : Int)))]
  [("state", state), ("failures", .ofNat b.failures)]

def toData (b : Breaker) (now : Instant) : Json := .object (b.fields now)

end Breaker

def PoolPolicy.toData (policy : PoolPolicy) : Json :=
  .object [("max_size", .ofNat policy.maxSize), ("size_policy", .string policy.sizePolicy.label),
    ("acquire_timeout_ns", Duration.toData policy.acquireTimeout),
    ("idle_timeout_ns", Json.option Duration.toData policy.idleTimeout),
    ("max_lifetime_ns", Json.option Duration.toData policy.maxLifetime)]

def PoolStats.toData (stats : PoolStats) : Json :=
  .object [("idle", .ofNat stats.idle), ("leased", .ofNat stats.leased),
    ("created", .ofNat stats.created), ("closed", .ofNat stats.closed),
    ("max_size", .ofNat stats.maxSize), ("utilization", stats.utilization.toData)]

def MetricsRegistry.toData (m : MetricsRegistry) (key : MetricsKey) : Json :=
  let counters := m.countersOf key.backend
  let gauges := m.gaugesOf key
  .object [("backend", .string key.backend), ("opened", .ofNat counters.opened),
    ("closed", .ofNat counters.closed), ("published", .ofNat counters.published),
    ("failed", .ofNat counters.failed), ("idle", .integer gauges.idle),
    ("leased", .integer gauges.leased)]

namespace SpanRecorder

def fields (r : SpanRecorder) (name : String) : List (String × Json) :=
  [("opened", .ofNat (r.opened name)), ("closed", .ofNat (r.closed name)),
    ("spans", .array ((r.named name).map fun span =>
      .object [("fields", Headers.toData span.fields), ("closed", .bool span.closed)]))]

def toData (r : SpanRecorder) (name : String) : Json := .object (r.fields name)

end SpanRecorder

/-! ## Messages on the wire -/

def AmqpProperties.toData (p : AmqpProperties) : Json :=
  .object [("delivery_mode", .ofNat p.deliveryMode), ("content_type", .string p.contentType),
    ("correlation_id", Json.optionalText p.correlationId),
    ("message_id", Json.optionalText p.messageId), ("headers", Headers.toData p.headers)]

def LogRecord.toData (r : LogRecord) : Json :=
  .object [("topic", .string r.topic), ("key", .string r.key), ("payload", Bytes.toData r.payload),
    ("headers", Headers.toData r.headers)]

/-- An envelope, and how it looks to each kind of broker that has a form of its own. -/
def Envelope.toData (e : Envelope) : Json :=
  .object [("destination", e.destination.toData), ("payload", Bytes.toData e.payload),
    ("size", .ofNat e.size), ("content_type", .string e.contentType),
    ("amqp", (AmqpProperties.ofEnvelope e).toData), ("log", (LogRecord.ofEnvelope e).toData),
    ("socket", .array ((socketFrames e).map Bytes.toData))]

def Delivery.toData (d : Delivery) : Json :=
  .object [("source", .string d.source), ("payload", Bytes.toData d.payload),
    ("headers", Headers.toData d.headers), ("correlation_id", Json.optionalText d.correlationId),
    ("message_id", Json.optionalText d.messageId)]

/-! ## Events -/

def Level.label (level : Level) : String := String.ofList (level.name.toList.map Char.toUpper)

def Event.toData (e : Event) : Json :=
  .array [.string e.level.label,
    .object (("message", .string e.message) :: e.fields.map fun field => (field.1, .string field.2))]

end Dispatch
