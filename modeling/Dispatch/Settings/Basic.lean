import Dispatch.Backend
import Dispatch.Bucket
import Dispatch.Pool
import Dispatch.Text.Blank
import Dispatch.Text.Quote

/-!
# Settings

One optional section for each backend and one for logging. Every backend section also holds the pool,
resilience and throttling settings. `validate` states what a section must satisfy; the parts of an
adapter are derived from a section without further conditions, but for the token bucket.
-/

set_option autoImplicit false

namespace Dispatch

inductive HeaderPolicy where
  | forward
  | drop
  deriving DecidableEq, Repr, Inhabited

namespace HeaderPolicy

def name : HeaderPolicy → String
  | .forward => "forward"
  | .drop => "drop"

def label : HeaderPolicy → String
  | .forward => "Forward"
  | .drop => "Drop"

end HeaderPolicy

structure PoolSettings where
  logLevel : Level
  maxConnections : Nat
  retryCount : Nat
  retryDelayMs : Nat
  acquireTimeoutMs : Nat
  sizePolicy : SizePolicy
  breakerThreshold : Nat
  breakerCooldownMs : Nat
  headerPolicy : HeaderPolicy
  maxMessagesPerSecond : Nat
  maxMessageSizeKb : Nat
  deriving DecidableEq, Repr, Inhabited

namespace PoolSettings

def standard : PoolSettings where
  logLevel := .info
  maxConnections := 5
  retryCount := 3
  retryDelayMs := 500
  acquireTimeoutMs := 30000
  sizePolicy := .capped
  breakerThreshold := 5
  breakerCooldownMs := 30000
  headerPolicy := .forward
  maxMessagesPerSecond := 0
  maxMessageSizeKb := 0

def poolPolicy (s : PoolSettings) : PoolPolicy :=
  { PoolPolicy.standard with
    maxSize := s.maxConnections
    sizePolicy := s.sizePolicy
    acquireTimeout := .ofMillis s.acquireTimeoutMs }

/-- Used for connecting and for publishing alike. The count is that of all attempts. -/
def pipelinePolicy (s : PoolSettings) : PipelinePolicy where
  retry := .fixed (s.retryCount - 1) (.ofMillis s.retryDelayMs)
  breaker := { threshold := s.breakerThreshold, cooldown := .ofMillis s.breakerCooldownMs }

def bucket (s : PoolSettings) : Except BrokerError (Option Bucket) :=
  if s.maxMessagesPerSecond = 0 then .ok none
  else
    match Bucket.perSecond s.maxMessagesPerSecond with
    | .ok bucket => .ok bucket
    | .error failure => .error (.config ("invalid rate limit: " ++ failure.message))

/-- Bytes above which a payload is warned about. -/
def maxMessageSize (s : PoolSettings) : Option Nat :=
  if s.maxMessageSizeKb = 0 ∨ s.maxMessageSizeKb * 1024 ≥ twoTo 64 then none
  else some (s.maxMessageSizeKb * 1024)

def validate (s : PoolSettings) (heading : String) : Except BrokerError Unit :=
  if s.maxConnections = 0 then
    .error (.config s!"[{heading}] max_connections must be at least 1")
  else if s.maxConnections > Slots.limit then
    .error (.config s!"[{heading}] max_connections must be at most {Slots.limit}")
  else if s.breakerThreshold = 0 then
    .error (.config s!"[{heading}] breaker_failure_threshold must be at least 1")
  else .ok ()

end PoolSettings

structure PublisherOptions where
  defaultDestination : Destination
  headerPolicy : HeaderPolicy
  maxMessageSize : Option Nat
  deriving DecidableEq, Repr, Inhabited

namespace PublisherOptions

def ofSettings (defaultDestination : Destination) (settings : PoolSettings) : PublisherOptions where
  defaultDestination
  headerPolicy := settings.headerPolicy
  maxMessageSize := settings.maxMessageSize

def describe (options : PublisherOptions) : String :=
  let size : Option Nat → String
    | none => "None"
    | some n => s!"Some({n})"
  let destination := options.defaultDestination
  "PublisherOptions \x7b default_destination: " ++
    s!"Destination \x7b exchange: {Text.quote destination.exchange}, " ++
    s!"routing_key: {Text.quote destination.routingKey} \x7d, " ++
    s!"header_policy: {options.headerPolicy.label}, " ++
    s!"max_message_size: {size options.maxMessageSize} \x7d"

end PublisherOptions

def requireText (heading key value : String) : Except BrokerError Unit :=
  if Text.isBlankText value then .error (.config s!"[{heading}] {key} must not be empty") else .ok ()

structure AmqpSettings where
  host : String
  port : Nat
  virtualHost : String
  username : String
  password : String
  exchange : String
  routingKey : String
  queue : String
  connectionName : String
  publisherConfirms : Bool
  confirmTimeoutMs : Nat
  pool : PoolSettings
  deriving DecidableEq, Repr, Inhabited

namespace AmqpSettings

def standard : AmqpSettings where
  host := "localhost"
  port := 5672
  virtualHost := "/"
  username := "guest"
  password := "guest"
  exchange := ""
  routingKey := ""
  queue := ""
  connectionName := "courier"
  publisherConfirms := false
  confirmTimeoutMs := 5000
  pool := .standard

/-- The virtual host as one part of a path: no slash in front, every other slash escaped. -/
def pathPart (virtualHost : String) : String :=
  if virtualHost = "" ∨ virtualHost = "/" then "%2f"
  else
    String.ofList ((virtualHost.toList.dropWhile (· == '/')).flatMap fun c =>
      if c = '/' then ['%', '2', 'f'] else [c])

def uri (s : AmqpSettings) : String :=
  s!"amqp://{s.username}:{s.password}@{s.host}:{s.port}/{pathPart s.virtualHost}"

def endpoint (s : AmqpSettings) : String := s!"{s.host}:{s.port}{s.virtualHost}"

def destination (s : AmqpSettings) : Destination := ⟨s.exchange, s.routingKey⟩

def confirmTimeout (s : AmqpSettings) : Duration := .ofMillis s.confirmTimeoutMs

def validate (s : AmqpSettings) : Except BrokerError Unit := do
  requireText "amqp" "host" s.host
  s.pool.validate "amqp"

end AmqpSettings

structure SocketSettings where
  endpoint : String
  topic : String
  pool : PoolSettings
  deriving DecidableEq, Repr, Inhabited

namespace SocketSettings

def standard : SocketSettings where
  endpoint := "tcp://127.0.0.1:5556"
  topic := ""
  pool := .standard

def destination (s : SocketSettings) : Destination := .topic s.topic

def validate (s : SocketSettings) : Except BrokerError Unit := do
  requireText "socket" "endpoint" s.endpoint
  s.pool.validate "socket"

end SocketSettings

structure LogSettings where
  bootstrapServers : String
  clientId : String
  topic : String
  tag : String
  groupId : String
  sendTimeoutMs : Nat
  pool : PoolSettings
  deriving DecidableEq, Repr, Inhabited

namespace LogSettings

def standard : LogSettings where
  bootstrapServers := "localhost:9092"
  clientId := "courier"
  topic := ""
  tag := ""
  groupId := "courier"
  sendTimeoutMs := 3000
  pool := .standard

/-- The tag is the record key; without one the topic is. -/
def destination (s : LogSettings) : Destination := ⟨s.topic, if s.tag.isEmpty then s.topic else s.tag⟩

def sendTimeout (s : LogSettings) : Duration := .ofMillis s.sendTimeoutMs

def validate (s : LogSettings) : Except BrokerError Unit := do
  requireText "log" "bootstrap_servers" s.bootstrapServers
  s.pool.validate "log"

end LogSettings

structure MqttSettings where
  host : String
  port : Nat
  clientId : String
  cleanSession : Bool
  username : String
  password : String
  topic : String
  qos : Nat
  retain : Bool
  keepAliveSecs : Nat
  pool : PoolSettings
  deriving DecidableEq, Repr, Inhabited

namespace MqttSettings

def standard : MqttSettings where
  host := "localhost"
  port := 1883
  clientId := "courier"
  cleanSession := true
  username := "guest"
  password := "guest"
  topic := ""
  qos := 1
  retain := false
  keepAliveSecs := 30
  pool := .standard

def endpoint (s : MqttSettings) : String := s!"{s.host}:{s.port}"

def destination (s : MqttSettings) : Destination := .topic s.topic

def keepAlive (s : MqttSettings) : Duration := .ofSeconds s.keepAliveSecs

/-- The client id of one session: the configured id, the process and the number of the session in it. -/
def sessionClientId (s : MqttSettings) (process : String) (session : UInt64) : String :=
  s!"{s.clientId}-{process}-{session}"

def validate (s : MqttSettings) : Except BrokerError Unit := do
  requireText "mqtt" "host" s.host
  if s.qos > 2 then .error (.config s!"[mqtt] qos must be 0, 1 or 2, got {s.qos}")
  s.pool.validate "mqtt"

end MqttSettings

inductive BackendSettings where
  | amqp (settings : AmqpSettings)
  | socket (settings : SocketSettings)
  | log (settings : LogSettings)
  | mqtt (settings : MqttSettings)
  deriving DecidableEq, Repr, Inhabited

namespace BackendSettings

def backend : BackendSettings → Backend
  | .amqp _ => .amqp
  | .socket _ => .socket
  | .log _ => .log
  | .mqtt _ => .mqtt

def pool : BackendSettings → PoolSettings
  | .amqp s => s.pool
  | .socket s => s.pool
  | .log s => s.pool
  | .mqtt s => s.pool

def endpoint : BackendSettings → String
  | .amqp s => s.endpoint
  | .socket s => s.endpoint
  | .log s => s.bootstrapServers
  | .mqtt s => s.endpoint

def destination : BackendSettings → Destination
  | .amqp s => s.destination
  | .socket s => s.destination
  | .log s => s.destination
  | .mqtt s => s.destination

/-- The queue or topic that a consumer reads unless told otherwise. -/
def source : BackendSettings → String
  | .amqp s => s.queue
  | .socket s => s.topic
  | .log s => s.topic
  | .mqtt s => s.topic

def validate : BackendSettings → Except BrokerError Unit
  | .amqp s => s.validate
  | .socket s => s.validate
  | .log s => s.validate
  | .mqtt s => s.validate

end BackendSettings

structure LoggingSettings where
  level : Level
  file : Option String
  verbose : Bool
  deriving DecidableEq, Repr, Inhabited

def LoggingSettings.standard : LoggingSettings := { level := .info, file := none, verbose := false }

structure Configuration where
  logging : LoggingSettings
  amqp : Option AmqpSettings
  socket : Option SocketSettings
  log : Option LogSettings
  mqtt : Option MqttSettings
  deriving DecidableEq, Repr, Inhabited

namespace Configuration

def standard : Configuration where
  logging := .standard
  amqp := none
  socket := none
  log := none
  mqtt := none

def validate (c : Configuration) : Except BrokerError Unit := do
  c.amqp.forM AmqpSettings.validate
  c.socket.forM SocketSettings.validate
  c.log.forM LogSettings.validate
  c.mqtt.forM MqttSettings.validate

def backends (c : Configuration) : List Backend :=
  (if c.amqp.isSome then [.amqp] else []) ++ (if c.socket.isSome then [.socket] else []) ++
    (if c.log.isSome then [.log] else []) ++ (if c.mqtt.isSome then [.mqtt] else [])

end Configuration

end Dispatch
