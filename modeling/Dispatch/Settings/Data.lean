import Dispatch.Settings.Basic
import Dispatch.Toml.Document
import Dispatch.Toml.Writer

/-!
# Settings as data and as text

Settings are read from data, where a missing key takes its default, an unknown key is passed over and a
value of another type or out of range is refused. `fields` lists the keys of a section in order, its own
first and the pool's last; the JSON and the TOML of a section are both made from it.
-/

set_option autoImplicit false

namespace Dispatch

namespace Settings

/-! ## Reading -/

/-- Where data is read from: a JSON value, a TOML document, or what a section has kept of its keys until
it is asked for those of the pool. -/
inductive Origin where
  | json
  | toml
  | kept
  deriving DecidableEq, Repr

/-- Whether something counts as nothing under the name of a choice. -/
def Origin.isNothing : Origin → Tree → Bool
  | .json, .nothing => true
  | .toml, .record [] => true
  | .toml, .list [] => true
  | .kept, .nothing => true
  | .kept, .record [] => true
  | _, _ => false

def text? : Tree → Option String
  | .text text => some text
  | _ => none

def truth? : Tree → Option Bool
  | .truth b => some b
  | _ => none

def natural? (bits : Nat) : Tree → Option Nat
  | .whole n => if 0 ≤ n ∧ n.toNat < twoTo bits then some n.toNat else none
  | _ => none

/-- One of several names; it may stand as the only key of a record, with nothing as its value. -/
def choice? {α : Type} (origin : Origin) (choices : List (String × α)) : Tree → Option α
  | .text name => choices.lookup name
  | .record [(name, value)] => if origin.isNothing value then choices.lookup name else none
  | _ => none

def optional? {α : Type} (read : Tree → Option α) : Tree → Option (Option α)
  | .nothing => some none
  | data => (read data).map some

def level? (origin : Origin) : Tree → Option Level :=
  choice? origin (Level.all.map fun level => (level.name, level))

def sizePolicy? (origin : Origin) : Tree → Option SizePolicy :=
  choice? origin ([.capped, .advisory].map fun policy => (policy.name, policy))

def headerPolicy? (origin : Origin) : Tree → Option HeaderPolicy :=
  choice? origin ([.forward, .drop].map fun policy => (policy.name, policy))

def setting {α : Type} (fields : List (String × Tree)) (key : String) (fallback : α)
    (read : Tree → Option α) : Option α :=
  match fields.lookup key with
  | none => some fallback
  | some data => read data

/-- The keys of a section that keeps those which are not its own, in case they are the pool's. -/
def section? (own : List String) : Tree → Option (List (String × Tree))
  | .record fields =>
    if fields.all fun field => own.contains field.1 || field.2.isKeepable then some fields else none
  | _ => none

/-- A record whose members may also be listed in order; what follows them in a document is not looked
at. Members under other keys are looked at and passed over. -/
def listed? (origin : Origin) (keys : List String) : Tree → Option (List (String × Tree))
  | .record fields =>
    if fields.all fun field => keys.contains field.1 || field.2.isReadable then some fields else none
  | .list elements =>
    if origin = .toml ∨ elements.length ≤ keys.length then some (keys.zip elements) else none
  | _ => none

end Settings

open Settings

namespace PoolSettings

/-- Reads the keys of the pool among the keys of a section. -/
def ofFields (origin : Origin) (fields : List (String × Tree)) : Option PoolSettings := do
  let base := standard
  return {
    logLevel := ← setting fields "log_level" base.logLevel (level? origin)
    maxConnections := ← setting fields "max_connections" base.maxConnections (natural? 64)
    retryCount := ← setting fields "retry_count" base.retryCount (natural? 32)
    retryDelayMs := ← setting fields "retry_delay_ms" base.retryDelayMs (natural? 64)
    acquireTimeoutMs := ← setting fields "acquire_timeout_ms" base.acquireTimeoutMs (natural? 64)
    sizePolicy := ← setting fields "size_policy" base.sizePolicy (sizePolicy? origin)
    breakerThreshold := ← setting fields "breaker_failure_threshold" base.breakerThreshold (natural? 32)
    breakerCooldownMs := ← setting fields "breaker_cooldown_ms" base.breakerCooldownMs (natural? 64)
    headerPolicy := ← setting fields "header_policy" base.headerPolicy (headerPolicy? origin)
    maxMessagesPerSecond :=
      ← setting fields "max_messages_per_second" base.maxMessagesPerSecond (natural? 32)
    maxMessageSizeKb := ← setting fields "max_message_size_kb" base.maxMessageSizeKb (natural? 64) }

def fields (s : PoolSettings) : List (String × Toml.Value) :=
  [("log_level", .string s.logLevel.name),
    ("max_connections", .integer s.maxConnections),
    ("retry_count", .integer s.retryCount),
    ("retry_delay_ms", .integer s.retryDelayMs),
    ("acquire_timeout_ms", .integer s.acquireTimeoutMs),
    ("size_policy", .string s.sizePolicy.name),
    ("breaker_failure_threshold", .integer s.breakerThreshold),
    ("breaker_cooldown_ms", .integer s.breakerCooldownMs),
    ("header_policy", .string s.headerPolicy.name),
    ("max_messages_per_second", .integer s.maxMessagesPerSecond),
    ("max_message_size_kb", .integer s.maxMessageSizeKb)]

def ofData (data : Json) : Option PoolSettings := do
  ofFields .json (← listed? .json (standard.fields.map Prod.fst) (.ofJson data))

end PoolSettings

namespace AmqpSettings

def ownKeys : List String :=
  ["host", "port", "virtual_host", "username", "password", "exchange", "routing_key", "queue",
    "connection_name", "publisher_confirms", "confirm_timeout_ms"]

def ofTree (data : Tree) : Option AmqpSettings := do
  let fields ← section? ownKeys data
  let base := standard
  return {
    host := ← setting fields "host" base.host text?
    port := ← setting fields "port" base.port (natural? 16)
    virtualHost := ← setting fields "virtual_host" base.virtualHost text?
    username := ← setting fields "username" base.username text?
    password := ← setting fields "password" base.password text?
    exchange := ← setting fields "exchange" base.exchange text?
    routingKey := ← setting fields "routing_key" base.routingKey text?
    queue := ← setting fields "queue" base.queue text?
    connectionName := ← setting fields "connection_name" base.connectionName text?
    publisherConfirms := ← setting fields "publisher_confirms" base.publisherConfirms truth?
    confirmTimeoutMs := ← setting fields "confirm_timeout_ms" base.confirmTimeoutMs (natural? 64)
    pool := ← PoolSettings.ofFields .kept fields }

def fields (s : AmqpSettings) : List (String × Toml.Value) :=
  [("host", .string s.host),
    ("port", .integer s.port),
    ("virtual_host", .string s.virtualHost),
    ("username", .string s.username),
    ("password", .string s.password),
    ("exchange", .string s.exchange),
    ("routing_key", .string s.routingKey),
    ("queue", .string s.queue),
    ("connection_name", .string s.connectionName),
    ("publisher_confirms", .boolean s.publisherConfirms),
    ("confirm_timeout_ms", .integer s.confirmTimeoutMs)] ++ s.pool.fields

end AmqpSettings

namespace SocketSettings

def ownKeys : List String :=
  ["endpoint", "topic"]

def ofTree (data : Tree) : Option SocketSettings := do
  let fields ← section? ownKeys data
  let base := standard
  return {
    endpoint := ← setting fields "endpoint" base.endpoint text?
    topic := ← setting fields "topic" base.topic text?
    pool := ← PoolSettings.ofFields .kept fields }

def fields (s : SocketSettings) : List (String × Toml.Value) :=
  [("endpoint", .string s.endpoint), ("topic", .string s.topic)] ++ s.pool.fields

end SocketSettings

namespace LogSettings

def ownKeys : List String :=
  ["bootstrap_servers", "client_id", "topic", "tag", "group_id", "send_timeout_ms"]

def ofTree (data : Tree) : Option LogSettings := do
  let fields ← section? ownKeys data
  let base := standard
  return {
    bootstrapServers := ← setting fields "bootstrap_servers" base.bootstrapServers text?
    clientId := ← setting fields "client_id" base.clientId text?
    topic := ← setting fields "topic" base.topic text?
    tag := ← setting fields "tag" base.tag text?
    groupId := ← setting fields "group_id" base.groupId text?
    sendTimeoutMs := ← setting fields "send_timeout_ms" base.sendTimeoutMs (natural? 64)
    pool := ← PoolSettings.ofFields .kept fields }

def fields (s : LogSettings) : List (String × Toml.Value) :=
  [("bootstrap_servers", .string s.bootstrapServers),
    ("client_id", .string s.clientId),
    ("topic", .string s.topic),
    ("tag", .string s.tag),
    ("group_id", .string s.groupId),
    ("send_timeout_ms", .integer s.sendTimeoutMs)] ++ s.pool.fields

end LogSettings

namespace MqttSettings

def ownKeys : List String :=
  ["host", "port", "client_id", "clean_session", "username", "password", "topic", "qos", "retain",
    "keep_alive_secs"]

def ofTree (data : Tree) : Option MqttSettings := do
  let fields ← section? ownKeys data
  let base := standard
  return {
    host := ← setting fields "host" base.host text?
    port := ← setting fields "port" base.port (natural? 16)
    clientId := ← setting fields "client_id" base.clientId text?
    cleanSession := ← setting fields "clean_session" base.cleanSession truth?
    username := ← setting fields "username" base.username text?
    password := ← setting fields "password" base.password text?
    topic := ← setting fields "topic" base.topic text?
    qos := ← setting fields "qos" base.qos (natural? 8)
    retain := ← setting fields "retain" base.retain truth?
    keepAliveSecs := ← setting fields "keep_alive_secs" base.keepAliveSecs (natural? 64)
    pool := ← PoolSettings.ofFields .kept fields }

def fields (s : MqttSettings) : List (String × Toml.Value) :=
  [("host", .string s.host),
    ("port", .integer s.port),
    ("client_id", .string s.clientId),
    ("clean_session", .boolean s.cleanSession),
    ("username", .string s.username),
    ("password", .string s.password),
    ("topic", .string s.topic),
    ("qos", .integer s.qos),
    ("retain", .boolean s.retain),
    ("keep_alive_secs", .integer s.keepAliveSecs)] ++ s.pool.fields

end MqttSettings

namespace LoggingSettings

def ofTree (origin : Origin) (data : Tree) : Option LoggingSettings := do
  let fields ← listed? origin ["log_level", "log_file", "verbose"] data
  return {
    level := ← setting fields "log_level" standard.level (level? origin)
    file := ← setting fields "log_file" standard.file (optional? text?)
    verbose := ← setting fields "verbose" standard.verbose truth? }

/-- The log file is left out where there is none. -/
def fields (s : LoggingSettings) : List (String × Toml.Value) :=
  ("log_level", .string s.level.name) ::
    ((s.file.toList.map fun file => ("log_file", .string file)) ++ [("verbose", .boolean s.verbose)])

end LoggingSettings

namespace Configuration

def ofTree (origin : Origin) (data : Tree) : Option Configuration := do
  let fields ← listed? origin ["logging", "amqp", "socket", "log", "mqtt"] data
  return {
    logging := ← setting fields "logging" .standard (LoggingSettings.ofTree origin)
    amqp := ← setting fields "amqp" none (optional? AmqpSettings.ofTree)
    socket := ← setting fields "socket" none (optional? SocketSettings.ofTree)
    log := ← setting fields "log" none (optional? LogSettings.ofTree)
    mqtt := ← setting fields "mqtt" none (optional? MqttSettings.ofTree) }

def ofData (data : Json) : Option Configuration := ofTree .json (.ofJson data)

def ofToml (text : String) : Except BrokerError Configuration :=
  match (Toml.tree? text).bind (ofTree .toml) with
  | none => .error (.config "invalid configuration:")
  | some configuration => do
    configuration.validate
    return configuration

def tables (c : Configuration) : List Toml.Writer.Table :=
  ⟨"logging", c.logging.fields⟩ ::
    ((c.amqp.toList.map fun s => ⟨"amqp", s.fields⟩) ++
      (c.socket.toList.map fun s => ⟨"socket", s.fields⟩) ++
      (c.log.toList.map fun s => ⟨"log", s.fields⟩) ++
      (c.mqtt.toList.map fun s => ⟨"mqtt", s.fields⟩))

def toToml (c : Configuration) : String := Toml.Writer.document c.tables

/-- A file's bytes, or why they cannot be read, as a configuration; `file` is how the file is called in
a failure. -/
def ofFile (file : String) (contents : Except String Bytes) : Except BrokerError Configuration :=
  match contents.map Bytes.decode? with
  | .error reason => .error (.config s!"failed to read {file}: {reason}")
  | .ok none => .error (.config s!"failed to read {file}: stream did not contain valid UTF-8")
  | .ok (some text) => ofToml text

end Configuration

namespace Settings

def scalarData : Toml.Value → Json
  | .string text => .string text
  | .integer n => .integer n
  | .boolean b => .bool b
  | _ => .null

def sectionData (fields : List (String × Toml.Value)) : Json :=
  .object (fields.map fun field => (field.1, scalarData field.2))

end Settings

def PoolSettings.toData (s : PoolSettings) : Json := sectionData s.fields

namespace BackendSettings

def ofData (backend : Backend) (data : Json) : Option BackendSettings :=
  match backend with
  | .amqp => (AmqpSettings.ofTree (.ofJson data)).map .amqp
  | .socket => (SocketSettings.ofTree (.ofJson data)).map .socket
  | .log => (LogSettings.ofTree (.ofJson data)).map .log
  | .mqtt => (MqttSettings.ofTree (.ofJson data)).map .mqtt

def toData : BackendSettings → Json
  | .amqp s => sectionData s.fields
  | .socket s => sectionData s.fields
  | .log s => sectionData s.fields
  | .mqtt s => sectionData s.fields

end BackendSettings

def Configuration.toData (c : Configuration) : Json :=
  .object [
    ("logging", .object (("log_file", (c.logging.file.map Json.string).getD .null) ::
      c.logging.fields.map fun field => (field.1, scalarData field.2))),
    ("amqp", (c.amqp.map fun s => sectionData s.fields).getD .null),
    ("socket", (c.socket.map fun s => sectionData s.fields).getD .null),
    ("log", (c.log.map fun s => sectionData s.fields).getD .null),
    ("mqtt", (c.mqtt.map fun s => sectionData s.fields).getD .null)]

end Dispatch
