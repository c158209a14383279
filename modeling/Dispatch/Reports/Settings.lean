import Dispatch.Reports.Basic
import Dispatch.Settings.Data
import Dispatch.Text.Search

/-!
# Settings as reports

What follows from the settings of each section: addresses, destinations, time limits and the policies
derived from them, with the outcome of validation.
-/

set_option autoImplicit false

namespace Dispatch

namespace PublisherOptions

def toData (options : PublisherOptions) : Json :=
  .object [("default_destination", options.defaultDestination.toData),
    ("header_policy", .string options.headerPolicy.label),
    ("max_message_size", Json.option Json.ofNat options.maxMessageSize)]

end PublisherOptions

def PoolSettings.bucketData (s : PoolSettings) : Json :=
  match s.bucket with
  | .ok none => .null
  | .ok (some bucket) =>
    .object [("max_requests", .ofNat bucket.maxRequests), ("period_ns", Duration.toData bucket.period)]
  | .error error => error.toData

/-- What is derived from the settings that all sections share. -/
def PoolSettings.derivedData (s : PoolSettings) (destination : Destination) : Json :=
  .object [("pool", s.poolPolicy.toData), ("retry", s.pipelinePolicy.retry.toData),
    ("breaker", s.pipelinePolicy.breaker.toData), ("limiter", s.bucketData),
    ("max_message_size", Json.option Json.ofNat s.maxMessageSize),
    ("tracing_level", .string s.logLevel.label),
    ("options", (PublisherOptions.ofSettings destination s).toData)]

def hiddenPassword : String := "Password(***)"

/-- Whether a password happens to stand in the text that is shown for it; up to three bytes are too few
to tell. -/
def isGivenAway (password : String) : Bool :=
  3 < password.utf8ByteSize && Text.contains password hiddenPassword

namespace BackendSettings

/-- What sections of one kind report besides what all do. -/
def ownFields : BackendSettings → List (String × Json)
  | .amqp s =>
    [("uri", .string s.uri), ("endpoint", .string s.endpoint),
      ("confirm_timeout_ns", Duration.toData s.confirmTimeout),
      ("debug_leaks_password", .bool (isGivenAway s.password)), ("password_debug", .string hiddenPassword)]
  | .socket _ => []
  | .log s => [("send_timeout_ns", Duration.toData s.sendTimeout)]
  | .mqtt s =>
    [("endpoint", .string s.endpoint), ("keep_alive_ns", Duration.toData s.keepAlive),
      ("client_ids", .array ([0, 1].map fun n => .string (s.sessionClientId "PID" n)))]

def report (s : BackendSettings) : Json :=
  .object (s.ownFields ++
    [("destination", s.destination.toData), ("validate", BrokerError.statusData s.validate),
      ("derived", s.pool.derivedData s.destination)])

end BackendSettings

namespace Configuration

/-- Whether the rendered text reads back as the same configuration. -/
def roundTrips (c : Configuration) : Bool :=
  match ofToml c.toToml with
  | .ok again => again = c
  | .error _ => false

def report (c : Configuration) : List (String × Json) :=
  let section_ {α : Type} (wrap : α → BackendSettings) (settings : Option α) : Json :=
    Json.option (fun s => (wrap s).report) settings
  [("config", c.toData), ("validate", BrokerError.statusData c.validate),
    ("backends", .array (c.backends.map fun backend => .string backend.name)),
    ("amqp", section_ .amqp c.amqp), ("socket", section_ .socket c.socket),
    ("log", section_ .log c.log), ("mqtt", section_ .mqtt c.mqtt),
    ("rendered", .object [("toml", .string c.toToml), ("round_trips", .bool c.roundTrips)]),
    ("logging_level", .string c.logging.level.label)]

end Configuration

def standardFields : List (String × Json) :=
  [("retry", RetryPolicy.standard.toData), ("retry_none", RetryPolicy.none.toData),
    ("breaker", BreakerPolicy.standard.toData),
    ("pipeline_retry", PipelinePolicy.standard.retry.toData),
    ("pipeline_breaker", PipelinePolicy.standard.breaker.toData),
    ("breaker_state", (Breaker.new "" .standard).toData 0),
    ("pool", PoolPolicy.standard.toData), ("settings", PoolSettings.standard.toData),
    ("amqp", (BackendSettings.amqp .standard).toData),
    ("socket", (BackendSettings.socket .standard).toData),
    ("log", (BackendSettings.log .standard).toData),
    ("mqtt", (BackendSettings.mqtt .standard).toData),
    ("config", Configuration.standard.toData)]

end Dispatch
