import Dispatch.MemoryBroker
import Dispatch.Registry
import Dispatch.Reports.Basic

/-!
# Adapters and brokers as reports

The outcomes of calls, the readings of adapters and registries, and what an in-process broker has seen.
-/

set_option autoImplicit false

namespace Dispatch

def Receipt.toData (r : Receipt) : Json :=
  .object [("backend", .string r.backend.name), ("destination", r.destination.toData),
    ("size", .ofNat r.size), ("headers_forwarded", .bool r.headersForwarded)]

def ConsumeSummary.toData (s : ConsumeSummary) : Json :=
  .object [("received", .ofNat s.received), ("handled", .ofNat s.handled),
    ("rejected", .ofNat s.rejected)]

def checkData : Except BrokerError Unit → Json := BrokerError.resultData fun _ => .null

def Reply.toData : Reply → Json
  | .published result => BrokerError.resultData Receipt.toData result
  | .checked result => checkData result
  | .consumed result => BrokerError.resultData ConsumeSummary.toData result
  | .checkedAll results =>
    .array (results.map fun (name, result) => .array [.string name, checkData result])
  | .abandoned => .string "dropped"

namespace Registry

variable {ε ρ σ κ : Type}

def namesData (r : Registry ε ρ σ κ) : Json :=
  .object [("names", .array (r.names.map fun entry => .string entry.1)),
    ("len", .ofNat r.names.length), ("is_empty", .bool r.names.isEmpty)]

def registeredData (r : Registry ε ρ σ κ) (name : String) (verbose : Bool) : Json :=
  match (r.find name).toOption.bind fun place => r.adapters[place]? with
  | none => .null
  | some a =>
    let kind : Json := .string a.backend.name
    .object [("name", .string name), ("kind", kind), ("endpoint", .string a.transport.endpoint),
      ("stats", a.pool.stats.toData), ("metrics", r.shared.metrics.toData a.key),
      ("producer", kind), ("consumer", kind), ("diagnostics_idle", .ofNat a.pool.stats.idle),
      ("debug", if verbose then .string (describeAdapter name a) else .null)]

def adapterData (r : Registry ε ρ σ κ) (a : Adapter ε ρ σ κ) (now : Instant) (verbose : Bool) :
    Json :=
  let kind : Json := .string a.backend.name
  .object [("stats", a.pool.stats.toData), ("metrics", r.shared.metrics.toData a.key),
    ("same_metrics", .bool true), ("kind", kind), ("backend", kind),
    ("connect", a.connectBreaker.toData now), ("publish", a.publishBreaker.toData now),
    ("publish_name", .string a.publish.name), ("connect_name", .string a.pool.connect.name),
    ("default_destination", a.options.defaultDestination.toData),
    ("default_source", .string a.defaultSource), ("endpoint", .string a.transport.endpoint),
    ("forwards_headers", .bool a.transport.forwardsHeaders),
    ("debug", if verbose then .string a.describe else .null)]

end Registry

/-! ## Brokers -/

def Frame.toData (f : Frame) : Json :=
  .object [("backend", .string f.backend.name), ("topic", .string f.topic), ("key", .string f.key),
    ("payload", Bytes.toData f.payload), ("headers", Headers.toData f.headers),
    ("correlation_id", Json.optionalText f.correlationId),
    ("message_id", Json.optionalText f.messageId),
    ("delivery_mode", Json.option Json.ofNat f.deliveryMode),
    ("qos", Json.option Json.ofNat f.qos), ("retain", .bool f.retain),
    ("connection", .ofNat f.connection)]

def MemoryBroker.toData (b : MemoryBroker) : Json :=
  .object [("frames", .ofNat b.frames.length), ("connect_attempts", .ofNat b.connectAttempts),
    ("connects", .ofNat b.connects), ("closed", .ofNat b.closed),
    ("confirm_selects", .ofNat b.confirmSelects), ("violations", .ofNat b.violations),
    ("acks", .ofNat b.acks), ("nacks", .ofNat b.nacks),
    ("client_ids", .array (b.clientIds.map Json.string)), ("debug", .string b.describe)]

def MqttSession.toData (s : MqttSession) : Json :=
  .array [.string s.host, .ofNat s.port, .string s.username, .string s.password,
    .bool s.cleanSession, Duration.toData s.keepAlive]

def Wire.toData : Wire → Json
  | .publication exchange routingKey properties body awaitConfirm =>
    .array [.string exchange, .string routingKey, properties.toData, Bytes.toData body,
      .bool awaitConfirm]
  | .frames parts => .array (parts.map Bytes.toData)
  | .record r timeout =>
    .array [.string r.topic, .string r.key, Bytes.toData r.payload, Headers.toData r.headers,
      Duration.toData timeout]
  | .packet p => .array [.string p.topic, Bytes.toData p.payload, .ofNat p.qos, .bool p.retain]

end Dispatch
