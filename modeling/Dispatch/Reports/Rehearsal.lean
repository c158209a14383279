import Dispatch.Rehearsal.Attempts
import Dispatch.Rehearsal.Pooling
import Dispatch.Rehearsal.World
import Dispatch.Reports.Adapters

/-!
# Rehearsals as reports

What scripted calls, pools and brokers noted, in the order in which it happened.
-/

set_option autoImplicit false

namespace Dispatch.Rehearsal

def droppedData : Json := .string "dropped"

def lateFields : List (String × Json) := [("error", .string "hang")]

def resultData {α : Type} (value : α → Json) (ending : Ending α) : Json :=
  if ending.late then .object lateFields else value ending.result

def endingData {α : Type} (value : α → Json) (ending : Ending α) : Json :=
  .object [("r", resultData value ending), ("at", Instant.toData ending.instant)]

def guardedData (ending : Ending GuardedReport) : Json :=
  let report := ending.result
  let value (report : GuardedReport) : Json :=
    (report.result.map (Failure.resultData Json.ofNat)).getD droppedData
  .object ([("r", resultData value ending), ("calls", .ofNat report.calls),
    ("t", Instant.toData ending.instant)] ++ report.breaker.fields ending.instant)

def PoolNote.toData : PoolNote → Json
  | .create number => .array [.string "create", .ofNat number]
  | .close number => .array [.string "close", .ofNat number]
  | .opened => .array [.string "opened"]
  | .closed => .array [.string "closed"]
  | .sizes idle leased => .array [.string "sizes", .ofNat idle, .ofNat leased]

def leaseReportData (timed : Bool) (ending : Ending PoolReport) : Json :=
  let time (instant : Instant) : List (String × Json) :=
    if timed then [("at", Instant.toData instant)] else []
  if ending.late then .object (lateFields ++ time ending.instant)
  else
    match ending.result with
    | .abandoned => droppedData
    | .refused failure refusedAt => .object (failure.fields ++ time refusedAt)
    | .leased number _ acquiredAt => .object (("ok", .ofNat number) :: time acquiredAt)

def PoolBench.leaseData (b : PoolBench) (id : String) : Option Json :=
  (b.leases.lookup id).map fun lease =>
    .object [("conn", .ofNat lease.resource),
      ("healthy", .bool (b.rig.factory.isHealthy lease.resource)),
      ("age_ns", Duration.toData (lease.age b.stage.now)),
      ("debug", .string (b.rig.pool.describeLease lease b.stage.now))]

def PoolBench.poolData (b : PoolBench) : Json :=
  let pool := b.rig.pool
  .object [("pool", .string pool.describe), ("max_size", .ofNat pool.policy.maxSize),
    ("connect", .string pool.connect.name)]

/-! ## Scripted brokers -/

/-- A message sent on a handle of no particular kind. -/
def plainWireData : Wire → Json
  | .publication exchange routingKey properties body _ =>
    .array [(Destination.mk exchange routingKey).toData, Bytes.toData body,
      Headers.toData properties.headers, Json.optionalText properties.correlationId,
      Json.optionalText properties.messageId]
  | wire => wire.toData

def Noted.toData (noted : Noted) : Json :=
  let call (name : String) (details : List Json) : Json := .array (.string name :: details)
  match noted with
  | .opened .channel => call "open_channel" []
  | .opened (.publisher endpoint) => call "open_publisher" [.string endpoint]
  | .opened .producer => call "create_producer" []
  | .opened (.session options) => call "connect" [options.toData]
  | .listened (.queue source) | .listened (.log source) => call "open_consumer" [.string source]
  | .listened (.subscriber endpoint topic) =>
    call "open_subscriber" [.string endpoint, .string topic]
  | .listened (.filter options topic qos) =>
    call "subscribe" [options.toData, .string topic, .ofNat qos]
  | .confirmSelect handle => call "confirm_select" [.ofNat handle]
  | .sent handle wire => call "send" [.ofNat handle, wire.toData]
  | .closed handle => call "close" [.ofNat handle]
  | .ack => call "ack" []
  | .nack => call "nack" []
  | .connected => call "connect" []
  | .subscribed source => call "subscribe" [.string source]
  | .sentPlain handle wire => call "send" [.ofNat handle, plainWireData wire]

def Sighting.toData : Sighting → Json
  | .login user metadata =>
    .object [("user", .string user), ("topic", .string metadata.topic),
      ("headers", Headers.toData metadata.headers)]
  | .raw delivery => delivery.toData

def Answer.toData : Answer → Json
  | .reply outcome => outcome.toData
  | .refused error => error.toData
  | .transport result => TransportError.statusData result
  | .frames result => Json.result TransportError.toData Json.bool result
  | .unknown => .string "unknown"
  | .abandoned => droppedData

namespace World

/-- Everything that can be read of an adapter that is not registered. -/
def builtData (w : World) (now : Instant) (name : String) (verbose : Bool) : Json :=
  match w.adapterOf? name with
  | none => .null
  | some (_, adapter) => w.registry.adapterData adapter now verbose

/-- What is known of a handle outside any pool. -/
def handleData (w : World) (name id : String) : Option (List (String × Json)) := do
  let built ← w.builtAs? name
  let (_, adapter) ← w.adapterOf? name
  let handle ← w.handles.lookup (name, id)
  let usable : Json := .bool (adapter.transport.isUsable w.outside handle)
  return [("ping", TransportError.statusData (adapter.transport.ping w.outside handle)),
    ("usable", usable), ("open", usable),
    ("confirms", .bool (built.settings.any Transport.confirms))]

end World

end Dispatch.Rehearsal
