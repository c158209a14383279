import Dispatch.Consume
import Dispatch.Health
import Dispatch.Publish
import Dispatch.Schedule

/-!
# Registries

A registry wires adapters and finds them by name. Adapters live in a list and are known by their place
in it; `names` maps registered names to places, sorted. A `Call` belongs to the adapter at one place, so
`step` hands it that adapter and what adapters share, and puts both back: no call touches another
adapter.
-/

set_option autoImplicit false

namespace Dispatch

structure Registry (ε ρ σ κ : Type) where
  adapters : List (Adapter ε ρ σ κ)
  names : List (String × Nat)
  shared : Shared ε

def Backend.clientName : Backend → String
  | .amqp => "amqp-lapin"
  | .socket => "socket-zeromq"
  | .log => "log-kafka"
  | .mqtt => "mqtt-rumqttc"

namespace BrokerError

def missingClient (backend : Backend) : BrokerError :=
  .unsupported backend s!"connecting (built without the `{backend.clientName}` feature)"

def unknownName (name : String) : BrokerError := .config s!"no broker named '{name}' is registered"

def takenName (name : String) : BrokerError :=
  .config s!"a broker named '{name}' is already registered"

end BrokerError

namespace Registry

variable {ε ρ σ κ η : Type}

def new (shared : Shared ε) : Registry ε ρ σ κ := { adapters := [], names := [], shared }

/-! ## Composition -/

/-- Wires an adapter and tells its place. Its metrics begin even where its bucket cannot be made. -/
def add (r : Registry ε ρ σ κ) (name : String) (transport : Transport ε ρ σ κ)
    (settings : PoolSettings) (destination : Destination) (source : String) :
    Except BrokerError Nat × Registry ε ρ σ κ :=
  let key : MetricsKey := { backend := transport.kind.name, pool := name }
  let r := { r with shared := { r.shared with metrics := r.shared.metrics.enlist key } }
  match settings.bucket with
  | .error error => (.error error, r)
  | .ok bucket =>
    let adapter := Adapter.new name transport settings destination source bucket
    (.ok r.adapters.length, { r with adapters := r.adapters ++ [adapter] })

/-- What a consumer registered with these settings reads: for AMQP the routing key stands in for a queue
that is not named. -/
def defaultSource : BackendSettings → String
  | .amqp settings => if settings.queue.isEmpty then settings.routingKey else settings.queue
  | settings => settings.source

/-- Validates settings and registers an adapter made of them. -/
def register (r : Registry ε ρ σ κ) (connector : Connector ε ρ σ κ) (name : String)
    (settings : BackendSettings) : Except BrokerError Nat × Registry ε ρ σ κ :=
  match settings.validate with
  | .error error => (.error error, r)
  | .ok () =>
    if (r.names.lookup name).isSome then (.error (.takenName name), r)
    else
      let transport := Transport.ofSettings connector settings
      match r.add name transport settings.pool settings.destination (defaultSource settings) with
      | (.error error, r) => (.error error, r)
      | (.ok place, r) =>
        let event : Event :=
          { level := .info
            message := "broker registered"
            fields := [("name", name), ("backend", settings.backend.name),
              ("endpoint", settings.endpoint),
              ("max_connections", toString settings.pool.maxConnections)] }
        (.ok place,
          { r with names := insertSorted name place r.names, shared := r.shared.report [event] })

def sections (c : Configuration) : List BackendSettings :=
  (c.amqp.map BackendSettings.amqp).toList ++ (c.socket.map BackendSettings.socket).toList ++
    (c.log.map BackendSettings.log).toList ++ (c.mqtt.map BackendSettings.mqtt).toList

def connectSections (clients : Backend → Option (Connector ε ρ σ κ)) (r : Registry ε ρ σ κ) :
    List BackendSettings → Except BrokerError (Registry ε ρ σ κ)
  | [] => .ok r
  | settings :: rest =>
    match clients settings.backend with
    | none => .error (.missingClient settings.backend)
    | some connector =>
      match r.register connector settings.backend.name settings with
      | (.error error, _) => .error error
      | (.ok _, r) => connectSections clients r rest

/-- Registers one adapter for each section, named after its backend. -/
def ofConfiguration (clients : Backend → Option (Connector ε ρ σ κ)) (shared : Shared ε)
    (c : Configuration) : Except BrokerError (Registry ε ρ σ κ) :=
  match c.validate with
  | .error error => .error error
  | .ok () => connectSections clients (.new shared) (sections c)

/-! ## Readings -/

def find (r : Registry ε ρ σ κ) (name : String) : Except BrokerError Nat :=
  match r.names.lookup name with
  | some place => .ok place
  | none => .error (.unknownName name)

def describeAdapter (name : String) (a : Adapter ε ρ σ κ) : String :=
  s!"RegisteredBroker \x7b name: {Text.quote name}, kind: {a.backend.label}, " ++
    s!"endpoint: {Text.quote a.transport.endpoint}, pool: {a.pool.stats.describe} \x7d"

def describe (r : Registry ε ρ σ κ) : String :=
  let brokers := r.names.filterMap fun (name, place) =>
    (r.adapters[place]?).map (describeAdapter name)
  "BrokerRegistry \x7b brokers: [" ++ ", ".intercalate brokers ++ "] \x7d"

/-! ## Changes -/

def change (r : Registry ε ρ σ κ) (place : Nat)
    (f : Adapter ε ρ σ κ → Shared ε → Adapter ε ρ σ κ × Shared ε) : Registry ε ρ σ κ :=
  match r.adapters[place]? with
  | none => r
  | some adapter =>
    let (adapter, shared) := f adapter r.shared
    { r with adapters := r.adapters.set place adapter, shared }

def shutdown (r : Registry ε ρ σ κ) : Registry ε ρ σ κ :=
  let r := r.names.foldl (fun r entry => r.change entry.2 Adapter.shutdown) r
  let event : Event :=
    { level := .info, message := "broker registry shut down"
      fields := [("brokers", toString r.names.length)] }
  { r with shared := r.shared.report [event] }

end Registry

/-! ## Calls -/

inductive Call (ε ρ σ κ η : Type) where
  | publishing (place : Nat) (message : Outgoing) (progress : Publishing ρ κ)
  | checking (place : Nat) (progress : Checking ρ κ)
  | consuming (place : Nat) (source : String) (handler : Handler ε η)
      (progress : Consuming ρ σ κ η)
  /-- Pings the adapters that are left one after the other. -/
  | checkingAll (checked : List (String × Except BrokerError Unit)) (progress : Checking ρ κ)
      (left : List (String × Nat))

inductive Reply where
  | published (result : Except BrokerError Receipt)
  | checked (result : Except BrokerError Unit)
  | consumed (result : Except BrokerError ConsumeSummary)
  | checkedAll (results : List (String × Except BrokerError Unit))
  | abandoned

namespace Call

variable {ε ρ σ κ η : Type}

def checkAll (r : Registry ε ρ σ κ) : Call ε ρ σ κ η := .checkingAll [] .start r.names

def step (r : Registry ε ρ σ κ) (now : Instant) (cancelled : Bool) :
    Call ε ρ σ κ η → Turn (Call ε ρ σ κ η) Reply × Registry ε ρ σ κ
  | .publishing place message progress =>
    match r.adapters[place]? with
    | none => (.finished .abandoned, r)
    | some adapter =>
      let next := progress.step adapter r.shared message now cancelled
      (next.turn.lift (.publishing place message) fun result => .finished (.published result),
        { r with adapters := r.adapters.set place next.adapter, shared := next.shared })
  | .checking place progress =>
    match r.adapters[place]? with
    | none => (.finished .abandoned, r)
    | some adapter =>
      let next := progress.step adapter r.shared now cancelled
      (next.turn.lift (.checking place) fun result => .finished (.checked result),
        { r with adapters := r.adapters.set place next.adapter, shared := next.shared })
  | .consuming place source handler progress =>
    match r.adapters[place]? with
    | none => (.finished .abandoned, r)
    | some adapter =>
      let next := progress.step adapter r.shared source handler now cancelled
      (next.turn.lift (.consuming place source handler) fun result => .finished (.consumed result),
        { r with adapters := r.adapters.set place next.adapter, shared := next.shared })
  | .checkingAll checked _ [] => (.finished (.checkedAll checked), r)
  | .checkingAll checked progress ((name, place) :: left) =>
    match r.adapters[place]? with
    | none => (.moved (.checkingAll checked .start left), r)
    | some adapter =>
      let next := progress.step adapter r.shared now cancelled
      (next.turn.lift (fun progress => .checkingAll checked progress ((name, place) :: left))
          fun result => .moved (.checkingAll (checked ++ [(name, result)]) .start left),
        { r with adapters := r.adapters.set place next.adapter, shared := next.shared })

def abandon (r : Registry ε ρ σ κ) (now : Instant) : Call ε ρ σ κ η → Registry ε ρ σ κ
  | .publishing place _ progress => r.change place fun a s => progress.abandon a s now
  | .checking place progress => r.change place fun a s => progress.abandon a s now
  | .consuming place source handler progress =>
    r.change place fun a s => progress.abandon a s source handler
  | .checkingAll _ _ [] => r
  | .checkingAll _ progress ((_, place) :: _) => r.change place fun a s => progress.abandon a s now

end Call

def Registry.machine (ε ρ σ κ η : Type) : Machine (Registry ε ρ σ κ) (Call ε ρ σ κ η) Reply where
  step now cancelled r call := call.step r now cancelled
  abandon now r call := (.abandoned, call.abandon r now)

end Dispatch
