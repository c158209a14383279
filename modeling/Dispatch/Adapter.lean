import Dispatch.Metrics
import Dispatch.Pool.Acquisition
import Dispatch.Spans
import Dispatch.Transport

/-!
# Adapters

An adapter joins one transport with a pool of handles, a breaker for connecting and one for publishing,
an optional token bucket, and its metrics. What adapters share is in `Shared`: the surroundings, the
metrics and the spans. Every report of the pool is turned into calls of the transport, counts and
events by `absorb`, in order.
-/

set_option autoImplicit false

namespace Dispatch

structure Shared (ε : Type) where
  surroundings : Surroundings ε
  metrics : MetricsRegistry
  spans : SpanRecorder
  nextSpan : Nat
  deriving Repr, Inhabited

namespace Shared

variable {ε : Type}

def new (outside : ε) (process : String) : Shared ε where
  surroundings := .new outside process
  metrics := .empty
  spans := .empty
  nextSpan := 0

def report (s : Shared ε) (events : List Event) : Shared ε :=
  { s with surroundings := s.surroundings.report events }

def update (s : Shared ε) (f : ε → ε) : Shared ε :=
  { s with surroundings := s.surroundings.update f }

def count (s : Shared ε) (key : MetricsKey) (counter : Counter) : Shared ε :=
  { s with metrics := s.metrics.count key counter }

end Shared

structure Adapter (ε ρ σ κ : Type) where
  name : String
  transport : Transport ε ρ σ κ
  logLevel : Level
  options : PublisherOptions
  defaultSource : String
  publish : Pipeline
  pool : Pool ρ
  connectBreaker : Breaker
  publishBreaker : Breaker
  bucket : Option Bucket

namespace Adapter

variable {ε ρ σ κ : Type}

/-- Wires an adapter; the two pipelines have the same policy and breakers of their own. -/
def new (name : String) (transport : Transport ε ρ σ κ) (settings : PoolSettings)
    (destination : Destination) (source : String) (bucket : Option Bucket) : Adapter ε ρ σ κ :=
  let policy := settings.pipelinePolicy
  let connect := Pipeline.new transport.kind.name .connect policy.retry
  let publish := Pipeline.new transport.kind.name .publish policy.retry
  { name
    transport
    logLevel := settings.logLevel
    options := .ofSettings destination settings
    defaultSource := source
    publish
    pool := .new settings.poolPolicy connect
    connectBreaker := .new connect.name policy.breaker
    publishBreaker := .new publish.name policy.breaker
    bucket }

def key (a : Adapter ε ρ σ κ) : MetricsKey := { backend := a.transport.kind.name, pool := a.name }

def backend (a : Adapter ε ρ σ κ) : Backend := a.transport.kind

def connectionEvent (a : Adapter ε ρ σ κ) (message : String) : Event where
  level := a.logLevel
  message
  fields := [("backend", a.backend.name), ("endpoint", a.transport.endpoint)]

/-- Handles for the pool: made by connecting, healthy while usable. -/
def supply (a : Adapter ε ρ σ κ) : Supply (Surroundings ε) ρ (TransportCall ρ κ) where
  create :=
    { start := a.transport.connect.start
      step := fun now s call =>
        let (turn, s) := a.transport.connect.step now s call
        match turn with
        | .finished (.ok handle) =>
          (.finished (.ok handle), s.report [a.connectionEvent "connection opened"])
        | .finished (.error error) => (.finished (.error error.failure), s)
        | .moved call => (.moved call, s)
        | .blocked wake => (.blocked wake, s)
        | .overflowed => (.overflowed, s)
      abandon := a.transport.connect.abandon }
  healthy s handle := a.transport.isUsable s.outside handle

def absorbOne (a : Adapter ε ρ σ κ) (s : Shared ε) : PoolEvent ρ → Shared ε
  | .opened _ => s.count a.key .opened
  | .resized idle leased => { s with metrics := s.metrics.setSizes a.key idle leased }
  | .disposed handle =>
    (s.update (a.transport.close handle)).report [a.connectionEvent "connection closed"]
  | .closed => s.count a.key .closed
  | .reported event => s.report [event]

def absorb (a : Adapter ε ρ σ κ) (s : Shared ε) (events : List (PoolEvent ρ)) : Shared ε :=
  events.foldl (absorbOne a) s

def isUsable (a : Adapter ε ρ σ κ) (s : Shared ε) (handle : ρ) : Bool :=
  a.transport.isUsable s.surroundings.outside handle

def release (a : Adapter ε ρ σ κ) (s : Shared ε) (now : Instant) (lease : Lease ρ) :
    Adapter ε ρ σ κ × Shared ε :=
  let (pool, events) := a.pool.release (a.isUsable s) false now lease
  ({ a with pool }, a.absorb s events)

def closeIdle (a : Adapter ε ρ σ κ) (s : Shared ε) : Adapter ε ρ σ κ × Shared ε :=
  let (pool, events) := a.pool.closeIdle
  ({ a with pool }, a.absorb s events)

def shutdown (a : Adapter ε ρ σ κ) (s : Shared ε) : Adapter ε ρ σ κ × Shared ε :=
  let (pool, events) := a.pool.shutdown
  ({ a with pool }, a.absorb s events)

def reset (a : Adapter ε ρ σ κ) : Adapter ε ρ σ κ :=
  { a with connectBreaker := a.connectBreaker.reset, publishBreaker := a.publishBreaker.reset }

/-! ## Leasing -/

abbrev Leasing (ρ κ : Type) := Acquisition (TransportCall ρ κ)

def stepLease (a : Adapter ε ρ σ κ) (s : Shared ε) (now : Instant) (cancelled : Bool)
    (leasing : Leasing ρ κ) :
    Turn (Leasing ρ κ) (Except Failure (Lease ρ)) × Adapter ε ρ σ κ × Shared ε :=
  let next := leasing.step a.supply now cancelled a.pool a.connectBreaker s.surroundings
  (next.turn, { a with pool := next.pool, connectBreaker := next.breaker },
    a.absorb { s with surroundings := next.environment } next.events)

def abandonLease (a : Adapter ε ρ σ κ) (s : Shared ε) (leasing : Leasing ρ κ) :
    Adapter ε ρ σ κ × Shared ε :=
  let (pool, connectBreaker, surroundings) :=
    leasing.abandon a.supply a.pool a.connectBreaker s.surroundings
  ({ a with pool, connectBreaker }, { s with surroundings })

/-! ## Text -/

def describe (a : Adapter ε ρ σ κ) : String :=
  s!"UnifiedPublisher \x7b backend: {a.backend.label}, " ++
    s!"endpoint: {Text.quote a.transport.endpoint}, pool: {a.pool.stats.describe}, " ++
    s!"options: {a.options.describe} \x7d"

end Adapter

end Dispatch
