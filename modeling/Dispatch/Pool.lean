import Dispatch.Pipeline
import Dispatch.Pool.Slots
import Dispatch.Text.Quote

/-!
# Connection pools

A pool keeps idle resources as a stack and counts the leased ones. Every change of the two counts is
reported as `PoolEvent.resized`, every resource that comes to life as `opened`, and every one that
leaves as `disposed` and then `closed`. A resource goes back to the stack when its lease ends, if it is
healthy, not expired, the pool is open and there is room.
-/

set_option autoImplicit false

namespace Dispatch

/-- Whether the size limits leased resources or only idle ones. -/
inductive SizePolicy where
  | capped
  | advisory
  deriving DecidableEq, Repr, Inhabited

structure PoolPolicy where
  maxSize : Nat
  sizePolicy : SizePolicy
  acquireTimeout : Duration
  idleTimeout : Option Duration
  maxLifetime : Option Duration
  deriving DecidableEq, Repr, Inhabited

def PoolPolicy.standard : PoolPolicy where
  maxSize := 10
  sizePolicy := .capped
  acquireTimeout := .ofSeconds 30
  idleTimeout := some (.ofSeconds 300)
  maxLifetime := some (.ofSeconds 1800)

structure Pooled (ρ : Type) where
  resource : ρ
  createdAt : Instant
  lastUsed : Instant
  deriving DecidableEq, Repr, Inhabited

namespace Pooled

variable {ρ : Type}

def age (entry : Pooled ρ) (now : Instant) : Duration := now - entry.createdAt

def isExpired (entry : Pooled ρ) (policy : PoolPolicy) (now : Instant) : Bool :=
  policy.idleTimeout.any (fun limit => now - entry.lastUsed > limit) ||
    policy.maxLifetime.any (fun limit => now - entry.createdAt > limit)

end Pooled

inductive PoolEvent (ρ : Type) where
  | opened (resource : ρ)
  | resized (idle leased : Nat)
  | disposed (resource : ρ)
  | closed
  | reported (event : Event)
  deriving Repr

structure PoolStats where
  idle : Nat
  leased : Nat
  created : Nat
  closed : Nat
  maxSize : Nat
  deriving DecidableEq, Repr, Inhabited

namespace SizePolicy

def name : SizePolicy → String
  | .capped => "capped"
  | .advisory => "advisory"

def label : SizePolicy → String
  | .capped => "Capped"
  | .advisory => "Advisory"

end SizePolicy

namespace PoolPolicy

def describe (policy : PoolPolicy) : String :=
  let limit : Option Duration → String
    | none => "None"
    | some d => "Some(" ++ d.text ++ ")"
  s!"PoolConfig \x7b max_size: {policy.maxSize}, size_policy: {policy.sizePolicy.label}, " ++
    s!"acquire_timeout: {policy.acquireTimeout.text}, idle_timeout: {limit policy.idleTimeout}, " ++
    s!"max_lifetime: {limit policy.maxLifetime} \x7d"

end PoolPolicy

namespace PoolStats

/-- Leased resources as a percentage of the size. -/
def utilization (stats : PoolStats) : Binary64 :=
  if stats.maxSize = 0 then .ofNat 0
  else ((Binary64.ofNat stats.leased).div (.ofNat stats.maxSize)).mul (.ofNat 100)

def describe (stats : PoolStats) : String :=
  s!"PoolStats \x7b idle: {stats.idle}, leased: {stats.leased}, created: {stats.created}, " ++
    s!"closed: {stats.closed}, max_size: {stats.maxSize} \x7d"

end PoolStats

/-- `idle` has the resource returned last in front. `slots` is absent where the size is advisory. -/
structure Pool (ρ : Type) where
  policy : PoolPolicy
  connect : Pipeline
  idle : List (Pooled ρ)
  leased : Nat
  created : Nat
  closed : Nat
  shutDown : Bool
  slots : Option Slots
  deriving Repr, Inhabited

/-- Exclusive ownership of one resource of a pool, and of one slot where the pool is capped. -/
abbrev Lease (ρ : Type) := Pooled ρ

namespace Pool

variable {ρ : Type}

def new (policy : PoolPolicy) (connect : Pipeline) : Pool ρ where
  policy
  connect
  idle := []
  leased := 0
  created := 0
  closed := 0
  shutDown := false
  slots :=
    match policy.sizePolicy with
    | .capped => some (.ofSize policy.maxSize)
    | .advisory => none

def stats (pool : Pool ρ) : PoolStats where
  idle := pool.idle.length
  leased := pool.leased
  created := pool.created
  closed := pool.closed
  maxSize := pool.policy.maxSize

def describe (pool : Pool ρ) : String :=
  s!"ConnectionPool \x7b config: {pool.policy.describe}, connect: {Text.quote pool.connect.name}, " ++
    s!"stats: {pool.stats.describe} \x7d"

def describeLease (pool : Pool ρ) (lease : Lease ρ) (now : Instant) : String :=
  s!"PoolLease \x7b pipeline: {Text.quote pool.connect.name}, age: {(lease.age now).text} \x7d"

def resized (pool : Pool ρ) : PoolEvent ρ := .resized pool.idle.length pool.leased

def report (level : Level) (message : String) (fields : List (String × String)) : PoolEvent ρ :=
  .reported { level, message, fields }

def closing (entries : List (Pooled ρ)) : List (PoolEvent ρ) :=
  entries.flatMap fun entry => [.disposed entry.resource, .closed]

def isUsable (healthy : ρ → Bool) (pool : Pool ρ) (now : Instant) (entry : Pooled ρ) : Bool :=
  !entry.isExpired pool.policy now && healthy entry.resource

/-- The events of closing idle resources that were found unusable. -/
def farewell (unusable : List (Pooled ρ)) : List (PoolEvent ρ) :=
  if unusable.isEmpty then []
  else
    report .debug "closing unusable idle connections" [("count", toString unusable.length)] ::
      closing unusable

/-- Takes the first usable resource off the stack and closes the unusable ones above it. -/
def takeIdle (pool : Pool ρ) (healthy : ρ → Bool) (now : Instant) :
    Option (Lease ρ) × Pool ρ × List (PoolEvent ρ) :=
  let unusable := pool.idle.takeWhile fun entry => !isUsable healthy pool now entry
  let rest := pool.idle.drop unusable.length
  let pool := { pool with closed := pool.closed + unusable.length }
  match rest with
  | [] => (none, { pool with idle := [] }, farewell unusable)
  | entry :: idle =>
    let pool := { pool with idle, leased := pool.leased + 1 }
    (some entry, pool, pool.resized :: farewell unusable)

def addCreated (pool : Pool ρ) (resource : ρ) (now : Instant) :
    Lease ρ × Pool ρ × List (PoolEvent ρ) :=
  let pool := { pool with created := pool.created + 1, leased := pool.leased + 1 }
  ({ resource, createdAt := now, lastUsed := now }, pool,
    [.opened resource, pool.resized,
      report .debug "opened new pooled connection" [("pipeline", pool.connect.name)]])

def freeSlot (pool : Pool ρ) : Pool ρ := { pool with slots := pool.slots.map Slots.give }

/-- Whether a resource whose lease ends stays in the pool. -/
def keeps (pool : Pool ρ) (healthy : Bool) (now : Instant) (lease : Lease ρ) : Bool :=
  healthy && !pool.shutDown && !lease.isExpired pool.policy now &&
    pool.idle.length < pool.policy.maxSize

/-- Takes the resource of a lease back, to keep or to close it. The slot is still held. -/
def takeBack (pool : Pool ρ) (healthy : ρ → Bool) (discard : Bool) (now : Instant) (lease : Lease ρ) :
    Pool ρ × List (PoolEvent ρ) :=
  let healthy := !discard && healthy lease.resource
  let pool := { pool with leased := pool.leased - 1 }
  if pool.keeps healthy now lease then
    let pool := { pool with idle := { lease with lastUsed := now } :: pool.idle }
    (pool, [pool.resized])
  else
    let pool := { pool with closed := pool.closed + 1 }
    (pool,
      pool.resized ::
        report .trace "closing returned connection" [("healthy", toString healthy)] ::
        closing [lease])

/-- Ends a lease. The resource is back before the slot is free. -/
def release (pool : Pool ρ) (healthy : ρ → Bool) (discard : Bool) (now : Instant) (lease : Lease ρ) :
    Pool ρ × List (PoolEvent ρ) :=
  let (pool, events) := pool.takeBack healthy discard now lease
  (pool.freeSlot, events)

/-- Closes all idle resources, the one returned first in front. -/
def closeIdle (pool : Pool ρ) : Pool ρ × List (PoolEvent ρ) :=
  let drained := pool.idle.reverse
  let pool := { pool with idle := [], closed := pool.closed + drained.length }
  (pool, pool.resized :: closing drained)

def refuse (pool : Pool ρ) : Pool ρ := { pool with shutDown := true }

def closeSlots (pool : Pool ρ) : Pool ρ := { pool with slots := pool.slots.map Slots.close }

/-- Closes idle resources and refuses further callers, those in line included. -/
def shutdown (pool : Pool ρ) : Pool ρ × List (PoolEvent ρ) :=
  let (pool, events) := pool.refuse.closeSlots.closeIdle
  (pool, events ++ [report .debug "connection pool shut down" [("pipeline", pool.connect.name)]])

end Pool

end Dispatch
