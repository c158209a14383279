import Dispatch.Pool.Acquisition
import Dispatch.Rehearsal.Stage

/-!
# Rehearsed pools

A pool whose resources are numbers. Creating one follows a script, and a list says which ones are
unhealthy. Everything the pool reports is noted in order.
-/

set_option autoImplicit false

namespace Dispatch.Rehearsal

inductive PoolNote where
  | create (number : Nat)
  | close (number : Nat)
  | opened
  | closed
  | sizes (idle leased : Nat)
  deriving DecidableEq, Repr

structure Creation where
  delay : Duration
  result : Except Failure Unit

structure Factory where
  creations : List Creation
  calls : Nat
  unhealthy : List Nat
  notes : List PoolNote

inductive CreateCall where
  | fresh
  | waiting (until_ : Instant) (number : Nat) (result : Except Failure Unit)

namespace Factory

def new : Factory := { creations := [], calls := 0, unhealthy := [], notes := [] }

def note (factory : Factory) (notes : List PoolNote) : Factory :=
  { factory with notes := factory.notes ++ notes }

def setHealth (factory : Factory) (number : Nat) (healthy : Bool) : Factory :=
  let others := factory.unhealthy.filter (· != number)
  { factory with unhealthy := if healthy then others else number :: others }

def isHealthy (factory : Factory) (number : Nat) : Bool := !factory.unhealthy.contains number

/-- Creations are numbered from one; without a script they succeed at once. -/
def supply : Supply Factory Nat CreateCall where
  create :=
    { start := .fresh
      step := fun now factory call =>
        match call with
        | .fresh =>
          let creation := factory.creations.headD ⟨0, .ok ()⟩
          let number := factory.calls + 1
          (.moved (.waiting (now + creation.delay) number creation.result),
            { factory with creations := factory.creations.tail, calls := number }.note
              [.create number])
        | .waiting until_ number result =>
          if now < until_ then (.blocked (some until_), factory)
          else (.finished (result.map fun _ => number), factory)
      abandon := fun factory _ => factory }
  healthy := isHealthy

end Factory

structure PoolRig where
  pool : Pool Nat
  breaker : Breaker
  factory : Factory

namespace PoolRig

def new (policy : PoolPolicy) (pipeline : PipelinePolicy) : PoolRig :=
  let connect := Pipeline.new "test" .connect pipeline.retry
  { pool := .new policy connect, breaker := .new connect.name pipeline.breaker, factory := .new }

def noteOf : PoolEvent Nat → List PoolNote
  | .opened _ => [.opened]
  | .resized idle leased => [.sizes idle leased]
  | .disposed number => [.close number]
  | .closed => [.closed]
  | .reported _ => []

def absorb (rig : PoolRig) (events : List (PoolEvent Nat)) : PoolRig :=
  { rig with factory := rig.factory.note (events.flatMap noteOf) }

def release (rig : PoolRig) (discard : Bool) (now : Instant) (lease : Lease Nat) : PoolRig :=
  let (pool, events) := rig.pool.release rig.factory.isHealthy discard now lease
  { rig with pool }.absorb events

def closeIdle (rig : PoolRig) : PoolRig :=
  let (pool, events) := rig.pool.closeIdle
  { rig with pool }.absorb events

def shutdown (rig : PoolRig) : PoolRig :=
  let (pool, events) := rig.pool.shutdown
  { rig with pool }.absorb events

end PoolRig

/-- A caller that acquires a lease and, given a time to hold it, ends it after that. -/
inductive PoolCall where
  | acquiring (hold : Option Duration) (acquisition : Acquisition CreateCall)
  | holding (lease : Lease Nat) (acquiredAt : Instant) (until_ : Instant)

/-- What became of a caller; a lease that is still held comes with it. -/
inductive PoolReport where
  | abandoned
  | refused (failure : Failure) (refusedAt : Instant)
  | leased (number : Nat) (lease : Option (Lease Nat)) (acquiredAt : Instant)

def poolMachine : Machine PoolRig PoolCall PoolReport where
  step now cancelled rig
    | .acquiring hold acquisition =>
      let next :=
        acquisition.step Factory.supply now cancelled rig.pool rig.breaker rig.factory
      let rig : PoolRig :=
        { pool := next.pool, breaker := next.breaker, factory := next.environment }
      (next.turn.lift (.acquiring hold) fun
        | .error failure => .finished (.refused failure now)
        | .ok lease =>
          match hold with
          | none => .finished (.leased lease.resource (some lease) now)
          | some duration => .moved (.holding lease now (now + duration)),
        rig.absorb next.events)
    | .holding lease acquiredAt until_ =>
      if now < until_ then (.blocked (some until_), rig)
      else (.finished (.leased lease.resource none acquiredAt), rig.release false now lease)
  abandon now rig
    | .acquiring _ acquisition =>
      let (pool, breaker, factory) :=
        acquisition.abandon Factory.supply rig.pool rig.breaker rig.factory
      (.abandoned, { pool, breaker, factory })
    | .holding lease _ _ => (.abandoned, rig.release false now lease)

/-- A pool with callers: leases are kept under ids. -/
structure PoolBench where
  stage : Stage PoolRig PoolCall PoolReport
  leases : List (String × Lease Nat)

namespace PoolBench

def new (policy : PoolPolicy) (pipeline : PipelinePolicy) : PoolBench :=
  { stage := .new (.new policy pipeline), leases := [] }

def rig (b : PoolBench) : PoolRig := b.stage.state

def change (b : PoolBench) (f : PoolRig → PoolRig) : PoolBench :=
  { b with stage := b.stage.setState (f b.rig) }

def changeFactory (b : PoolBench) (f : Factory → Factory) : PoolBench :=
  b.change fun rig => { rig with factory := f rig.factory }

/-- Ends the lease that is kept under an id; `false` if there is none. -/
def giveBack (b : PoolBench) (id : String) (discard : Bool) : Bool × PoolBench :=
  match b.leases.lookup id with
  | none => (false, b)
  | some lease =>
    (true,
      { b with leases := b.leases.filter (·.1 != id) }.change
        (·.release discard b.stage.now lease))

/-- Keeps a lease under an id; one that was kept there before ends. -/
def keep (b : PoolBench) (id : String) (lease : Lease Nat) : PoolBench :=
  let (_, b) := b.giveBack id false
  { b with leases := (id, lease) :: b.leases }

def keepReported (b : PoolBench) (id : String) : PoolReport → PoolBench
  | .leased _ (some lease) _ => b.keep id lease
  | _ => b

def acquire (b : PoolBench) (id : String) (timing : Timing) (hold : Option Duration) :
    Played (Option (Ending PoolReport)) × PoolBench :=
  match b.stage.perform poolMachine [(timing, .acquiring hold .arriving)] with
  | (.done (ending :: _), stage) =>
    (.done (some ending), { b with stage }.keepReported id ending.result)
  | (.done [], stage) => (.done none, { b with stage })
  | (.overflowed, stage) => (.overflowed, { b with stage })

def sleep (b : PoolBench) (duration : Duration) : Played Unit × PoolBench :=
  let (played, stage) := b.stage.sleep poolMachine duration
  (played, { b with stage })

def spawn (b : PoolBench) (id : String) (timing : Timing) (hold : Option Duration) : PoolBench :=
  { b with stage := b.stage.spawn id timing (.acquiring hold .arriving) }

def join (b : PoolBench) (id : String) : Played (Option (Ending PoolReport)) × PoolBench :=
  match b.stage.join poolMachine id with
  | (.done (some ending), stage) =>
    (.done (some ending), { b with stage }.keepReported id ending.result)
  | (played, stage) => (played, { b with stage })

/-- Gives up a caller in the background; tells whether it was still running. A lease that it ended with
ends. -/
def abort (b : PoolBench) (id : String) : Bool × PoolBench :=
  match b.stage.abort poolMachine id with
  | (.running, stage) => (true, { b with stage })
  | (.over (.leased _ (some lease) _), stage) =>
    (false, { b with stage }.change (·.release false stage.now lease))
  | (_, stage) => (false, { b with stage })

def takeNotes (b : PoolBench) : List PoolNote × PoolBench :=
  (b.rig.factory.notes, b.changeFactory fun factory => { factory with notes := [] })

end PoolBench

end Dispatch.Rehearsal
