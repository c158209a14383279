import Dispatch.Pool

/-!
# Acquiring a lease

An `Acquisition` is `arriving`, then `queued` in the line for a slot, then `seated` with a slot in hand,
and `connecting` when no idle resource was usable. Whatever ends it without a lease gives its slot
back. Cancellation ends the wait in line and further connect attempts, never a connect attempt that has
begun.
-/

set_option autoImplicit false

namespace Dispatch

inductive Acquisition (κ : Type) where
  | arriving
  | queued (ticket : Ticket) (deadline : Instant)
  | seated
  | connecting (execution : Execution κ)
  deriving Repr, Inhabited

/-- Where a pool gets its resources from: how one is created and which ones are healthy. -/
structure Supply (ε ρ κ : Type) where
  create : Operation ε κ (Except Failure ρ)
  healthy : ε → ρ → Bool

namespace Acquisition

variable {ε ρ κ : Type}

structure Outcome (ε ρ κ : Type) where
  turn : Turn (Acquisition κ) (Except Failure (Lease ρ))
  pool : Pool ρ
  breaker : Breaker
  environment : ε
  events : List (PoolEvent ρ)

def leaveLine (pool : Pool ρ) (ticket : Ticket) : Pool ρ :=
  { pool with slots := pool.slots.map fun slots => slots.leave ticket }

def step (supply : Supply ε ρ κ) (now : Instant) (cancelled : Bool) (pool : Pool ρ) (breaker : Breaker)
    (environment : ε) : Acquisition κ → Outcome ε ρ κ
  | .arriving =>
    let stay (turn : Turn (Acquisition κ) (Except Failure (Lease ρ))) (pool : Pool ρ) :
        Outcome ε ρ κ :=
      { turn, pool, breaker, environment, events := [] }
    if cancelled then stay (.finished (.error .cancelled)) pool
    else if pool.shutDown then stay (.finished (.error .poolClosed)) pool
    else
      match pool.slots with
      | none => stay (.moved .seated) pool
      | some slots =>
        match slots.take? with
        | some slots => stay (.moved .seated) { pool with slots := some slots }
        | none =>
          let (ticket, slots) := slots.join
          stay (.moved (.queued ticket (now + pool.policy.acquireTimeout)))
            { pool with slots := some slots }
  | .queued ticket deadline =>
    let stop (failure : Failure) : Outcome ε ρ κ :=
      { turn := .finished (.error failure), pool := leaveLine pool ticket, breaker, environment
        events := [] }
    match pool.slots with
    | none => stop .poolClosed
    | some slots =>
      if cancelled then stop .cancelled
      else if slots.closed then stop .poolClosed
      else
        match slots.claim? ticket with
        | some slots =>
          { turn := .moved .seated, pool := { pool with slots := some slots }, breaker, environment
            events := [] }
        | none =>
          if deadline ≤ now then stop .poolExhausted
          else { turn := .blocked (some deadline), pool, breaker, environment, events := [] }
  | .seated =>
    match pool.takeIdle (supply.healthy environment) now with
    | (some lease, pool, events) =>
      { turn := .finished (.ok lease), pool, breaker, environment, events }
    | (none, pool, events) =>
      { turn := .moved (.connecting (.ready 0)), pool, breaker, environment, events }
  | .connecting execution =>
    let result := execution.step pool.connect supply.create now cancelled breaker environment
    let events := result.events.map PoolEvent.reported
    match result.turn with
    | .moved execution =>
      { turn := .moved (.connecting execution), pool, breaker := result.breaker
        environment := result.environment, events }
    | .blocked wake =>
      { turn := .blocked wake, pool, breaker := result.breaker, environment := result.environment
        events }
    | .overflowed =>
      { turn := .overflowed, pool, breaker := result.breaker, environment := result.environment
        events }
    | .finished (.error failure) =>
      { turn := .finished (.error failure), pool := pool.freeSlot, breaker := result.breaker
        environment := result.environment, events }
    | .finished (.ok resource) =>
      let (lease, pool, opened) := pool.addCreated resource now
      { turn := .finished (.ok lease), pool, breaker := result.breaker
        environment := result.environment, events := events ++ opened }

def abandon (supply : Supply ε ρ κ) (pool : Pool ρ) (breaker : Breaker) (environment : ε) :
    Acquisition κ → Pool ρ × Breaker × ε
  | .arriving => (pool, breaker, environment)
  | .queued ticket _ => (leaveLine pool ticket, breaker, environment)
  | .seated => (pool.freeSlot, breaker, environment)
  | .connecting execution =>
    let (breaker, environment) := execution.abandon supply.create breaker environment
    (pool.freeSlot, breaker, environment)

end Acquisition

end Dispatch
