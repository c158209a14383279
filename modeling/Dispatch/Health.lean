import Dispatch.Adapter

/-!
# Health checks

A health check leases a handle, pings the broker on it and returns the lease. It is not counted as a
publish call.
-/

set_option autoImplicit false

namespace Dispatch

inductive Checking (ρ κ : Type) where
  | leasing (acquisition : Adapter.Leasing ρ κ)
  | pinging (lease : Lease ρ)
  deriving Repr, Inhabited

namespace Checking

variable {ε ρ σ κ : Type}

def start : Checking ρ κ := .leasing .arriving

structure Outcome (ε ρ σ κ : Type) where
  turn : Turn (Checking ρ κ) (Except BrokerError Unit)
  adapter : Adapter ε ρ σ κ
  shared : Shared ε

def step (a : Adapter ε ρ σ κ) (s : Shared ε) (now : Instant) (cancelled : Bool) :
    Checking ρ κ → Outcome ε ρ σ κ
  | .leasing acquisition =>
    let (turn, a, s) := a.stepLease s now cancelled acquisition
    { turn :=
        turn.lift .leasing fun
          | .ok lease => .moved (.pinging lease)
          | .error failure => .finished (.error (.ofAcquire a.backend failure))
      adapter := a
      shared := s }
  | .pinging lease =>
    let result : Except BrokerError Unit :=
      if cancelled then .error (.cancelled a.backend)
      else
        match a.transport.ping s.surroundings.outside lease.resource with
        | .ok () => .ok ()
        | .error error => .error (.ofTransport a.backend error)
    let (a, s) := a.release s now lease
    { turn := .finished result, adapter := a, shared := s }

def abandon (a : Adapter ε ρ σ κ) (s : Shared ε) (now : Instant) :
    Checking ρ κ → Adapter ε ρ σ κ × Shared ε
  | .leasing acquisition => a.abandonLease s acquisition
  | .pinging lease => a.release s now lease

end Checking

end Dispatch
