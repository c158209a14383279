import Dispatch.Failure
import Dispatch.Journal

/-!
# Circuit breakers

A breaker is closed, open until an instant, or half open. While it is half open one probe decides
whether it closes or opens again. A caller obtains a `Permit` from `request`, runs its operation and
hands the permit back to exactly one of `succeed`, `fail` and `cancel`; `settle` chooses among them.
-/

set_option autoImplicit false

namespace Dispatch

inductive CircuitState where
  | closed
  | opened (probeAt : Instant)
  | halfOpen
  deriving DecidableEq, Repr, Inhabited

structure BreakerPolicy where
  threshold : Nat
  cooldown : Duration
  deriving DecidableEq, Repr, Inhabited

def BreakerPolicy.standard : BreakerPolicy where
  threshold := 5
  cooldown := .ofSeconds 30

structure Breaker where
  name : String
  policy : BreakerPolicy
  state : CircuitState
  failures : Nat
  probing : Bool
  deriving DecidableEq, Repr, Inhabited

structure Permit where
  probe : Bool
  deriving DecidableEq, Repr, Inhabited

namespace Breaker

def new (name : String) (policy : BreakerPolicy) : Breaker :=
  { name, policy, state := .closed, failures := 0, probing := false }

def reset (b : Breaker) : Breaker := new b.name b.policy

def event (b : Breaker) (level : Level) (message : String) (fields : List (String × String)) : Event :=
  { level, message, fields := ("breaker", b.name) :: fields }

/-- Asks permission to run one attempt; an open circuit refuses, and so does a running probe. -/
def request (b : Breaker) (now : Instant) : Except Failure Permit × Breaker × List Event :=
  match b.state with
  | .closed => (.ok ⟨false⟩, b, [])
  | .opened probeAt =>
    if probeAt ≤ now then
      (.ok ⟨true⟩, { b with state := .halfOpen, probing := true },
        [b.event .debug "circuit half-open, admitting probe" []])
    else (.error (.circuitOpen b.name), b, [])
  | .halfOpen =>
    if b.probing then (.error (.circuitOpen b.name), b, [])
    else (.ok ⟨true⟩, { b with probing := true }, [])

/-- The attempt succeeded. An outcome that arrives after the circuit opened changes nothing, unless it
is the probe's. -/
def succeed (b : Breaker) (permit : Permit) : Breaker × List Event :=
  match b.state with
  | .closed => ({ b with failures := 0 }, [])
  | .halfOpen =>
    if permit.probe then
      ({ b with state := .closed, failures := 0, probing := false },
        [b.event .debug "probe succeeded, circuit closed" []])
    else (b, [])
  | .opened _ => (b, [])

def fail (b : Breaker) (now : Instant) (permit : Permit) : Breaker × List Event :=
  match b.state with
  | .closed =>
    let failures := b.failures + 1
    if b.policy.threshold ≤ failures then
      ({ b with state := .opened (now + b.policy.cooldown), failures := 0 },
        [b.event .warn "circuit opened"
          [("failures", toString failures), ("cooldown_ms", toString b.policy.cooldown.millis)]])
    else ({ b with failures }, [])
  | .halfOpen =>
    if permit.probe then
      ({ b with state := .opened (now + b.policy.cooldown), probing := false },
        [b.event .warn "probe failed, circuit re-opened" []])
    else (b, [])
  | .opened _ => (b, [])

/-- The attempt was abandoned, or failed in a way that does not count. -/
def cancel (b : Breaker) (permit : Permit) : Breaker :=
  if permit.probe ∧ b.state = .halfOpen then { b with probing := false } else b

def settle {α : Type} (b : Breaker) (now : Instant) (permit : Permit) (result : Except Failure α) :
    Breaker × List Event :=
  match result with
  | .ok _ => b.succeed permit
  | .error failure => if failure.trips then b.fail now permit else (b.cancel permit, [])

end Breaker

end Dispatch
