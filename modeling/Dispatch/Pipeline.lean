import Dispatch.Breaker
import Dispatch.Retry

/-!
# Guarded execution: retries around a circuit breaker

An `Execution` runs one operation under a retry policy and a breaker. It is `ready` between attempts,
`trying` while an attempt holds a permit, and `resting` during the wait between two attempts. Every
attempt asks the breaker first; an open circuit ends the whole execution. Cancellation aborts a
running attempt only where the kind of operation says so.
-/

set_option autoImplicit false

namespace Dispatch

inductive OperationKind where
  | connect
  | publish
  deriving DecidableEq, Repr, Inhabited

namespace OperationKind

def name : OperationKind → String
  | .connect => "connect"
  | .publish => "publish"

/-- Whether cancellation aborts an attempt that is already running. -/
def abortsInFlight : OperationKind → Bool
  | .connect => false
  | .publish => true

end OperationKind

structure PipelinePolicy where
  retry : RetryPolicy
  breaker : BreakerPolicy
  deriving DecidableEq, Repr, Inhabited

def PipelinePolicy.standard : PipelinePolicy := { retry := .standard, breaker := .standard }

/-- One kind of operation of one backend with its retry policy; the breaker is kept beside it. -/
structure Pipeline where
  name : String
  kind : OperationKind
  retry : RetryPolicy
  deriving DecidableEq, Repr, Inhabited

namespace Pipeline

def new (backend : String) (kind : OperationKind) (retry : RetryPolicy) : Pipeline :=
  { name := backend ++ "." ++ kind.name, kind, retry }

end Pipeline

inductive Execution (κ : Type) where
  | ready (made : Nat)
  | trying (attempt : Nat) (permit : Permit) (call : κ)
  | resting (attempt : Nat) (resumeAt : Instant)
  deriving Repr, Inhabited

namespace Execution

variable {ε κ α : Type}

structure Outcome (ε κ α : Type) where
  turn : Turn (Execution κ) (Except Failure α)
  breaker : Breaker
  environment : ε
  events : List Event

/-- What follows the outcome of an attempt: an answer, or a wait before the next attempt. -/
def conclude (p : Pipeline) (now : Instant) (attempt : Nat) (result : Except Failure α) :
    Turn (Execution κ) (Except Failure α) × List Event :=
  match result with
  | .ok value => (.finished (.ok value), [])
  | .error failure =>
    if failure.isRetryable ∧ attempt < p.retry.maxAttempts then
      let event : Event :=
        { level := .debug
          message := "attempt failed, retrying"
          fields := [("pipeline", p.name), ("attempt", toString attempt),
            ("max_attempts", toString p.retry.maxAttempts), ("error", failure.message)] }
      match p.retry.delayFor attempt with
      | some delay => (.moved (.resting attempt (now + delay)), [event])
      | none => (.overflowed, [event])
    else if attempt > 1 ∧ failure.isRetryable then
      (.finished (.error (.retriesExhausted attempt failure)), [])
    else (.finished (.error failure), [])

/-- Settles the permit of an attempt and goes on from its outcome. -/
def settled (p : Pipeline) (now : Instant) (attempt : Nat) (permit : Permit) (breaker : Breaker)
    (environment : ε) (result : Except Failure α) : Outcome ε κ α :=
  let (breaker, recorded) := breaker.settle now permit result
  let (turn, events) := conclude p now attempt result
  { turn, breaker, environment, events := recorded ++ events }

def step (p : Pipeline) (op : Operation ε κ (Except Failure α)) (now : Instant) (cancelled : Bool)
    (breaker : Breaker) (environment : ε) : Execution κ → Outcome ε κ α
  | .ready made =>
    if cancelled then
      { turn := .finished (.error .cancelled), breaker, environment, events := [] }
    else
      match breaker.request now with
      | (.ok permit, breaker, events) =>
        { turn := .moved (.trying (made + 1) permit op.start), breaker, environment, events }
      | (.error failure, breaker, events) =>
        { turn := .finished (.error failure), breaker, environment, events }
  | .trying attempt permit call =>
    if cancelled ∧ p.kind.abortsInFlight then
      settled p now attempt permit breaker (op.abandon environment call) (.error .cancelled)
    else
      match op.step now environment call with
      | (.finished result, environment) =>
        settled p now attempt permit breaker environment result
      | (.moved call, environment) =>
        { turn := .moved (.trying attempt permit call), breaker, environment, events := [] }
      | (.blocked wake, environment) =>
        { turn := .blocked wake, breaker, environment, events := [] }
      | (.overflowed, environment) =>
        { turn := .overflowed, breaker, environment, events := [] }
  | .resting attempt resumeAt =>
    let turn :=
      (RetryPolicy.rest now cancelled resumeAt).lift (.resting attempt)
        fun
          | .ok () => .moved (.ready attempt)
          | .error failure => .finished (.error failure)
    { turn, breaker, environment, events := [] }

/-- The execution is given up between two steps: a running attempt is abandoned and its permit returned. -/
def abandon (op : Operation ε κ (Except Failure α)) (breaker : Breaker) (environment : ε) :
    Execution κ → Breaker × ε
  | .trying _ permit call => (breaker.cancel permit, op.abandon environment call)
  | _ => (breaker, environment)

end Execution

end Dispatch
