import Dispatch.Pipeline
import Dispatch.Schedule

/-!
# Rehearsed attempts

Guarded calls whose attempts follow a script: each waits for a while, may cancel the call it belongs
to, and gives a result. A `Rig` holds guarded pipelines; any number of scripted calls run through them
at once.
-/

set_option autoImplicit false

namespace Dispatch.Rehearsal

structure Attempt where
  delay : Duration
  cancels : Bool
  result : Except Failure Unit
  deriving Inhabited

/-- The attempts of one call; the last one stands for all that follow. -/
structure Script where
  attempts : List Attempt
  calls : Nat
  cancelled : Bool

namespace Script

def new (attempts : List Attempt) : Script := { attempts, calls := 0, cancelled := false }

def attempt (script : Script) (number : Nat) : Attempt :=
  (script.attempts[min number (script.attempts.length - 1)]?).getD
    { delay := 0, cancels := false, result := .ok () }

end Script

inductive AttemptCall where
  | fresh
  | waiting (until_ : Instant) (number : Nat)

def scripted : Operation Script AttemptCall (Except Failure Nat) where
  start := .fresh
  step now script
    | .fresh =>
      let delay := (script.attempt script.calls).delay
      (.moved (.waiting (now + delay) (script.calls + 1)), { script with calls := script.calls + 1 })
    | .waiting until_ number =>
      if now < until_ then (.blocked (some until_), script)
      else
        let attempt := script.attempt (number - 1)
        let result : Except Failure Nat :=
          match attempt.result with
          | .ok () => .ok number
          | .error failure => .error failure
        (.finished result, { script with cancelled := script.cancelled || attempt.cancels })
  abandon script _ := script

structure Guard where
  pipeline : Pipeline
  breaker : Breaker
  deriving Inhabited

namespace Guard

def new (backend : String) (kind : OperationKind) (policy : PipelinePolicy) : Guard :=
  let pipeline := Pipeline.new backend kind policy.retry
  { pipeline, breaker := .new pipeline.name policy.breaker }

end Guard

abbrev Rig := List Guard

namespace Rig

def guard (rig : Rig) (place : Nat) : Guard := rig[place]?.getD default

def setBreaker (rig : Rig) (place : Nat) (breaker : Breaker) : Rig :=
  rig.modify place fun guard => { guard with breaker }

end Rig

structure GuardedCall where
  place : Nat
  script : Script
  execution : Execution AttemptCall

def GuardedCall.new (place : Nat) (attempts : List Attempt) : GuardedCall :=
  { place, script := .new attempts, execution := .ready 0 }

/-- What became of a call, `none` where it was given up, with the breaker as it was then. -/
structure GuardedReport where
  result : Option (Except Failure Nat)
  calls : Nat
  breaker : Breaker

def rigMachine : Machine Rig GuardedCall GuardedReport where
  step now cancelled rig call :=
    let guard := rig.guard call.place
    let next :=
      call.execution.step guard.pipeline scripted now (cancelled || call.script.cancelled)
        guard.breaker call.script
    let turn :=
      next.turn.lift (fun execution => { call with script := next.environment, execution })
        fun result => .finished ⟨some result, next.environment.calls, next.breaker⟩
    (turn, rig.setBreaker call.place next.breaker)
  abandon _ rig call :=
    let (breaker, script) :=
      call.execution.abandon scripted (rig.guard call.place).breaker call.script
    (⟨none, script.calls, breaker⟩, rig.setBreaker call.place breaker)

end Dispatch.Rehearsal
