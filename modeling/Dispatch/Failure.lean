import Dispatch.Clock

/-!
# Failures of guarded calls

A `Failure` carries enough classification for the retry loop and the circuit breaker to decide what
to do next without looking at messages.
-/

set_option autoImplicit false

namespace Dispatch

inductive Failure where
  | transient (message : String)
  | permanent (message : String)
  | circuitOpen (circuit : String)
  | cancelled
  | timeout (after : Duration)
  | poolExhausted
  | poolClosed
  | rateLimited
  | retriesExhausted (attempts : Nat) (last : Failure)
  deriving DecidableEq, Repr, Inhabited

namespace Failure

def message : Failure → String
  | .transient message => "transient failure: " ++ message
  | .permanent message => "permanent failure: " ++ message
  | .circuitOpen circuit => "circuit breaker is open for " ++ circuit
  | .cancelled => "operation cancelled"
  | .timeout after => "operation timed out after " ++ after.text
  | .poolExhausted => "connection pool exhausted"
  | .poolClosed => "connection pool is closed"
  | .rateLimited => "rate limit exceeded"
  | .retriesExhausted attempts last =>
    "gave up after " ++ toString attempts ++ " attempts: " ++ last.message

def rootCause : Failure → Failure
  | .retriesExhausted _ last => last.rootCause
  | failure => failure

def isTransient (failure : Failure) : Bool :=
  match failure.rootCause with
  | .transient _ | .timeout _ => true
  | _ => false

def isPermanent (failure : Failure) : Bool :=
  match failure.rootCause with
  | .permanent _ => true
  | _ => false

def isCircuitOpen (failure : Failure) : Bool :=
  match failure.rootCause with
  | .circuitOpen _ => true
  | _ => false

/-- Whether the operation may be run again after this failure. -/
def isRetryable : Failure → Bool
  | .transient _ | .timeout _ => true
  | _ => false

/-- Whether the failure counts against a circuit breaker. -/
def trips : Failure → Bool
  | .transient _ | .permanent _ | .timeout _ => true
  | _ => false

def isCancelled : Failure → Bool
  | .cancelled => true
  | _ => false

end Failure

end Dispatch
