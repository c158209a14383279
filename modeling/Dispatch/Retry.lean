import Dispatch.Failure

/-!
# Retry policies

The wait after a failed attempt grows by a factor with every attempt, up to a longest wait. The factor
is taken as at least one and the product is computed in floating point, so `delayFor` follows the
rounding of those operations; it has no answer when the product leaves the range of durations.
-/

set_option autoImplicit false

namespace Dispatch

structure RetryPolicy where
  maxRetries : Nat
  delay : Duration
  multiplier : Binary64
  maxDelay : Duration
  deriving DecidableEq, Repr, Inhabited

namespace RetryPolicy

def maxCount : Nat := twoTo 32 - 1

def standard : RetryPolicy where
  maxRetries := 3
  delay := .ofMillis 200
  multiplier := .ofNat 2
  maxDelay := .ofSeconds 10

def none : RetryPolicy := { standard with maxRetries := 0 }

def fixed (maxRetries : Nat) (delay : Duration) : RetryPolicy :=
  { maxRetries, delay, multiplier := .one, maxDelay := delay }

/-- The first attempt and all retries, at most what the counter holds. -/
def maxAttempts (policy : RetryPolicy) : Nat := min (policy.maxRetries + 1) maxCount

def seconds (d : Duration) : Binary64 :=
  (Binary64.ofNat (d / 1000000000)).addMagnitudes
    ((Binary64.ofNat (d % 1000000000)).div (.ofNat 1000000000))

/-- The exponent of the factor after an attempt, as a signed number of 32 bits. -/
def exponentAfter (attempt : Nat) : Int := Int.bmod (attempt - 1 : Nat) (twoTo 32)

/-- Seconds to the nearest nanosecond, `none` from `2 ^ 64` seconds on. -/
def ofSeconds? : Binary64 → Option Duration
  | .finite false significand exponent =>
    let (above, below) := Binary64.ratio significand exponent
    if above ≥ twoTo 64 * below then Option.none
    else some (roundHalfEven (above * 1000000000) below)
  | _ => Option.none

/-- The wait after a failed attempt, counted from one. -/
def delayFor (policy : RetryPolicy) (attempt : Nat) : Option Duration :=
  let factor := policy.multiplier.atLeastOne.power (exponentAfter attempt)
  let product := (seconds policy.delay).mul factor
  if product.isFinite then (ofSeconds? product).map (min policy.maxDelay)
  else some policy.maxDelay

/-- One step of the wait before the next attempt; cancellation is looked at first. -/
def rest (now : Instant) (cancelled : Bool) (resumeAt : Instant) :
    Turn Instant (Except Failure Unit) :=
  if cancelled then .finished (.error .cancelled)
  else if resumeAt ≤ now then .finished (.ok ())
  else .blocked (some resumeAt)

example : (fixed 2 (.ofMillis 50)).delayFor 7 = some (.ofMillis 50) := by decide +kernel
example : standard.delayFor 4 = some (.ofMillis 1600) := by decide +kernel

end RetryPolicy

end Dispatch
