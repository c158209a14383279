import Dispatch.Failure

/-!
# Token buckets

A bucket is full when it is made and is never refilled within the times considered here: each caller
takes one token, and a caller that finds none waits until it is cancelled.
-/

set_option autoImplicit false

namespace Dispatch

structure Bucket where
  maxRequests : Nat
  period : Duration
  tokens : Nat
  deriving DecidableEq, Repr, Inhabited

namespace Bucket

/-- The longest refill time a bucket can keep, in nanoseconds. -/
def longestPeriod : Duration := twoTo 64 - 1

/-- A full bucket of `maxRequests` tokens for each period. There is no bucket (`none`) whose refill time
cannot be kept. -/
def new (maxRequests : Nat) (period : Duration) : Except Failure (Option Bucket) :=
  if maxRequests = 0 then .error (.permanent "max_requests must be > 0")
  else if period / maxRequests = 0 then .error (.permanent "rate limit period must be > 0")
  else if period / maxRequests * maxRequests > longestPeriod then .ok none
  else .ok (some { maxRequests, period, tokens := maxRequests })

def perSecond (maxRequests : Nat) : Except Failure (Option Bucket) := new maxRequests (.ofSeconds 1)

def take (b : Bucket) : Except Failure Unit × Bucket :=
  if b.tokens = 0 then (.error .rateLimited, b) else (.ok (), { b with tokens := b.tokens - 1 })

/-- One step of waiting for a token; cancellation is looked at first. -/
def wait (b : Bucket) (cancelled : Bool) : Turn Unit (Except Failure Unit) × Bucket :=
  if cancelled then (.finished (.error .cancelled), b)
  else
    match b.take with
    | (.ok (), b) => (.finished (.ok ()), b)
    | (.error _, b) => (.blocked none, b)

def describe (b : Bucket) : String :=
  s!"RateLimiter \x7b max_requests: {b.maxRequests}, period: {b.period.text} \x7d"

end Bucket

end Dispatch
