import Dispatch.Bucket
import Dispatch.Breaker
import Dispatch.Retry
import Dispatch.Schedule

/-!
# Rehearsed waits

Single waits run on a schedule: the wait of a retry policy, the wait for a token of a bucket, and one
attempt of a known length under a breaker.
-/

set_option autoImplicit false

namespace Dispatch.Rehearsal

def restMachine : Machine Unit Instant (Option (Except Failure Unit)) where
  step now cancelled _ resumeAt :=
    ((RetryPolicy.rest now cancelled resumeAt).lift id fun result => .finished (some result), ())
  abandon _ _ _ := (none, ())

/-- The wait for a token, and then a result. -/
def tokenMachine : Machine Bucket (Except Failure Unit) (Option (Except Failure Unit)) where
  step _ cancelled bucket result :=
    let (turn, bucket) := bucket.wait cancelled
    (turn.lift (fun _ => result) fun
      | .ok () => .finished (some result)
      | .error failure => .finished (some (.error failure)), bucket)
  abandon _ bucket _ := (none, bucket)

/-- One attempt without retries that takes a while and gives a result. -/
inductive SingleAttempt where
  | fresh (delay : Duration) (result : Except Failure Unit)
  | running (permit : Permit) (until_ : Instant) (result : Except Failure Unit)

def attemptMachine : Machine Breaker SingleAttempt (Option (Except Failure Unit)) where
  step now _ breaker
    | .fresh delay result =>
      match breaker.request now with
      | (.ok permit, breaker, _) => (.moved (.running permit (now + delay) result), breaker)
      | (.error failure, breaker, _) => (.finished (some (.error failure)), breaker)
    | .running permit until_ result =>
      if now < until_ then (.blocked (some until_), breaker)
      else (.finished (some result), (breaker.settle now permit result).1)
  abandon _ breaker
    | .fresh _ _ => (none, breaker)
    | .running permit _ _ => (none, breaker.cancel permit)

end Dispatch.Rehearsal
