import Dispatch.Pipeline

set_option autoImplicit false

namespace Dispatch.Execution

variable {ε κ α : Type}

theorem conclude_error_ne_ok (p : Pipeline) (now : Instant) (attempt : Nat) (failure : Failure)
    (value : α) :
    (conclude (κ := κ) (α := α) p now attempt (.error failure)).1 ≠ .finished (.ok value) := by
  unfold conclude
  dsimp only
  split
  · split <;> simp
  · split <;> simp

inductive Concludes (p : Pipeline) (now : Instant) (attempt : Nat) :
    Except Failure α → Turn (Execution κ) (Except Failure α) → Prop
  | value (value : α) : Concludes p now attempt (.ok value) (.finished (.ok value))
  | fatal {failure : Failure} (fatal : failure.isRetryable = false) :
      Concludes p now attempt (.error failure) (.finished (.error failure))
  | again {failure : Failure} {delay : Duration} (retryable : failure.isRetryable = true)
      (budget : attempt < p.retry.maxAttempts) (delayed : p.retry.delayFor attempt = some delay) :
      Concludes p now attempt (.error failure) (.moved (.resting attempt (now + delay)))
  | endless {failure : Failure} (retryable : failure.isRetryable = true)
      (budget : attempt < p.retry.maxAttempts) (undelayed : p.retry.delayFor attempt = none) :
      Concludes p now attempt (.error failure) .overflowed
  | exhausted {failure : Failure} (retryable : failure.isRetryable = true)
      (spent : p.retry.maxAttempts ≤ attempt) :
      Concludes p now attempt (.error failure) (.finished (.error
        (if 1 < attempt then .retriesExhausted attempt failure else failure)))

theorem conclude_concludes (p : Pipeline) (now : Instant) (attempt : Nat) (result : Except Failure α) :
    Concludes (κ := κ) p now attempt result (conclude p now attempt result).1 := by
  unfold conclude
  cases result with
  | ok value => exact .value value
  | error failure =>
      dsimp only
      cases retryable : failure.isRetryable with
      | false => simpa using Concludes.fatal retryable
      | true =>
          by_cases budget : attempt < p.retry.maxAttempts
          · simp only [budget, and_self, if_true]
            split
            · rename_i delay delayed
              exact .again retryable budget delayed
            · rename_i undelayed
              exact .endless retryable budget undelayed
          · have spent : Concludes p now attempt (.error failure : Except Failure α)
                (_ : Turn (Execution κ) (Except Failure α)) :=
              .exhausted retryable (Nat.le_of_not_lt budget)
            by_cases many : 1 < attempt
            · simpa [budget, many] using spent
            · simpa [budget, many] using spent

variable (p : Pipeline) (op : Operation ε κ (Except Failure α)) (now : Instant) {cancelled : Bool}
  (breaker : Breaker) (environment : ε)

theorem step_between {execution : Execution κ} (between : ∀ attempt permit call,
      execution ≠ .trying attempt permit call) :
    (execution.step p op now cancelled breaker environment).environment = environment ∧
      ∀ value, (execution.step p op now cancelled breaker environment).turn ≠
        .finished (.ok value) := by
  cases execution with
  | ready made =>
      unfold step
      dsimp only
      split
      · simp
      · split <;> simp
  | trying attempt permit call => exact absurd rfl (between attempt permit call)
  | resting attempt resumeAt =>
      refine ⟨rfl, fun value => ?_⟩
      simp only [step, RetryPolicy.rest]
      split
      · simp [Turn.lift]
      · split <;> simp [Turn.lift]

theorem step_cut (attempt : Nat) (permit : Permit) (call : κ)
    (cut : cancelled ∧ p.kind.abortsInFlight) :
    (step p op now cancelled breaker environment (.trying attempt permit call)).environment =
        op.abandon environment call ∧
      ∀ value, (step p op now cancelled breaker environment (.trying attempt permit call)).turn ≠
        .finished (.ok value) := by
  simp only [step, if_pos cut, settled, true_and]
  exact conclude_error_ne_ok p now attempt .cancelled

theorem step_aborted (attempt : Nat) (permit : Permit) (call : κ) (aborts : p.kind.abortsInFlight = true) :
    step p op now true breaker environment (.trying attempt permit call) =
      { turn := .finished (.error .cancelled), breaker := breaker.cancel permit
        environment := op.abandon environment call, events := [] } := by
  simp only [step, aborts, and_self, if_true, settled, Breaker.settle, conclude, Failure.trips, Failure.isRetryable,
    Bool.false_eq_true, false_and, and_false, if_false, List.nil_append]

theorem step_trying (attempt : Nat) (permit : Permit) (call : κ)
    (uncut : ¬(cancelled ∧ p.kind.abortsInFlight)) :
    (step p op now cancelled breaker environment (.trying attempt permit call)).environment =
        (op.step now environment call).2 ∧
      ∀ value, (step p op now cancelled breaker environment (.trying attempt permit call)).turn =
          .finished (.ok value) ↔ (op.step now environment call).1 = .finished (.ok value) := by
  simp only [step, if_neg uncut]
  rcases op.step now environment call with ⟨turn, environment'⟩
  cases turn with
  | finished result =>
      refine ⟨rfl, fun value => ?_⟩
      cases result with
      | ok given => simp [settled, conclude]
      | error failure =>
          simpa [settled] using conclude_error_ne_ok p now attempt failure value
  | moved call => simp
  | blocked wake => simp
  | overflowed => simp

inductive Fails (op : Operation ε κ (Except Failure α)) (now : Instant) (cancelled : Bool) (breaker : Breaker)
    (environment : ε) : Execution κ → Failure → Prop
  | cancelled (execution : Execution κ) (told : cancelled = true) :
      Fails op now cancelled breaker environment execution .cancelled
  | refused (made : Nat) {failure : Failure} (refused : (breaker.request now).1 = .error failure) :
      Fails op now cancelled breaker environment (.ready made) failure
  | failed (attempt : Nat) (permit : Permit) {call : κ} {failure : Failure}
      (given : (op.step now environment call).1 = .finished (.error failure)) :
      Fails op now cancelled breaker environment (.trying attempt permit call) failure
  | exhausted {attempt : Nat} (permit : Permit) {call : κ} {failure : Failure}
      (given : (op.step now environment call).1 = .finished (.error failure)) (many : 1 < attempt)
      (retryable : failure.isRetryable = true) :
      Fails op now cancelled breaker environment (.trying attempt permit call)
        (.retriesExhausted attempt failure)

theorem step_fails {execution : Execution κ} {failure : Failure}
    (ends : (execution.step p op now cancelled breaker environment).turn = .finished (.error failure)) :
    Fails op now cancelled breaker environment execution failure := by
  cases execution with
  | ready made =>
      simp only [step] at ends
      split at ends
      · rename_i told
        cases ends
        exact .cancelled _ told
      · split at ends
        · cases ends
        · rename_i refused
          cases ends
          exact .refused made (by rw [refused])
  | trying attempt permit call =>
      simp only [step] at ends
      split at ends
      · rename_i cut
        simp only [settled, conclude, Failure.isRetryable, Bool.false_eq_true, false_and, and_false, if_false]
          at ends
        cases ends
        exact .cancelled _ cut.1
      · split at ends
        · rename_i result environment' outcome
          have concludes := conclude_concludes (κ := κ) p now attempt result
          change (conclude (κ := κ) p now attempt result).1 = _ at ends
          rw [ends] at concludes
          cases concludes with
          | fatal fatal => exact .failed attempt permit (by rw [outcome])
          | exhausted retryable spent =>
              split
              · rename_i many
                exact .exhausted permit (by rw [outcome]) many retryable
              · exact .failed attempt permit (by rw [outcome])
        · cases ends
        · cases ends
        · cases ends
  | resting attempt resumeAt =>
      simp only [step, RetryPolicy.rest] at ends
      split at ends
      · rename_i told
        cases ends
        exact .cancelled _ told
      · split at ends
        · cases ends
        · cases ends

end Dispatch.Execution
