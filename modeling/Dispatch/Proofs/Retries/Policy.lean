import Dispatch.Proofs.Retries.Account

set_option autoImplicit false

namespace Dispatch

theorem Failure.retryable_cases {failure : Failure} (retryable : failure.isRetryable = true) :
    (∃ reason, failure = .transient reason) ∨ ∃ limit, failure = .timeout limit := by
  cases failure with
  | transient reason => exact Or.inl ⟨reason, rfl⟩
  | timeout limit => exact Or.inr ⟨limit, rfl⟩
  | _ => cases retryable

namespace Course

variable {ε κ α : Type} {p : Pipeline} {op : Operation ε κ (Except Failure α)}

/-- The call is attended to again and again, time goes on, every run of the operation ends, and every
delay is in range. -/
structure Fair (p : Pipeline) (op : Operation ε κ (Except Failure α)) (plan : Nat → Move ε)
    (c : Course ε κ α) : Prop where
  steps : ∀ n, ∃ m, n ≤ m ∧ plan m = .step
  passes : ∀ instant, ∃ n, instant ≤ (c.along p op plan n).now
  answers : ∀ n attempt permit call,
    (c.along p op plan n).stage = .going (.trying attempt permit call) →
      ∃ m, n ≤ m ∧ (c.along p op plan n).trials.length < (c.along p op plan m).trials.length
  unbroken : ¬Broken p op

namespace Fair

variable {plan : Nat → Move ε} {c : Course ε κ α}

theorem rested (fair : Fair p op plan c) {n attempt : Nat} {resumeAt : Instant}
    (resting : (c.along p op plan n).stage = .going (.resting attempt resumeAt)) :
    ∃ m, n ≤ m ∧ (c.along p op plan m).stage = .going (.ready attempt) := by
  -- a call that never got ready would rest at the first step after its wait is over
  refine Classical.byContradiction fun never => ?_
  have waits : ∀ {m}, n ≤ m → (c.along p op plan m).stage = .going (.resting attempt resumeAt) := by
    intro m le
    induction le with
    | refl => exact resting
    | @step m le ih =>
        by_cases step : plan m = .step
        · have stride := c.along_stride step ih
          generalize next : c.along p op plan (m + 1) = after at stride
          cases stride with
          | rests early => rfl
          | rested due => exact absurd ⟨m + 1, Nat.le_succ_of_le le, by rw [next]⟩ never
        · exact (perform_stage step).trans ih
  obtain ⟨late, due⟩ := fair.passes resumeAt
  obtain ⟨m, le, step⟩ := fair.steps (max n late)
  have after : n ≤ m := Nat.le_trans (Nat.le_max_left n late) le
  have passed : resumeAt ≤ (c.along p op plan m).now :=
    Nat.le_trans due (c.along_onward (Nat.le_trans (Nat.le_max_right n late) le)).now
  have stride := c.along_stride step (waits after)
  generalize next : c.along p op plan (m + 1) = later at stride
  cases stride with
  | rests early => exact absurd passed (Nat.not_le_of_lt early)
  | rested due => exact never ⟨m + 1, Nat.le_succ_of_le after, by rw [next]⟩

def GoesOn (p : Pipeline) (op : Operation ε κ (Except Failure α)) (plan : Nat → Move ε)
    (c : Course ε κ α) (n : Nat) : Prop :=
  ∃ m, n ≤ m ∧ ((∃ result, (c.along p op plan m).stage = .done result) ∨
    (c.along p op plan n).trials.length < (c.along p op plan m).trials.length)

theorem GoesOn.earlier {n m : Nat} (le : n ≤ m) (later : GoesOn p op plan c m) :
    GoesOn p op plan c n := by
  obtain ⟨k, beyond, ended | more⟩ := later
  · exact ⟨k, Nat.le_trans le beyond, Or.inl ended⟩
  · exact ⟨k, Nat.le_trans le beyond, Or.inr (Nat.lt_of_le_of_lt (c.along_onward le).trials more)⟩

theorem ready_goes_on (fair : Fair p op plan c) {n made : Nat}
    (ready : (c.along p op plan n).stage = .going (.ready made)) : GoesOn p op plan c n := by
  obtain ⟨m, le, step, same⟩ := c.steps_from fair.steps n
  refine .earlier (Nat.le_succ_of_le le) ?_
  have stride := c.along_stride step (same.trans ready)
  generalize next : c.along p op plan (m + 1) = after at stride
  cases stride with
  | refused answer => exact ⟨m + 1, Nat.le_refl _, Or.inl ⟨_, by rw [next]⟩⟩
  | began answer =>
      obtain ⟨k, beyond, more⟩ := fair.answers (m + 1) _ _ _ (by rw [next])
      exact ⟨k, beyond, Or.inr more⟩

theorem goes_on (fair : Fair p op plan c) {first : Breaker} {n : Nat}
    (sound : (c.along p op plan n).Sound p op first) : GoesOn p op plan c n := by
  have account := sound.account
  generalize stage : (c.along p op plan n).stage = s at account
  cases account with
  | ready => exact fair.ready_goes_on stage
  | trying =>
      obtain ⟨m, le, more⟩ := fair.answers n _ _ _ stage
      exact ⟨m, le, Or.inr more⟩
  | resting =>
      obtain ⟨m, le, ready⟩ := fair.rested stage
      exact .earlier le (fair.ready_goes_on ready)
  | done => exact ⟨n, Nat.le_refl n, Or.inl ⟨_, stage⟩⟩
  | lost broken => exact absurd broken fair.unbroken

theorem ends_within (fair : Fair p op plan c) {first : Breaker}
    (sound : ∀ n, (c.along p op plan n).Sound p op first) (left n : Nat)
    (spent : p.retry.maxAttempts ≤ (c.along p op plan n).trials.length + left) :
    ∃ m result, (c.along p op plan m).stage = .done result := by
  -- on the attempts that are left
  induction left generalizing n with
  | zero =>
      obtain ⟨m, le, ⟨result, ended⟩ | more⟩ := fair.goes_on (sound n)
      · exact ⟨m, result, ended⟩
      · have budget := (sound m).budget fair.unbroken
        omega
  | succ left ih =>
      obtain ⟨m, le, ⟨result, ended⟩ | more⟩ := fair.goes_on (sound n)
      · exact ⟨m, result, ended⟩
      · exact ih m (by omega)

theorem ends (fair : Fair p op plan c) {first : Breaker}
    (sound : ∀ n, (c.along p op plan n).Sound p op first) :
    ∃ n result, (c.along p op plan n).stage = .done result :=
  fair.ends_within sound p.retry.maxAttempts 0 (Nat.le_add_left _ _)

end Fair

structure Faithful (p : Pipeline) (op : Operation ε κ (Except Failure α)) (first : Breaker)
    (c : Course ε κ α) : Prop where
  traced : Breaker.Traced first (c.history.map (·.entry)) c.breaker
  -- a run holds a permit given for it, and every earlier one was settled with the outcome of its run
  permitted : ∀ attempt permit call, c.stage = .going (.trying attempt permit call) →
    c.own = c.trials.flatMap Trial.uses ++ [(c.begun, .asked (.ok permit))]
  unpermitted : ∀ execution, c.stage = .going execution →
    (∀ attempt permit call, execution ≠ .trying attempt permit call) →
      c.own = c.trials.flatMap Trial.uses ∧
        (c.perform p op .step).environment = c.environment ∧ (c.perform p op .step).trials = c.trials
  recorded : ∀ attempt permit call, c.stage = .going (.trying attempt permit call) → ∀ trial,
    (c.perform p op .step).trials = c.trials ++ [trial] ↔
      ∃ result, (op.step c.now c.environment call).1 = .finished result ∧
        trial = ⟨c.begun, permit, c.now, result⟩
  counted : ∀ attempt permit call, c.stage = .going (.trying attempt permit call) →
    attempt = c.trials.length + 1 ∧ attempt ≤ p.retry.maxAttempts ∧ attempt ≤ RetryPolicy.maxCount
  spaced : ∀ i before after, c.trials[i]? = some before → c.trials[i + 1]? = some after →
    ∃ delay, p.retry.delayFor (i + 1) = some delay ∧ before.ended + delay ≤ after.begun ∧
      (c.punctual = true → after.begun = before.ended + delay)
  concluded : ∀ result, c.stage = .done result → Concluded p c.trials c.own result
  -- the operation may report exhausted retries of its own
  wrapped : ∀ attempts last, c.stage = .done (.error (.retriesExhausted attempts last)) →
    (∃ trial ∈ c.trials, trial.result = .error (.retriesExhausted attempts last)) ∨
      attempts = c.trials.length ∧ attempts = p.retry.maxAttempts ∧ 1 < attempts ∧
        ((∃ reason, last = .transient reason) ∨ ∃ limit, last = .timeout limit)
  lost : c.stage = .lost → Broken p op

theorem Concluded.wrapped {trials : List (Trial α)} {own : List (Instant × Act)} {attempts : Nat}
    {last : Failure} (concluded : Concluded p trials own (.error (.retriesExhausted attempts last))) :
    (∃ trial ∈ trials, trial.result = .error (.retriesExhausted attempts last)) ∨
      attempts = trials.length ∧ attempts = p.retry.maxAttempts ∧ 1 < attempts ∧
        ((∃ reason, last = .transient reason) ∨ ∃ limit, last = .timeout limit) := by
  generalize reported : (Except.error (.retriesExhausted attempts last) : Except Failure α) = result
    at concluded
  cases concluded with
  | value => cases reported
  | refused => cases reported
  | fatal split _ _ outcome =>
      exact Or.inl ⟨_, by simp [split], outcome⟩
  | @exhausted _ _ failure _ _ spent _ retryable =>
      have report := Except.error.inj reported
      by_cases many : 1 < trials.length
      · rw [if_pos many] at report
        obtain ⟨rfl, rfl⟩ := Failure.retriesExhausted.inj report
        exact Or.inr ⟨rfl, spent, many, Failure.retryable_cases retryable⟩
      · rw [if_neg many] at report
        subst report
        cases retryable

def prepared : Operation (List (Except Failure Nat)) Unit (Except Failure Nat) where
  start := ()
  step _ outcomes _ := (.finished (outcomes.headD (.ok 0)), outcomes.tail)
  abandon outcomes _ := outcomes

def publishing : Pipeline := .new "amqp" .publish (.fixed 2 (.ofMillis 50))

end Course

end Dispatch
