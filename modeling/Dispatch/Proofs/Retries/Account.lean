import Dispatch.Proofs.Retries.Course

set_option autoImplicit false

namespace Dispatch

theorem RetryPolicy.maxAttempts_pos (policy : RetryPolicy) : 0 < policy.maxAttempts :=
  Nat.lt_min.2 ⟨Nat.succ_pos _, by decide⟩

namespace Course

variable {ε κ α : Type} {p : Pipeline} {op : Operation ε κ (Except Failure α)}

def Due (p : Pipeline) (punctual : Bool) (trials : List (Trial α)) (instant : Instant) : Prop :=
  ∀ last, trials.getLast? = some last → ∃ delay, p.retry.delayFor trials.length = some delay ∧
    last.ended + delay ≤ instant ∧ (punctual = true → instant = last.ended + delay)

inductive Concluded (p : Pipeline) (trials : List (Trial α)) :
    List (Instant × Act) → Except Failure α → Prop
  | value {earlier : List (Trial α)} {last : Trial α} {value : α} (split : trials = earlier ++ [last])
      (retried : ∀ trial ∈ earlier, trial.Retryable) (budget : trials.length ≤ p.retry.maxAttempts)
      (outcome : last.result = .ok value) :
      Concluded p trials (trials.flatMap Trial.uses) (.ok value)
  | fatal {earlier : List (Trial α)} {last : Trial α} {failure : Failure}
      (split : trials = earlier ++ [last]) (retried : ∀ trial ∈ earlier, trial.Retryable)
      (budget : trials.length ≤ p.retry.maxAttempts) (outcome : last.result = .error failure)
      (fatal : failure.isRetryable = false) :
      Concluded p trials (trials.flatMap Trial.uses) (.error failure)
  | exhausted {earlier : List (Trial α)} {last : Trial α} {failure : Failure}
      (split : trials = earlier ++ [last]) (retried : ∀ trial ∈ earlier, trial.Retryable)
      (spent : trials.length = p.retry.maxAttempts) (outcome : last.result = .error failure)
      (retryable : failure.isRetryable = true) :
      Concluded p trials (trials.flatMap Trial.uses) (.error
        (if 1 < trials.length then .retriesExhausted trials.length failure else failure))
  | refused {time : Instant} (retried : ∀ trial ∈ trials, trial.Retryable)
      (budget : trials.length < p.retry.maxAttempts) :
      Concluded p trials
        (trials.flatMap Trial.uses ++ [(time, .asked (.error (.circuitOpen p.name)))])
        (.error (.circuitOpen p.name))

def Broken (p : Pipeline) (op : Operation ε κ (Except Failure α)) : Prop :=
  (∃ attempt, 0 < attempt ∧ attempt < p.retry.maxAttempts ∧ p.retry.delayFor attempt = none) ∨
    ∃ now environment call, (op.step now environment call).1 = .overflowed

inductive Account (p : Pipeline) (op : Operation ε κ (Except Failure α)) (punctual : Bool)
    (now begun : Instant) (trials : List (Trial α)) (own : List (Instant × Act)) : Stage κ α → Prop
  | ready (retried : ∀ trial ∈ trials, trial.Retryable) (budget : trials.length < p.retry.maxAttempts)
      (due : Due p punctual trials now) (uses : own = trials.flatMap Trial.uses) :
      Account p op punctual now begun trials own (.going (.ready trials.length))
  | trying {permit : Permit} {call : κ} (retried : ∀ trial ∈ trials, trial.Retryable)
      (budget : trials.length < p.retry.maxAttempts) (due : Due p punctual trials begun)
      (uses : own = trials.flatMap Trial.uses ++ [(begun, .asked (.ok permit))]) :
      Account p op punctual now begun trials own (.going (.trying (trials.length + 1) permit call))
  | resting {last : Trial α} {delay : Duration} (retried : ∀ trial ∈ trials, trial.Retryable)
      (budget : trials.length < p.retry.maxAttempts) (latest : trials.getLast? = some last)
      (delayed : p.retry.delayFor trials.length = some delay)
      (waiting : punctual = true → now ≤ last.ended + delay) (uses : own = trials.flatMap Trial.uses) :
      Account p op punctual now begun trials own (.going (.resting trials.length (last.ended + delay)))
  | done {result : Except Failure α} (concluded : Concluded p trials own result) :
      Account p op punctual now begun trials own (.done result)
  | lost (broken : Broken p op) : Account p op punctual now begun trials own .lost

structure Sound (p : Pipeline) (op : Operation ε κ (Except Failure α)) (first : Breaker)
    (c : Course ε κ α) : Prop where
  traced : Breaker.Traced first (c.history.map (·.entry)) c.breaker
  spaced : ∀ i trial, c.trials[i]? = some trial → Due p c.punctual (c.trials.take i) trial.begun
  account : Account p op c.punctual c.now c.begun c.trials c.own c.stage

theorem Sound.stands {first : Breaker} {c : Course ε κ α} {stage : Stage κ α}
    (sound : c.Sound p op first) (here : c.stage = stage) :
    Account p op c.punctual c.now c.begun c.trials c.own stage := here ▸ sound.account

theorem Due.weaken {punctual after : Bool} {trials : List (Trial α)} {instant : Instant}
    (due : Due p punctual trials instant) (weaker : after = true → punctual = true) :
    Due p after trials instant := by
  intro last latest
  obtain ⟨delay, delayed, waited, prompt⟩ := due last latest
  exact ⟨delay, delayed, waited, fun punctual => prompt (weaker punctual)⟩

@[simp]
theorem own_note_own (c : Course ε κ α) (use : Breaker.Use) :
    (c.note true use).own = c.own ++ [(c.now, (c.breaker.entry c.now use).act)] := by
  simp [own, note]

@[simp]
theorem own_note_other (c : Course ε κ α) (use : Breaker.Use) : (c.note false use).own = c.own := by
  simp [own, note]

-- the wait after the latest run is over, and not longer than it had to be if the call is punctual
theorem Due.next {punctual : Bool} {trials : List (Trial α)} {last : Trial α} {delay : Duration}
    {instant : Instant} (latest : trials.getLast? = some last)
    (delayed : p.retry.delayFor trials.length = some delay) (waited : last.ended + delay ≤ instant)
    (prompt : punctual = true → instant ≤ last.ended + delay) : Due p punctual trials instant := by
  intro other same
  obtain rfl := Option.some.inj (latest.symm.trans same)
  exact ⟨delay, delayed, waited, fun punctual => Nat.le_antisymm (prompt punctual) waited⟩

theorem uses_snoc (earlier : List (Trial α)) (trial : Trial α) :
    earlier.flatMap Trial.uses ++ [(trial.begun, .asked (.ok trial.permit))] ++
        [(trial.ended, .settled trial.permit (.of trial.result))] =
      (earlier ++ [trial]).flatMap Trial.uses := by
  simp [Trial.uses]

theorem Account.conclude {punctual : Bool} {now begun : Instant} {earlier : List (Trial α)}
    {last : Trial α} {execution : Execution κ} {turn : Turn (Execution κ) (Except Failure α)}
    (retried : ∀ trial ∈ earlier, trial.Retryable) (budget : earlier.length < p.retry.maxAttempts)
    (ended : last.ended = now)
    (concludes : Execution.Concludes p now (earlier.length + 1) last.result turn) :
    Account p op punctual now begun (earlier ++ [last]) ((earlier ++ [last]).flatMap Trial.uses)
      (stageAfter execution turn) := by
  have count : (earlier ++ [last]).length = earlier.length + 1 := by simp
  have allowed : (earlier ++ [last]).length ≤ p.retry.maxAttempts := count ▸ budget
  rw [← count] at concludes
  generalize outcome : last.result = result at concludes
  cases concludes with
  | value value => exact .done (.value rfl retried allowed outcome)
  | fatal fatal => exact .done (.fatal rfl retried allowed outcome fatal)
  | exhausted retryable spent =>
      exact .done (.exhausted rfl retried (Nat.le_antisymm allowed spent) outcome retryable)
  | again retryable budget delayed =>
      subst ended
      refine .resting ?_ budget (by simp) delayed (fun _ => Nat.le_add_right _ _) rfl
      intro trial among
      rcases List.mem_append.1 among with old | new
      · exact retried trial old
      · obtain rfl := List.mem_singleton.1 new
        exact ⟨_, outcome, retryable⟩
  | endless retryable budget undelayed =>
      exact .lost (Or.inl ⟨_, by simp, budget, undelayed⟩)

section Step

variable {first : Breaker} {c next : Course ε κ α}

theorem Sound.traced_note (sound : c.Sound p op first) (own : Bool) (use : Breaker.Use) :
    Breaker.Traced first ((c.note own use).history.map (·.entry)) (c.note own use).breaker := by
  simp only [note, List.map_append, List.map_singleton]
  exact sound.traced.use c.now use

theorem Sound.spaced_snoc (sound : c.Sound p op first) {trial : Trial α}
    (due : Due p c.punctual c.trials trial.begun) (i : Nat) {later : Trial α}
    (found : (c.trials ++ [trial])[i]? = some later) :
    Due p c.punctual ((c.trials ++ [trial]).take i) later.begun := by
  rcases Nat.lt_or_ge i c.trials.length with old | new
  · rw [List.getElem?_append_left old] at found
    rw [List.take_append_of_le_length (Nat.le_of_lt old)]
    exact sound.spaced i later found
  · have within : i < c.trials.length + 1 := by
      simpa using (List.getElem?_eq_some_iff.1 found).1
    obtain rfl : i = c.trials.length := Nat.le_antisymm (Nat.le_of_lt_succ within) new
    obtain rfl : trial = later := by simpa using found
    simpa using due

theorem Sound.stride {execution : Execution κ} (named : first.name = p.name)
    (sound : c.Sound p op first) (stage : c.stage = .going execution)
    (stride : Stride p op c execution next) : next.Sound p op first := by
  have account := sound.stands stage
  cases stride with
  | refused answer =>
      refine ⟨sound.traced_note true .ask, sound.spaced, .done ?_⟩
      have refusal := Breaker.request_error answer
      rw [sound.traced.settings.1, named] at refusal
      subst refusal
      cases account with
      | ready retried budget due uses =>
          have own := own_note_own c .ask
          simp only [uses, Breaker.entry, answer] at own
          exact own ▸ Concluded.refused retried budget
  | began answer =>
      refine ⟨sound.traced_note true .ask, sound.spaced, ?_⟩
      cases account with
      | ready retried budget due uses =>
          have own := own_note_own c .ask
          simp only [uses, Breaker.entry, answer] at own
          exact .trying retried budget due own
  | worked unfinished =>
      refine ⟨sound.traced, sound.spaced, ?_⟩
      cases account with
      | trying retried budget due uses => exact .trying retried budget due uses
  | broke overflowed => exact ⟨sound.traced, sound.spaced, .lost (Or.inr ⟨_, _, _, overflowed⟩)⟩
  | rests early => exact ⟨sound.traced, sound.spaced, account⟩
  | rested resumed =>
      refine ⟨sound.traced, sound.spaced, ?_⟩
      cases account with
      | resting retried budget latest delayed waiting uses =>
          exact .ready retried budget (.next latest delayed resumed waiting) uses
  | @ended attempt permit call result turn given concludes =>
      cases account with
      | trying retried budget due uses =>
          refine ⟨sound.traced_note true (.settle permit (.of result)),
            fun i trial found => sound.spaced_snoc due i found, ?_⟩
          have own := own_note_own c (.settle permit (.of result))
          simp only [uses, Breaker.entry] at own
          exact (own.trans (uses_snoc c.trials ⟨c.begun, permit, c.now, result⟩)) ▸
            Account.conclude retried budget rfl concludes

theorem Sound.elapse (sound : c.Sound p op first) (duration : Duration) :
    (c.perform p op (.elapse duration)).Sound p op first := by
  have weaker : (c.punctual && c.waitsUntil (c.now + duration)) = true → c.punctual = true :=
    fun both => (Bool.and_eq_true_iff.1 both).1
  refine ⟨sound.traced, fun i trial found => (sound.spaced i trial found).weaken weaker, ?_⟩
  have account := sound.account
  generalize stage : c.stage = s at account
  have waits : (c.perform p op (.elapse duration)).stage = s := stage
  rw [waits]
  cases account with
  | ready retried budget due uses =>
      refine .ready retried budget (fun last latest => ?_) uses
      obtain ⟨delay, delayed, waited, prompt⟩ := due last latest
      refine ⟨delay, delayed, Nat.le_add_right_of_le waited, fun both => ?_⟩
      obtain ⟨punctual, still⟩ := Bool.and_eq_true_iff.1 both
      have latest : c.trials.getLast? = some last := latest
      have ran : c.trials ≠ [] := by
        intro fresh
        simp [fresh] at latest
      have same : c.now + duration ≤ c.now := by simpa [waitsUntil, stage, ran] using still
      exact (Nat.le_antisymm same (Nat.le_add_right _ _)).trans (prompt punctual)
  | trying retried budget due uses => exact .trying retried budget (due.weaken weaker) uses
  | resting retried budget latest delayed waiting uses =>
      refine .resting retried budget latest delayed (fun both => ?_) uses
      have still := (Bool.and_eq_true_iff.1 both).2
      simp only [waitsUntil, stage, decide_eq_true_eq] at still
      exact still
  | done concluded => exact .done concluded
  | lost broken => exact .lost broken

theorem Sound.perform (named : first.name = p.name) (sound : c.Sound p op first) (move : Move ε) :
    (c.perform p op move).Sound p op first := by
  cases move with
  | step =>
      cases stage : c.stage with
      | going execution => exact sound.stride named stage (perform_step stage)
      | done result => simpa only [Course.perform, stage] using sound
      | lost => simpa only [Course.perform, stage] using sound
  | elapse duration => exact sound.elapse duration
  | share use =>
      refine ⟨sound.traced_note false use, sound.spaced, ?_⟩
      exact own_note_other c use ▸ sound.account
  | disturb change => exact ⟨sound.traced, sound.spaced, sound.account⟩

theorem Sound.budget (sound : c.Sound p op first) (unbroken : ¬Broken p op) :
    c.trials.length ≤ p.retry.maxAttempts := by
  have account := sound.account
  generalize c.stage = stage at account
  cases account with
  | ready _ budget => exact Nat.le_of_lt budget
  | trying _ budget => exact Nat.le_of_lt budget
  | resting _ budget => exact Nat.le_of_lt budget
  | done concluded =>
      generalize c.own = own at concluded
      cases concluded with
      | value _ _ budget => exact budget
      | fatal _ _ budget => exact budget
      | exhausted _ _ spent => exact Nat.le_of_eq spent
      | refused _ budget => exact Nat.le_of_lt budget
  | lost broken => exact absurd broken unbroken

end Step

theorem Sound.start (p : Pipeline) (op : Operation ε κ (Except Failure α)) (breaker : Breaker)
    (environment : ε) :
    (start p breaker environment : Course ε κ α).Sound p op { breaker with name := p.name } where
  traced := .start
  spaced := by simp [Course.start]
  account := .ready (by simp [Course.start]) p.retry.maxAttempts_pos (by simp [Due, Course.start]) rfl

theorem Sound.along {first : Breaker} {c : Course ε κ α} (named : first.name = p.name)
    (sound : c.Sound p op first) (plan : Nat → Move ε) (n : Nat) :
    (c.along p op plan n).Sound p op first := by
  induction n with
  | zero => exact sound
  | succ n ih => exact ih.perform named (plan n)

end Course

end Dispatch
