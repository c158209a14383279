import Dispatch.Proofs.Breaker.Probe
import Dispatch.Retry
import Mathlib.Data.List.DropRight

set_option autoImplicit false

namespace Dispatch

theorem BreakerPolicy.limit_pos (policy : BreakerPolicy) : 0 < max policy.threshold 1 := by omega

def Entry.startsOver (e : Entry) : Bool :=
  e.isReset || e.closes || e.succeeded && decide (e.before.state = .closed)

def failuresSince (history : List Entry) : Nat :=
  (history.rtakeWhile (!·.startsOver)).countP (·.failed)

theorem failuresSince_over {history : List Entry} {e : Entry} (restart : e.startsOver = true) :
    failuresSince (history ++ [e]) = 0 := by
  unfold failuresSince
  rw [List.rtakeWhile_concat_neg _ _ _ (by simp [restart])]
  rfl

theorem failuresSince_kept {history : List Entry} {e : Entry} (kept : e.startsOver = false) :
    failuresSince (history ++ [e]) = failuresSince history + e.failed.toNat := by
  unfold failuresSince
  rw [List.rtakeWhile_concat_pos _ _ _ (by simp [kept]), List.countP_append]
  cases failed : e.failed <;> simp [failed]

namespace Breaker

variable {name : String} {policy : BreakerPolicy} {history : List Entry} {b : Breaker}

structure Counted (policy : BreakerPolicy) (history : List Entry) (b : Breaker) : Prop where
  closed : b.state = .closed → b.failures = failuresSince history
  other : b.state ≠ .closed → b.failures = 0
  bound : b.failures < max policy.threshold 1

theorem Counted.asked {now : Instant} {answer : Except Failure Permit} {after : Breaker}
    (counted : Counted policy history b) (asked : b.Asked now answer after) :
    Counted policy (history ++ [⟨now, .asked answer, b, after⟩]) after := by
  cases asked with
  | pass | early | busy =>
      refine ⟨fun closed => ?_, counted.other, counted.bound⟩
      rw [failuresSince_kept (by simp [Entry.startsOver, Entry.isReset, Entry.closes, Entry.succeeded])]
      exact counted.closed closed
  | due cooling due =>
      exact ⟨by simp, fun _ => counted.other (by simp [cooling]), counted.bound⟩
  | probe half free =>
      exact ⟨by simp [half], fun _ => counted.other (by simp [half]), counted.bound⟩

theorem Counted.told {now : Instant} {permit : Permit} {verdict : Verdict} {after : Breaker}
    (counted : Counted b.policy history b) (told : b.Told now permit verdict after) :
    Counted b.policy (history ++ [⟨now, .settled permit verdict, b, after⟩]) after := by
  have bound := counted.bound
  cases told with
  | ignored ignored =>
      refine ⟨fun closed => ?_, counted.other, bound⟩
      have cancelled : verdict = .cancelled := by simpa [Ignores, closed] using ignored
      subst cancelled
      rw [failuresSince_kept (by simp [Entry.startsOver, Entry.isReset, Entry.closes, Entry.succeeded])]
      exact counted.closed closed
  | forgiven closed =>
      refine ⟨fun _ => ?_, fun _ => rfl, BreakerPolicy.limit_pos _⟩
      exact (failuresSince_over (by simp [Entry.startsOver, Entry.succeeded, closed])).symm
  | counted closed few =>
      refine ⟨fun _ => ?_, fun open_ => absurd closed open_, Nat.lt_of_lt_of_le few (Nat.le_max_left _ _)⟩
      rw [failuresSince_kept (by
        simp [Entry.startsOver, Entry.isReset, Entry.closes, Entry.succeeded, closed])]
      exact congrArg (· + 1) (counted.closed closed)
  | tripped closed enough => exact ⟨by simp, fun _ => rfl, BreakerPolicy.limit_pos _⟩
  | recovered half probe =>
      refine ⟨fun _ => ?_, fun _ => rfl, BreakerPolicy.limit_pos _⟩
      exact (failuresSince_over (by simp [Entry.startsOver, Entry.closes, half])).symm
  | reopened half probe => exact ⟨by simp, fun _ => counted.other (by simp [half]), bound⟩
  | freed half probe => exact ⟨by simp [half], fun _ => counted.other (by simp [half]), bound⟩

theorem Traced.counted (traced : Traced (.new name policy) history b) : Counted policy history b := by
  induction traced with
  | start => exact ⟨fun _ => rfl, fun _ => rfl, BreakerPolicy.limit_pos _⟩
  | @use history b traced now use ih =>
      obtain rfl : b.policy = policy := traced.settings.2
      cases use with
      | ask => exact ih.asked (b.request_asked now)
      | settle permit verdict => exact ih.told (b.record_told now permit verdict)
      | reset =>
          refine ⟨fun _ => ?_, fun _ => rfl, BreakerPolicy.limit_pos _⟩
          exact (failuresSince_over (by simp [Entry.startsOver, Entry.isReset, entry])).symm

theorem record_closed (closed : b.state = .closed) (now : Instant) (permit : Permit)
    (verdict : Verdict) :
    (b.record now permit verdict).state =
      if verdict = .failure ∧ b.policy.threshold ≤ b.failures + 1 then
        .opened (now + b.policy.cooldown)
      else .closed := by
  have told := b.record_told now permit verdict
  generalize b.record now permit verdict = after at told ⊢
  cases told with
  | ignored ignored =>
      have cancelled : verdict = .cancelled := by simpa [Ignores, closed] using ignored
      simp [cancelled, closed]
  | forgiven => simp [closed]
  | counted _ few => simp [Nat.not_le_of_lt few, closed]
  | tripped _ enough => simp [enough]
  | recovered half | reopened half | freed half => simp [closed] at half

/-- What opened the circuit and all that came after it, none of which the breaker noticed. -/
structure Cooling (b : Breaker) (history : List Entry) (probeAt : Instant) (past : List Entry)
    (opening : Entry) (since : List Entry) : Prop where
  split : history = past ++ opening :: since
  opens : opening.opens
  failed : opening.failed
  deadline : probeAt = opening.time + b.policy.cooldown
  untouched : ∀ entry ∈ since, entry.before = b ∧ entry.after = b
  refused : ∀ entry ∈ since, ∀ answer, entry.act = .asked answer →
    entry.time < probeAt ∧ answer = .error (.circuitOpen b.name)

theorem Cooling.keep {probeAt : Instant} {past since : List Entry} {opening e : Entry}
    (cooling : Cooling b history probeAt past opening since) (same : e.before = b ∧ e.after = b)
    (refused : ∀ answer, e.act = .asked answer →
      e.time < probeAt ∧ answer = .error (.circuitOpen b.name)) :
    Cooling b (history ++ [e]) probeAt past opening (since ++ [e]) where
  split := by simp [cooling.split]
  opens := cooling.opens
  failed := cooling.failed
  deadline := cooling.deadline
  untouched := by
    intro entry member
    rcases List.mem_append.1 member with old | new
    · exact cooling.untouched entry old
    · rw [List.mem_singleton.1 new]
      exact same
  refused := by
    intro entry member
    rcases List.mem_append.1 member with old | new
    · exact cooling.refused entry old
    · rw [List.mem_singleton.1 new]
      exact refused

theorem Traced.cooling {first : Breaker} (traced : Traced first history b)
    (shut : first.state.isOpen = false) {probeAt : Instant} (state : b.state = .opened probeAt) :
    ∃ past opening since, Cooling b history probeAt past opening since := by
  induction traced generalizing probeAt with
  | start => simp [state, CircuitState.isOpen] at shut
  | @use history b traced now use ih =>
      cases use with
      | reset => simp [entry, reset, Breaker.new] at state
      | ask =>
          have asked := b.request_asked now
          simp only [entry] at state ⊢
          generalize (b.request now).1 = answer at asked ⊢
          generalize (b.request now).2.1 = after at asked state ⊢
          cases asked with
          | pass closed => simp [closed] at state
          | due => simp at state
          | busy half | probe half => simp [half] at state
          | @early due cooling early =>
              obtain ⟨past, opening, since, cooled⟩ := ih state
              obtain rfl : due = probeAt := by simpa [cooling] using state
              refine ⟨past, opening, _, cooled.keep ⟨rfl, rfl⟩ fun answer same => ?_⟩
              cases same
              exact ⟨early, rfl⟩
      | settle permit verdict =>
          have told := b.record_told now permit verdict
          simp only [entry] at state ⊢
          generalize b.record now permit verdict = after at told state ⊢
          cases told with
          | ignored ignored =>
              obtain ⟨past, opening, since, cooled⟩ := ih state
              exact ⟨past, opening, _, cooled.keep ⟨rfl, rfl⟩ fun _ asked => by cases asked⟩
          | forgiven closed | counted closed => simp [closed] at state
          | recovered => simp at state
          | freed half => simp [half] at state
          | tripped shut _ | reopened shut _ =>
              have due : now + b.policy.cooldown = probeAt := by simpa using state
              refine ⟨history, _, [], rfl, ?_, rfl, due.symm, by simp, by simp⟩
              simp [Entry.opens, CircuitState.isOpen, shut]

end Breaker

namespace Circuit

variable {α : Type}

def Trips (policy : BreakerPolicy) (c : Circuit) (move : Move α) : Prop :=
  (∃ holder held, move.outcome? = some (holder, .failure) ∧ c.held[holder]? = some held) ∧
    failuresSince c.history + 1 = max policy.threshold 1

theorem perform_closed {policy : BreakerPolicy} {c : Circuit} (known : c.breaker.policy = policy)
    (counted : Breaker.Counted policy c.history c.breaker) (closed : c.breaker.state = .closed)
    (move : Move α) :
    (Trips policy c move → (c.perform move).breaker.state = .opened (c.now + policy.cooldown)) ∧
      (¬Trips policy c move → (c.perform move).breaker.state = .closed) := by
  have count := counted.closed closed
  have bound := counted.bound
  subst known
  cases outcome : move.outcome? with
  | none =>
      refine ⟨?_, fun _ => ?_⟩
      · rintro ⟨⟨holder, held, told, _⟩, _⟩
        simp [outcome] at told
      · cases move with
        | ask => simp [perform, ask, note, Breaker.entry, Breaker.request, closed]
        | elapse => exact closed
        | reset => rfl
        | succeed | fail | cancel | settle => cases outcome
  | some settled =>
      obtain ⟨holder, verdict⟩ := settled
      cases found : c.held[holder]? with
      | none =>
          rw [perform_idle outcome found]
          refine ⟨?_, fun _ => closed⟩
          rintro ⟨⟨_, held, told, here⟩, _⟩
          cases outcome.symm.trans told
          simp [found] at here
      | some held =>
          have trips : Trips c.breaker.policy c move ↔
              verdict = .failure ∧ c.breaker.policy.threshold ≤ c.breaker.failures + 1 := by
            constructor
            · rintro ⟨⟨_, _, told, _⟩, full⟩
              cases outcome.symm.trans told
              exact ⟨rfl, by omega⟩
            · rintro ⟨rfl, enough⟩
              exact ⟨⟨holder, held, outcome, found⟩, by omega⟩
          have state := Breaker.record_closed closed c.now held.permit verdict
          rw [perform_settled outcome found, trips]
          simp only [Circuit.settled, note, Breaker.entry]
          exact ⟨fun full => state.trans (if_pos full), fun lacking => state.trans (if_neg lacking)⟩

structure FollowsHistory (policy : BreakerPolicy) (c : Circuit) : Prop where
  counted : c.breaker.state = .closed → c.breaker.failures = failuresSince c.history
  bounded : c.breaker.failures < max policy.threshold 1
  fits : policy.threshold ≤ RetryPolicy.maxCount → c.breaker.failures + 1 ≤ RetryPolicy.maxCount
  trips : c.breaker.state = .closed → ∀ {α : Type} (move : Move α),
    (Trips policy c move → (c.perform move).breaker.state = .opened (c.now + policy.cooldown)) ∧
      (¬Trips policy c move → (c.perform move).breaker.state = .closed)
  cooling : ∀ probeAt, c.breaker.state = .opened probeAt →
    ∃ past opening since, Breaker.Cooling c.breaker c.history probeAt past opening since
  rejected : ∀ probeAt, c.breaker.state = .opened probeAt → c.now < probeAt →
    c.breaker.request c.now = (.error (.circuitOpen c.breaker.name), c.breaker, [])
  admitted : ∀ probeAt, c.breaker.state = .opened probeAt → probeAt ≤ c.now →
    (c.breaker.request c.now).1 = .ok ⟨true⟩
  recovered : ∀ {α : Type} (move : Move α) (holder : Nat) (held : Held),
    move.outcome? = some (holder, .success) → c.held[holder]? = some held → held.permit.probe →
    (c.perform move).breaker.state = .closed ∧ (c.perform move).breaker.failures = 0
  reopened : ∀ {α : Type} (move : Move α) (holder : Nat) (held : Held),
    move.outcome? = some (holder, .failure) → c.held[holder]? = some held → held.permit.probe →
    (c.perform move).breaker.state = .opened (c.now + policy.cooldown)
  uncounted : ∀ {α : Type} (move : Move α) (holder : Nat), move.outcome? = some (holder, .cancelled) →
    (c.perform move).breaker.state = c.breaker.state ∧
      (c.perform move).breaker.failures = c.breaker.failures

/-- A circuit that is never reset counts, opens, cools down and closes as its history says. -/
theorem follows_history (name : String) (policy : BreakerPolicy) (moves : List (Move α))
    (steady : .reset ∉ moves) : ((start name policy).run moves).FollowsHistory policy := by
  have traced := run_traced name policy moves
  have one := (run_probes name policy moves (run_steady steady)).1
  generalize (start name policy).run moves = c at traced one
  have counted := traced.counted
  have known : c.breaker.policy = policy := traced.settings.2
  have bound := counted.bound
  refine ⟨counted.closed, bound, fun small => ?_, fun closed _ => perform_closed known counted closed,
    fun probeAt => traced.cooling rfl, ?_, ?_, ?_, ?_, ?_⟩
  · have positive : 1 ≤ RetryPolicy.maxCount := by decide
    omega
  · intro probeAt state early
    simp [Breaker.request, state, Nat.not_le_of_lt early]
  · intro probeAt state due
    simp [Breaker.request, state, due]
  · intro _ move holder held outcome found probe
    have half := (one.of_held (List.mem_of_getElem? found) probe).2
    rw [perform_settled outcome found]
    simp [Circuit.settled, note, Breaker.entry, Breaker.record, Breaker.succeed, half, probe]
  · intro _ move holder held outcome found probe
    have half := (one.of_held (List.mem_of_getElem? found) probe).2
    rw [perform_settled outcome found]
    simp [Circuit.settled, note, Breaker.entry, Breaker.record, Breaker.fail, half, probe, known]
  · intro _ move holder outcome
    cases found : c.held[holder]? with
    | none =>
        rw [perform_idle outcome found]
        exact ⟨rfl, rfl⟩
    | some held =>
        rw [perform_settled outcome found]
        simp only [Circuit.settled, note, Breaker.entry, Breaker.record, Breaker.cancel]
        split <;> exact ⟨rfl, rfl⟩

def cooling : List (Move Unit) :=
  [.ask, .ask, .ask, .fail 0, .cancel 0, .settle 0 (.error (.timeout 5)), .elapse (.ofMillis 49), .ask]

theorem follows_history_cooling :
    .reset ∉ cooling ∧
      ((start "amqp.publish" ⟨2, .ofMillis 50⟩).run cooling).breaker.state =
        .opened (Duration.ofMillis 50) ∧
      ((start "amqp.publish" ⟨2, .ofMillis 50⟩).run cooling).FollowsHistory ⟨2, .ofMillis 50⟩ :=
  ⟨by simp [cooling], by decide, follows_history _ _ _ (by simp [cooling])⟩

end Circuit

end Dispatch
