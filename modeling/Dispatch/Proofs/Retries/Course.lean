import Dispatch.Proofs.Breaker.History
import Dispatch.Proofs.Execution

/-!
# The course of a guarded call

A `Course` is one call under a retry policy that nobody cancels, together with the breaker it shares
with others. Moves come in any order: the call takes a step, time passes, somebody else uses the breaker,
the surroundings of the operation change. What happened is kept beside the state that the library has:
every run of the operation is a `Trial`, and the history of the breaker tells the uses of this call from
those of others. A `Stride` is all that one step of the call can do.
-/

set_option autoImplicit false

namespace Dispatch

structure Trial (α : Type) where
  begun : Instant
  permit : Permit
  ended : Instant
  result : Except Failure α

namespace Trial

variable {α : Type}

def uses (t : Trial α) : List (Instant × Act) :=
  [(t.begun, .asked (.ok t.permit)), (t.ended, .settled t.permit (.of t.result))]

def Retryable (t : Trial α) : Prop := ∃ failure, t.result = .error failure ∧ failure.isRetryable

end Trial

namespace Course

inductive Stage (κ α : Type) where
  | going (execution : Execution κ)
  | done (result : Except Failure α)
  | lost

structure Noted where
  own : Bool
  entry : Entry

end Course

/-- `begun` is when the latest run of the operation began; `punctual` says that no time has passed yet
while the call could have gone on after a wait. -/
structure Course (ε κ α : Type) where
  now : Instant
  breaker : Breaker
  environment : ε
  stage : Course.Stage κ α
  begun : Instant
  trials : List (Trial α)
  history : List Course.Noted
  punctual : Bool

namespace Course

variable {ε κ α : Type}

def start (p : Pipeline) (breaker : Breaker) (environment : ε) : Course ε κ α where
  now := 0
  breaker := { breaker with name := p.name }
  environment
  stage := .going (.ready 0)
  begun := 0
  trials := []
  history := []
  punctual := true

inductive Move (ε : Type) where
  | step
  | elapse (duration : Duration)
  | share (use : Breaker.Use)
  | disturb (change : ε → ε)

def note (c : Course ε κ α) (own : Bool) (use : Breaker.Use) : Course ε κ α :=
  { c with
    breaker := (c.breaker.entry c.now use).after
    history := c.history ++ [⟨own, c.breaker.entry c.now use⟩] }

def own (c : Course ε κ α) : List (Instant × Act) :=
  (c.history.filter (·.own)).map fun noted => (noted.entry.time, noted.entry.act)

def waitsUntil (c : Course ε κ α) (instant : Instant) : Bool :=
  match c.stage with
  | .going (.ready made) => made = 0 ∨ instant ≤ c.now
  | .going (.resting _ resumeAt) => instant ≤ resumeAt
  | .going (.trying _ _ _) | .done _ | .lost => true

def witness (op : Operation ε κ (Except Failure α)) (c : Course ε κ α) : Execution κ → Course ε κ α
  | .ready _ => { c.note true .ask with begun := c.now }
  | .trying _ permit call =>
    match (op.step c.now c.environment call).1 with
    | .finished result =>
      { c.note true (.settle permit (.of result)) with
        trials := c.trials ++ [⟨c.begun, permit, c.now, result⟩] }
    | .moved _ | .blocked _ | .overflowed => c
  | .resting _ _ => c

def stageAfter (execution : Execution κ) : Turn (Execution κ) (Except Failure α) → Stage κ α
  | .finished result => .done result
  | .moved execution => .going execution
  | .blocked _ => .going execution
  | .overflowed => .lost

def advance (p : Pipeline) (op : Operation ε κ (Except Failure α)) (c : Course ε κ α)
    (execution : Execution κ) : Course ε κ α :=
  let next := execution.step p op c.now false c.breaker c.environment
  { c.witness op execution with
    breaker := next.breaker
    environment := next.environment
    stage := stageAfter execution next.turn }

def perform (p : Pipeline) (op : Operation ε κ (Except Failure α)) (c : Course ε κ α) :
    Move ε → Course ε κ α
  | .step =>
    match c.stage with
    | .going execution => c.advance p op execution
    | .done _ | .lost => c
  | .elapse duration =>
    { c with
      now := c.now + duration
      punctual := c.punctual && c.waitsUntil (c.now + duration) }
  | .share use => c.note false use
  | .disturb change => { c with environment := change c.environment }

def along (p : Pipeline) (op : Operation ε κ (Except Failure α)) (c : Course ε κ α)
    (plan : Nat → Move ε) : Nat → Course ε κ α
  | 0 => c
  | n + 1 => (c.along p op plan n).perform p op (plan n)

section Stride

variable {p : Pipeline} {op : Operation ε κ (Except Failure α)}

inductive Stride (p : Pipeline) (op : Operation ε κ (Except Failure α)) (c : Course ε κ α) :
    Execution κ → Course ε κ α → Prop
  | refused {made : Nat} {failure : Failure}
      (answer : (c.breaker.request c.now).1 = .error failure) :
      Stride p op c (.ready made)
        { c.note true .ask with begun := c.now, stage := .done (.error failure) }
  | began {made : Nat} {permit : Permit} (answer : (c.breaker.request c.now).1 = .ok permit) :
      Stride p op c (.ready made)
        { c.note true .ask with
          begun := c.now, stage := .going (.trying (made + 1) permit op.start) }
  | worked {attempt : Nat} {permit : Permit} {call after : κ}
      (unfinished : ∀ result, (op.step c.now c.environment call).1 ≠ .finished result) :
      Stride p op c (.trying attempt permit call)
        { c with
          environment := (op.step c.now c.environment call).2
          stage := .going (.trying attempt permit after) }
  | broke {attempt : Nat} {permit : Permit} {call : κ}
      (overflowed : (op.step c.now c.environment call).1 = .overflowed) :
      Stride p op c (.trying attempt permit call)
        { c with environment := (op.step c.now c.environment call).2, stage := .lost }
  | ended {attempt : Nat} {permit : Permit} {call : κ} {result : Except Failure α}
      {turn : Turn (Execution κ) (Except Failure α)}
      (given : (op.step c.now c.environment call).1 = .finished result)
      (concludes : Execution.Concludes p c.now attempt result turn) :
      Stride p op c (.trying attempt permit call)
        { c.note true (.settle permit (.of result)) with
          trials := c.trials ++ [⟨c.begun, permit, c.now, result⟩]
          environment := (op.step c.now c.environment call).2
          stage := stageAfter (.trying attempt permit call) turn }
  | rests {attempt : Nat} {resumeAt : Instant} (early : c.now < resumeAt) :
      Stride p op c (.resting attempt resumeAt) { c with stage := .going (.resting attempt resumeAt) }
  | rested {attempt : Nat} {resumeAt : Instant} (due : resumeAt ≤ c.now) :
      Stride p op c (.resting attempt resumeAt) { c with stage := .going (.ready attempt) }

theorem advance_stride (p : Pipeline) (op : Operation ε κ (Except Failure α)) (c : Course ε κ α)
    (execution : Execution κ) : Stride p op c execution (c.advance p op execution) := by
  cases execution with
  | ready made =>
      have asked : (c.breaker.entry c.now .ask).after = (c.breaker.request c.now).2.1 := rfl
      rcases request : c.breaker.request c.now with ⟨answer, after, events⟩
      cases answer with
      | ok permit =>
          have began : Stride p op c (.ready made) _ :=
            .began (show (c.breaker.request c.now).1 = .ok permit by rw [request])
          simpa [advance, witness, note, asked, request, Execution.step, stageAfter] using began
      | error failure =>
          have refused : Stride p op c (.ready made) _ :=
            .refused (show (c.breaker.request c.now).1 = .error failure by rw [request])
          simpa [advance, witness, note, asked, request, Execution.step, stageAfter] using refused
  | trying attempt permit call =>
      rcases worked : op.step c.now c.environment call with ⟨turn, environment⟩
      cases turn with
      | finished result =>
          have ended : Stride p op c (.trying attempt permit call) _ :=
            .ended (by rw [worked]) (Execution.conclude_concludes p c.now attempt result)
          simpa [advance, witness, note, Execution.step, Execution.settled, worked, Breaker.entry,
            Breaker.settle_record] using ended
      | moved after =>
          have working : Stride p op c (.trying attempt permit call)
              { c with
                environment := (op.step c.now c.environment call).2
                stage := .going (.trying attempt permit after) } := .worked (by simp [worked])
          simpa [advance, witness, Execution.step, worked, stageAfter] using working
      | blocked wake =>
          have working : Stride p op c (.trying attempt permit call)
              { c with
                environment := (op.step c.now c.environment call).2
                stage := .going (.trying attempt permit call) } := .worked (by simp [worked])
          simpa [advance, witness, Execution.step, worked, stageAfter] using working
      | overflowed =>
          have broke : Stride p op c (.trying attempt permit call) _ :=
            .broke (congrArg Prod.fst worked)
          simpa [advance, witness, Execution.step, worked, stageAfter] using broke
  | resting attempt resumeAt =>
      by_cases due : resumeAt ≤ c.now
      · have rested : Stride p op c (.resting attempt resumeAt) _ := .rested due
        simpa [advance, witness, Execution.step, RetryPolicy.rest, Turn.lift, due, stageAfter] using rested
      · have rests : Stride p op c (.resting attempt resumeAt) _ := .rests (Nat.lt_of_not_le due)
        simpa [advance, witness, Execution.step, RetryPolicy.rest, Turn.lift, due, stageAfter] using rests

theorem perform_step {c : Course ε κ α} {execution : Execution κ} (stage : c.stage = .going execution) :
    Stride p op c execution (c.perform p op .step) := by
  simpa only [perform, stage] using advance_stride p op c execution

theorem perform_stage {c : Course ε κ α} {move : Move ε} (other : move ≠ .step) :
    (c.perform p op move).stage = c.stage := by
  cases move with
  | step => exact absurd rfl other
  | elapse duration => rfl
  | share use => rfl
  | disturb change => rfl

end Stride

section Onward

variable {p : Pipeline} {op : Operation ε κ (Except Failure α)}

structure Onward (before after : Course ε κ α) : Prop where
  now : before.now ≤ after.now
  trials : before.trials.length ≤ after.trials.length
  done : ∀ result, before.stage = .done result →
    after.stage = .done result ∧ after.trials = before.trials

theorem Onward.refl (c : Course ε κ α) : c.Onward c :=
  ⟨Nat.le_refl _, Nat.le_refl _, fun _ done => ⟨done, rfl⟩⟩

theorem Onward.trans {a b c : Course ε κ α} (first : a.Onward b) (second : b.Onward c) : a.Onward c where
  now := Nat.le_trans first.now second.now
  trials := Nat.le_trans first.trials second.trials
  done := by
    intro result done
    obtain ⟨still, same⟩ := first.done result done
    obtain ⟨ended, later⟩ := second.done result still
    exact ⟨ended, later.trans same⟩

theorem Stride.onward {c next : Course ε κ α} {execution : Execution κ}
    (stage : c.stage = .going execution) (stride : Stride p op c execution next) : c.Onward next where
  now := by cases stride <;> exact Nat.le_refl _
  trials := by cases stride <;> simp [note]
  done := by simp [stage]

theorem perform_onward (c : Course ε κ α) (move : Move ε) : c.Onward (c.perform p op move) := by
  cases move with
  | step =>
      cases stage : c.stage with
      | going execution => exact (perform_step stage).onward stage
      | done result => simpa only [perform, stage] using Onward.refl c
      | lost => simpa only [perform, stage] using Onward.refl c
  | elapse duration => exact ⟨Nat.le_add_right _ _, Nat.le_refl _, fun _ done => ⟨done, rfl⟩⟩
  | share use => exact ⟨Nat.le_refl _, Nat.le_refl _, fun _ done => ⟨done, rfl⟩⟩
  | disturb change => exact ⟨Nat.le_refl _, Nat.le_refl _, fun _ done => ⟨done, rfl⟩⟩

variable (c : Course ε κ α) {plan : Nat → Move ε}

theorem along_onward {n m : Nat} (le : n ≤ m) :
    (c.along p op plan n).Onward (c.along p op plan m) := by
  induction le with
  | refl => exact .refl _
  | @step m le ih => exact ih.trans (perform_onward (c.along p op plan m) (plan m))

theorem along_stride {n : Nat} {execution : Execution κ} (step : plan n = .step)
    (stage : (c.along p op plan n).stage = .going execution) :
    Stride p op (c.along p op plan n) execution (c.along p op plan (n + 1)) := by
  simpa only [along, step] using perform_step stage

theorem steps_from (steps : ∀ n, ∃ m, n ≤ m ∧ plan m = .step) (n : Nat) :
    ∃ m, n ≤ m ∧ plan m = .step ∧ (c.along p op plan m).stage = (c.along p op plan n).stage := by
  obtain ⟨m, le, step⟩ := steps n
  obtain ⟨k, rfl⟩ := Nat.exists_eq_add_of_le le
  clear le
  -- on the moves before the next step, none of which touches the stage
  induction k generalizing n with
  | zero => exact ⟨n, Nat.le_refl n, step, rfl⟩
  | succ k ih =>
      by_cases now : plan n = .step
      · exact ⟨n, Nat.le_refl n, now, rfl⟩
      · obtain ⟨m, le, stepped, same⟩ := ih (n + 1) (by rwa [Nat.add_right_comm])
        exact ⟨m, Nat.le_of_succ_le le, stepped, same.trans (perform_stage now)⟩

end Onward

end Course

end Dispatch
