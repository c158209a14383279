import Dispatch.Proofs.Breaker.History
import Dispatch.Proofs.Errands
import Dispatch.Proofs.Execution

/-!
# Attempts and their permits

An attempt to connect or to send holds a permit of the breaker of its kind. Whatever a call does, it keeps
its attempt, or it begins one with a permit that it asked for, or it gives its permit back
(`Breaker.Trades`); none begins while the call is cancelled or given up. What the breaker hears of it is a
`Notice`, which the call alone decides: no notice depends on a breaker (`Breaker.Heeds`).
-/

set_option autoImplicit false

namespace Dispatch

structure Attempt where
  number : Nat
  permit : Permit
  deriving DecidableEq, Repr

inductive Notice where
  | asks
  | ends (verdict : Verdict)
  deriving DecidableEq, Repr

inductive Breaker.Trades (now : Instant) (prompt : Prompt) (b : Breaker) :
    Option Attempt → Option Attempt → Breaker → Prop
  | kept (attempt : Option Attempt) : Trades now prompt b attempt attempt b
  | begun {attempt : Attempt} {next : Breaker} (prompted : prompt = .step false)
      (asked : b.Asked now (.ok attempt.permit) next) : Trades now prompt b none (some attempt) next
  | settled (attempt : Attempt) (verdict : Verdict) :
      Trades now prompt b (some attempt) none (b.record now attempt.permit verdict)

inductive Breaker.Heeds (now : Instant) (prompt : Prompt) (b : Breaker) :
    Option Notice → Option Attempt → Option Attempt → Breaker → Prop
  | quiet (attempt : Option Attempt) : Heeds now prompt b none attempt attempt b
  | refused {failure : Failure} {next : Breaker} (asked : b.Asked now (.error failure) next) :
      Heeds now prompt b (some .asks) none none next
  | begun {attempt : Attempt} {next : Breaker} (prompted : prompt = .step false)
      (asked : b.Asked now (.ok attempt.permit) next) : Heeds now prompt b (some .asks) none (some attempt) next
  | settled (attempt : Attempt) (verdict : Verdict) :
      Heeds now prompt b (some (.ends verdict)) (some attempt) none (b.record now attempt.permit verdict)

theorem Breaker.Heeds.trades {now : Instant} {prompt : Prompt} {b next : Breaker} {notice : Option Notice}
    {before after : Option Attempt} (heeds : b.Heeds now prompt notice before after next) :
    b.Trades now prompt before after next := by
  cases heeds with
  | quiet => exact .kept _
  | refused asked =>
      -- a breaker that refuses stays as it is
      cases asked <;> exact .kept none
  | begun prompted asked => exact .begun prompted asked
  | settled attempt verdict => exact .settled attempt verdict

theorem Breaker.cancel_record (b : Breaker) (now : Instant) (permit : Permit) (verdict : Verdict) :
    (b.record now permit verdict).cancel permit = b.record now permit verdict := by
  have told := b.record_told now permit verdict
  generalize b.record now permit verdict = after at told
  cases told with
  | forgiven closed | counted closed => simp [cancel, closed]
  | tripped | recovered | reopened => simp [cancel]
  | freed half probe => simp [cancel, half, probe]
  | ignored ignored =>
      cases state : b.state with
      | closed | opened => simp [cancel, state]
      | halfOpen =>
          rw [Ignores, state] at ignored
          simp [cancel, ignored]

def Breaker.giveBack (b : Breaker) : Option Attempt → Breaker
  | some attempt => b.cancel attempt.permit
  | none => b

theorem Breaker.giveBack_heeds (b : Breaker) (now : Instant) (prompt : Prompt) (attempt : Option Attempt) :
    b.Heeds now prompt (attempt.map fun _ => .ends .cancelled) attempt none (b.giveBack attempt) := by
  cases attempt with
  | none => exact .quiet none
  | some attempt => exact .settled attempt .cancelled

/-! ## Turns -/

def Turn.attempt? {κ α : Type} (own : κ → Option Attempt) (call : κ) : Turn κ α → Option Attempt
  | .finished _ => none
  | .moved next => own next
  | .blocked _ | .overflowed => own call

/-- What becomes of a breaker in one step of a call. Where a wait leaves the range of durations, the permit may
have been given back although the call still knows it, or may yet have to be. -/
inductive Turn.Heeds {κ α : Type} (now : Instant) (cancelled : Bool) (own : κ → Option Attempt) (call : κ)
    (b : Breaker) : Option Notice → Turn κ α → Breaker → Prop
  | quiet {turn : Turn κ α} (same : turn.attempt? own call = own call)
      (whole : turn = .overflowed → own call = none) : Heeds now cancelled own call b none turn b
  | refused {turn : Turn κ α} {failure : Failure} {after : Breaker} (free : own call = none)
      (still : turn.attempt? own call = none) (asked : b.Asked now (.error failure) after) :
      Heeds now cancelled own call b (some .asks) turn after
  | begun {next : κ} {attempt : Attempt} {after : Breaker} (live : cancelled = false) (free : own call = none)
      (began : own next = some attempt) (asked : b.Asked now (.ok attempt.permit) after) :
      Heeds now cancelled own call b (some .asks) (.moved next) after
  | settled {turn : Turn κ α} {attempt : Attempt} (verdict : Verdict) (running : own call = some attempt)
      (ended : turn.attempt? own call = none ∨ turn = .overflowed) :
      Heeds now cancelled own call b (some (.ends verdict)) turn (b.record now attempt.permit verdict)
  | lost {attempt : Attempt} (running : own call = some attempt) :
      Heeds now cancelled own call b (some (.ends .cancelled)) .overflowed b

namespace Turn.Heeds

variable {κ μ α β : Type} {now : Instant} {cancelled : Bool} {own : κ → Option Attempt} {call : κ}
  {b next : Breaker} {notice : Option Notice} {turn : Turn κ α}

theorem lift (heeds : Turn.Heeds now cancelled own call b notice turn next) {own' : μ → Option Attempt}
    {wrap : κ → μ} {finish : α → Turn μ β} (same : ∀ call, own' (wrap call) = own call)
    (ended : ∀ result, (finish result).attempt? own' (wrap call) = none) :
    Turn.Heeds now cancelled own' (wrap call) b notice (turn.lift wrap finish) next := by
  have lifted : (turn.lift wrap finish).attempt? own' (wrap call) = turn.attempt? own call := by
    cases turn with
    | finished result => exact ended result
    | moved next => exact same next
    | blocked | overflowed => exact same call
  cases heeds with
  | quiet kept whole =>
      refine .quiet (by rw [lifted, kept, same]) fun overflowed => ?_
      cases turn with
      | finished result =>
          have gone := ended result
          rw [show finish result = .overflowed from overflowed] at gone
          exact gone
      | moved | blocked => cases overflowed
      | overflowed => exact (same call).trans (whole rfl)
  | refused free still asked => exact .refused (by rw [same, free]) (by rw [lifted, still]) asked
  | begun live free began asked => exact .begun live (by rw [same, free]) (by rw [same, began]) asked
  | settled verdict running over_ =>
      refine .settled verdict (by rw [same, running]) ?_
      rcases over_ with gone | rfl
      · exact .inl (by rw [lifted, gone])
      · exact .inr rfl
  | lost running => exact .lost (by rw [same, running])

theorem idle (before : own call = none) (after : turn.attempt? own call = none) :
    Turn.Heeds now cancelled own call b none turn b := .quiet (by rw [before, after]) fun _ => before

theorem whole (heeds : Turn.Heeds now cancelled own call b notice turn next) (whole : turn ≠ .overflowed) :
    b.Heeds now (.step cancelled) notice (own call) (turn.attempt? own call) next := by
  cases heeds with
  | quiet same =>
      rw [same]
      exact .quiet _
  | refused free still asked =>
      rw [free, still]
      exact .refused asked
  | begun live free began asked =>
      rw [free, attempt?, began]
      exact .begun (by rw [live]) asked
  | settled verdict running ended =>
      rw [running, ended.resolve_right whole]
      exact .settled _ verdict
  | lost => exact absurd rfl whole

theorem broke (heeds : Turn.Heeds now cancelled own call b notice (.overflowed : Turn κ α) next) :
    b.Heeds now (.step cancelled) notice (own call) none (next.giveBack (own call)) := by
  cases heeds with
  | quiet same whole =>
      rw [whole rfl]
      exact .quiet none
  | refused free still asked =>
      rw [free]
      exact .refused asked
  | settled verdict running =>
      rw [running, Breaker.giveBack, Breaker.cancel_record]
      exact .settled _ verdict
  | lost running =>
      rw [running]
      exact .settled _ .cancelled

end Turn.Heeds

/-! ## Executions -/

namespace Execution

variable {ε κ α : Type}

def attempt? : Execution κ → Option Attempt
  | .trying number permit _ => some ⟨number, permit⟩
  | .ready _ | .resting _ _ => none

theorem conclude_attempt (p : Pipeline) (now : Instant) (attempt : Nat) (result : Except Failure α)
    (call : Execution κ) :
    (conclude p now attempt result).1.attempt? attempt? call = none ∨
      (conclude (κ := κ) p now attempt result).1 = .overflowed := by
  have concludes := conclude_concludes (κ := κ) p now attempt result
  generalize (conclude (κ := κ) p now attempt result).1 = turn at concludes
  cases concludes with
  | value | fatal | exhausted => exact .inl rfl
  | again => exact .inl rfl
  | endless => exact .inr rfl

def notice? (p : Pipeline) (op : Operation ε κ (Except Failure α)) (now : Instant) (environment : ε) :
    Prompt → Execution κ → Option Notice
  | .step cancelled, .ready _ => if cancelled then none else some .asks
  | .step cancelled, .trying _ _ call =>
    if cancelled ∧ p.kind.abortsInFlight then some (.ends .cancelled)
    else
      match (op.step now environment call).1 with
      | .finished result => some (.ends (.of result))
      | .moved _ | .blocked _ => none
      | .overflowed => some (.ends .cancelled)
  | .giveUp, .trying _ _ _ => some (.ends .cancelled)
  | .step _, .resting _ _ | .giveUp, .ready _ | .giveUp, .resting _ _ => none

theorem step_heeds (p : Pipeline) (op : Operation ε κ (Except Failure α)) (now : Instant) (cancelled : Bool)
    (breaker : Breaker) (environment : ε) (execution : Execution κ) :
    let next := execution.step p op now cancelled breaker environment
    Turn.Heeds now cancelled attempt? execution breaker (execution.notice? p op now environment (.step cancelled))
      next.turn next.breaker := by
  cases execution with
  | ready made =>
      simp only [step, notice?]
      split
      · exact .idle rfl rfl
      · rename_i live
        have asked := breaker.request_asked now
        generalize breaker.request now = entry at asked ⊢
        obtain ⟨answer, later, event⟩ := entry
        cases answer with
        | ok permit => exact .begun (by simpa using live) rfl rfl asked
        | error => exact .refused rfl rfl asked
  | trying attempt permit call =>
      have settled (later : ε) (result : Except Failure α) :
          let next := settled (κ := κ) p now attempt permit breaker later result
          Turn.Heeds now cancelled attempt? (.trying attempt permit call) breaker (some (.ends (.of result)))
            next.turn next.breaker := by
        simp only [Execution.settled]
        rw [breaker.settle_record now permit result]
        exact .settled (.of result) (rfl : attempt? (trying attempt permit call) = some ⟨attempt, permit⟩)
          (conclude_attempt p now attempt result _)
      simp only [step, notice?]
      split
      · exact settled _ (.error .cancelled)
      · generalize op.step now environment call = outcome
        obtain ⟨turn, later⟩ := outcome
        cases turn with
        | finished result => exact settled _ result
        | moved | blocked =>
            apply Turn.Heeds.quiet rfl
            intro lost
            cases lost
        | overflowed => exact .lost rfl
  | resting attempt resumeAt =>
      simp only [step, RetryPolicy.rest]
      split
      · exact .idle rfl rfl
      · split
        · exact .idle rfl rfl
        · exact .idle rfl rfl

theorem abandon_breaker (op : Operation ε κ (Except Failure α)) (breaker : Breaker) (environment : ε)
    (execution : Execution κ) :
    (execution.abandon op breaker environment).1 = breaker.giveBack execution.attempt? := by
  cases execution with
  | trying | ready | resting => rfl

theorem notice?_giveUp (p : Pipeline) (op : Operation ε κ (Except Failure α)) (now : Instant) (environment : ε)
    (execution : Execution κ) :
    execution.notice? p op now environment .giveUp = execution.attempt?.map fun _ => .ends .cancelled := by
  cases execution with
  | trying | ready | resting => rfl

end Execution

/-! ## Leases -/

namespace Acquisition

variable {ε ρ κ : Type}

def attempt? : Acquisition κ → Option Attempt
  | .connecting execution => execution.attempt?
  | .arriving | .queued _ _ | .seated => none

def notice? (supply : Supply ε ρ κ) (connect : Pipeline) (now : Instant) (environment : ε) (prompt : Prompt) :
    Acquisition κ → Option Notice
  | .connecting execution => execution.notice? connect supply.create now environment prompt
  | .arriving | .queued _ _ | .seated => none

theorem step_heeds (supply : Supply ε ρ κ) (now : Instant) (cancelled : Bool) (pool : Pool ρ) (breaker : Breaker)
    (environment : ε) (acquisition : Acquisition κ) :
    let next := acquisition.step supply now cancelled pool breaker environment
    Turn.Heeds now cancelled attempt? acquisition breaker
      (acquisition.notice? supply pool.connect now environment (.step cancelled)) next.turn next.breaker := by
  cases acquisition with
  | arriving =>
      simp only [step]
      split
      · exact .idle rfl rfl
      · split
        · exact .idle rfl rfl
        · split
          · exact .idle rfl rfl
          · split
            · exact .idle rfl rfl
            · exact .idle rfl rfl
  | queued ticket deadline =>
      simp only [step]
      split
      · exact .idle rfl rfl
      · split
        · exact .idle rfl rfl
        · split
          · exact .idle rfl rfl
          · split
            · exact .idle rfl rfl
            · split
              · exact .idle rfl rfl
              · exact .idle rfl rfl
  | seated =>
      simp only [step]
      split
      · exact .idle rfl rfl
      · exact .idle rfl rfl
  | connecting execution =>
      have heeds := execution.step_heeds pool.connect supply.create now cancelled breaker environment
      simp only [step, notice?]
      generalize execution.step pool.connect supply.create now cancelled breaker environment = next at heeds ⊢
      obtain ⟨turn, after, later, events⟩ := next
      have lifted : Turn.Heeds now cancelled attempt? (connecting execution) breaker
          (execution.notice? pool.connect supply.create now environment (.step cancelled))
          (turn.lift connecting fun result =>
            .finished (result.map fun resource => (pool.addCreated resource now).1)) after :=
        heeds.lift (fun _ => rfl) fun _ => rfl
      cases turn with
      | finished result => cases result <;> exact lifted
      | moved | blocked | overflowed => exact lifted

theorem abandon_breaker (supply : Supply ε ρ κ) (pool : Pool ρ) (breaker : Breaker) (environment : ε)
    (acquisition : Acquisition κ) :
    (acquisition.abandon supply pool breaker environment).2.1 = breaker.giveBack acquisition.attempt? := by
  cases acquisition with
  | connecting execution => exact execution.abandon_breaker supply.create breaker environment
  | arriving | queued | seated => rfl

theorem notice?_giveUp (supply : Supply ε ρ κ) (connect : Pipeline) (now : Instant) (environment : ε)
    (acquisition : Acquisition κ) :
    acquisition.notice? supply connect now environment .giveUp =
      acquisition.attempt?.map fun _ => .ends .cancelled := by
  cases acquisition with
  | connecting execution => exact execution.notice?_giveUp connect supply.create now environment
  | arriving | queued | seated => rfl

end Acquisition

end Dispatch
