import Dispatch.Proofs.Breaker.History
import Dispatch.Proofs.Errands
import Dispatch.Proofs.Execution

set_option autoImplicit false

namespace Dispatch

theorem Failure.isCancelled_iff {failure : Failure} : failure.isCancelled = true ↔ failure = .cancelled := by
  cases failure <;> simp [isCancelled]

theorem TransportError.failure_ne_cancelled (error : TransportError) : error.failure ≠ .cancelled := by
  cases error <;> simp [failure, isTransient]

namespace BrokerError

theorem isCancelled_ofFailure (backend : Backend) (operation : OperationKind) {otherwise : Failure → BrokerError}
    (other : ∀ failure, (otherwise failure).isCancelled = false) (failure : Failure) :
    (ofFailure backend operation otherwise failure).isCancelled = failure.isCancelled := by
  unfold ofFailure
  cases cancelled : failure.isCancelled with
  | true => rfl
  | false =>
      rw [if_neg Bool.false_ne_true]
      split
      · rfl
      · exact other failure

theorem isCancelled_ofAcquire (backend : Backend) (failure : Failure) :
    (ofAcquire backend failure).isCancelled = failure.isCancelled :=
  isCancelled_ofFailure backend .connect (fun _ => rfl) failure

theorem isCancelled_ofPublish (backend : Backend) (failure : Failure) :
    (ofPublish backend failure).isCancelled = failure.isCancelled :=
  isCancelled_ofFailure backend .publish (fun _ => rfl) failure

end BrokerError

def Except.isCancelled {α : Type} : Except BrokerError α → Bool
  | .ok _ => false
  | .error error => error.isCancelled

def Reply.isCancelled : Reply → Bool
  | .published result => Except.isCancelled result
  | .checked result => Except.isCancelled result
  | .consumed result => Except.isCancelled result
  | .checkedAll results => results.any fun entry => Except.isCancelled entry.2
  | .abandoned => false

/-! ## Guarded calls -/

def Operation.Uncancelled {ε κ α : Type} (op : Operation ε κ (Except Failure α)) : Prop :=
  ∀ now environment call, (op.step now environment call).1 ≠ .finished (.error .cancelled)

namespace Execution

variable {ε κ α : Type}

theorem conclude_cancelled {p : Pipeline} {now : Instant} {attempt : Nat} {result : Except Failure α}
    (told : (conclude (κ := κ) p now attempt result).1 = .finished (.error .cancelled)) :
    result = .error .cancelled := by
  have concludes := conclude_concludes (κ := κ) p now attempt result
  rw [told] at concludes
  generalize same : (Turn.finished (.error .cancelled) : Turn (Execution κ) (Except Failure α)) = turn at concludes
  cases concludes with
  | value | again | endless => cases same
  | fatal => cases same; rfl
  | exhausted retryable =>
      split at same
      · cases same
      · cases same
        cases retryable

theorem step_cancelled {p : Pipeline} {op : Operation ε κ (Except Failure α)} (honest : op.Uncancelled)
    {now : Instant} {cancelled : Bool} {breaker : Breaker} {environment : ε} {execution : Execution κ}
    (told : (execution.step p op now cancelled breaker environment).turn = .finished (.error .cancelled)) :
    cancelled = true := by
  cases execution with
  | ready made =>
      simp only [step] at told
      split at told
      · assumption
      · split at told
        · cases told
        · rename_i failure after events asked
          cases told
          cases Breaker.request_error (congrArg Prod.fst asked)
  | trying attempt permit call =>
      simp only [step] at told
      split at told
      · rename_i cut
        exact cut.1
      · split at told
        · rename_i result environment stepped
          have same := conclude_cancelled told
          rw [same] at stepped
          exact absurd (congrArg Prod.fst stepped) (honest now _ call)
        · cases told
        · cases told
        · cases told
  | resting attempt resumeAt =>
      simp only [step, RetryPolicy.rest] at told
      split at told
      · assumption
      · split at told <;> cases told

end Execution

namespace Acquisition

variable {ε ρ κ : Type}

theorem step_cancelled {supply : Supply ε ρ κ} (honest : supply.create.Uncancelled) {now : Instant} {cancelled : Bool}
    {pool : Pool ρ} {breaker : Breaker} {environment : ε} {acquisition : Acquisition κ}
    (told : (acquisition.step supply now cancelled pool breaker environment).turn = .finished (.error .cancelled)) :
    cancelled = true := by
  cases acquisition with
  | arriving =>
      simp only [step] at told
      split at told
      · assumption
      · split at told
        · cases told
        · split at told
          · cases told
          · split at told <;> cases told
  | queued ticket deadline =>
      simp only [step] at told
      split at told
      · cases told
      · split at told
        · assumption
        · split at told
          · cases told
          · split at told
            · cases told
            · split at told <;> cases told
  | seated =>
      simp only [step] at told
      split at told <;> cases told
  | connecting execution =>
      simp only [step] at told
      split at told
      · cases told
      · cases told
      · cases told
      · rename_i failure finished
        cases told
        exact execution.step_cancelled honest finished
      · cases told

end Acquisition

/-! ## Clients of brokers -/

theorem Turn.uncancelled {κ μ α : Type} {wrap : κ → μ} (turn : Turn κ (Except TransportError α)) :
    turn.lift wrap (fun result => .finished (result.mapError TransportError.failure)) ≠
      .finished (.error .cancelled) := by
  intro told
  cases turn with
  | moved | blocked | overflowed => cases told
  | finished result =>
      cases result with
      | ok value => cases told
      | error error => exact error.failure_ne_cancelled (Except.error.inj (Turn.finished.inj told))

section Clients

variable {ε ρ σ κ : Type} (a : Adapter ε ρ σ κ)

theorem Adapter.create_uncancelled : a.supply.create.Uncancelled := by
  intro now s call told
  rw [(a.supply_step now s call).1] at told
  exact Turn.uncancelled _ told

theorem Publishing.send_uncancelled (lease : Lease ρ) (envelope : Envelope) :
    (sendOperation a lease envelope).Uncancelled := fun _ _ _ => Turn.uncancelled _

theorem Consuming.subscribe_uncancelled (source : String) : (subscribeOperation a source).Uncancelled :=
  fun _ _ _ => Turn.uncancelled _

end Clients

/-! ## Parts -/

theorem Bucket.wait_cancelled {b : Bucket} {cancelled : Bool} {failure : Failure}
    (told : (b.wait cancelled).1 = .finished (.error failure)) : cancelled = true := by
  cases cancelled with
  | true => rfl
  | false =>
      by_cases empty : b.tokens = 0
      · simp [wait, take, empty] at told
      · simp [wait, take, empty] at told

namespace Publishing

variable {ε ρ σ κ : Type} {a : Adapter ε ρ σ κ} {s : Shared ε} {now : Instant} {cancelled : Bool}

theorem step_cancelled {message : Outgoing} {progress : Publishing ρ κ} {result : Except BrokerError Receipt}
    (told : (progress.step a s message now cancelled).turn = .finished result)
    (reported : Except.isCancelled result = true) : cancelled = true := by
  cases progress with
  | fresh => cases told
  | limiting span =>
      simp only [step] at told
      split at told
      · cases told
      · split at told
        · rename_i bucket failure after waited
          exact Bucket.wait_cancelled (congrArg Prod.fst waited)
        · cases told
        · cases told
  | leasing span acquisition =>
      simp only [step, Adapter.stepLease] at told
      split at told
      · cases told
      · rename_i failure finished
        rw [conclude_turn] at told
        cases told
        rw [Except.isCancelled, BrokerError.isCancelled_ofAcquire, Failure.isCancelled_iff] at reported
        rw [reported] at finished
        exact acquisition.step_cancelled a.create_uncancelled finished
      · cases told
      · cases told
      · cases told
  | preparing span lease =>
      simp only [step] at told
      split at told
      · rw [conclusion_turn] at told
        cases told
        cases reported
      · cases told
  | sending span lease envelope execution =>
      simp only [step] at told
      split at told
      · rw [conclusion_turn] at told
        cases told
        cases reported
      · rename_i failure finished
        rw [conclusion_turn] at told
        cases told
        rw [Except.isCancelled, BrokerError.isCancelled_ofPublish, Failure.isCancelled_iff] at reported
        rw [reported] at finished
        exact execution.step_cancelled (send_uncancelled a lease envelope) finished
      · cases told
      · cases told
      · cases told

end Publishing

namespace Checking

variable {ε ρ σ κ : Type} {a : Adapter ε ρ σ κ} {s : Shared ε} {now : Instant} {cancelled : Bool}

theorem step_cancelled {progress : Checking ρ κ} {result : Except BrokerError Unit}
    (told : (progress.step a s now cancelled).turn = .finished result)
    (reported : Except.isCancelled result = true) : cancelled = true := by
  cases progress with
  | leasing acquisition =>
      simp only [step, Adapter.stepLease] at told
      generalize finished :
        (acquisition.step a.supply now cancelled a.pool a.connectBreaker s.surroundings).turn = turn at told
      cases turn with
      | finished obtained =>
          cases obtained with
          | ok lease => cases told
          | error failure =>
              cases told
              rw [Except.isCancelled, BrokerError.isCancelled_ofAcquire, Failure.isCancelled_iff] at reported
              rw [reported] at finished
              exact acquisition.step_cancelled a.create_uncancelled finished
      | moved | blocked | overflowed => cases told
  | pinging lease =>
      simp only [step] at told
      cases told
      split at reported
      · assumption
      · split at reported <;> cases reported

end Checking

namespace Consuming

variable {ε ρ σ κ η : Type} {a : Adapter ε ρ σ κ} {s : Shared ε} {now : Instant} {cancelled : Bool}

theorem step_cancelled {source : String} {handler : Handler ε η} {progress : Consuming ρ σ κ η}
    {result : Except BrokerError ConsumeSummary}
    (told : (progress.step a s source handler now cancelled).turn = .finished result)
    (reported : Except.isCancelled result = true) : cancelled = true := by
  cases progress with
  | opening execution =>
      simp only [step] at told
      split at told
      · cases told
      · rename_i failure finished
        cases told
        rw [Except.isCancelled, BrokerError.isCancelled_ofAcquire, Failure.isCancelled_iff] at reported
        rw [reported] at finished
        exact execution.step_cancelled (subscribe_uncancelled a source) finished
      · cases told
      · cases told
      · cases told
  | receiving subscription summary call =>
      simp only [step] at told
      split at told
      · assumption
      · split at told
        · cases told
        · cases told
          cases reported
        · cases told
          cases reported
        · cases told
        · cases told
        · cases told
  | handling subscription summary delivery call =>
      simp only [step] at told
      split at told <;> cases told
  | settling subscription summary accepted call =>
      simp only [step] at told
      split at told
      · cases told
      · cases told
        cases reported
      · cases told
      · cases told
      · cases told

end Consuming

namespace Part

variable {ε ρ σ κ η : Type} {now : Instant} {a next : Adapter ε ρ σ κ} {s later : Shared ε} {part : Part ε ρ σ κ η}
  {prompt : Prompt}

theorem step_cancelled {cancelled : Bool} {reply : Reply} (told : (part.step a s now cancelled).turn = .finished reply)
    (reported : reply.isCancelled = true) : cancelled = true := by
  cases part with
  | publishing message progress =>
      simp only [step] at told
      generalize finished : (progress.step a s message now cancelled).turn = turn at told
      cases turn with
      | finished result =>
          cases told
          exact Publishing.step_cancelled finished reported
      | moved | blocked | overflowed => cases told
  | checking progress =>
      simp only [step] at told
      generalize finished : (progress.step a s now cancelled).turn = turn at told
      cases turn with
      | finished result =>
          cases told
          exact Checking.step_cancelled finished reported
      | moved | blocked | overflowed => cases told
  | consuming source handler progress =>
      simp only [step] at told
      generalize finished : (progress.step a s source handler now cancelled).turn = turn at told
      cases turn with
      | finished result =>
          cases told
          exact Consuming.step_cancelled finished reported
      | moved | blocked | overflowed => cases told

theorem Deed.cancelled {reply : Reply} (deed : part.Deed now a s prompt (.settled reply) next later)
    (reported : reply.isCancelled = true) : prompt = .step true := by
  cases deed with
  | finished told => rw [step_cancelled told reported]
  | broke | gaveUp => cases reported

end Part

/-! ## Replies in an exchange -/

section Errands

variable {ε ρ σ κ η : Type}

def Errand.isCancelled : Errand ε ρ σ κ η → Bool
  | .running call => call.checks.any fun entry => Except.isCancelled entry.2
  | .ended reply => reply.isCancelled

theorem Call.Leaves.isCancelled {call : Call ε ρ σ κ η} {errand : Errand ε ρ σ κ η} (leaves : call.Leaves errand)
    (told : errand.isCancelled = true) : (Errand.running call).isCancelled = true := by
  cases leaves with
  | gone => cases told
  | checked | skipped => exact told

theorem Call.Succeeds.isCancelled {call : Call ε ρ σ κ η} {place : Nat} {fate : Part.Fate ε ρ σ κ η}
    {errand : Errand ε ρ σ κ η} (succeeds : call.Succeeds place fate errand) (told : errand.isCancelled = true) :
    (Errand.running call).isCancelled = true ∨ ∃ reply, fate = .settled reply ∧ reply.isCancelled = true := by
  cases succeeds with
  | goesOn known checks =>
      left
      rw [Errand.isCancelled, checks] at told
      exact told
  | settled reply => exact .inr ⟨reply, rfl, told⟩
  | @checked name result left =>
      simp only [Errand.isCancelled, Call.checks, List.any_append, Bool.or_eq_true, List.any_cons, List.any_nil,
        Bool.or_false] at told
      exact told.imp id fun reported => ⟨_, rfl, reported⟩

namespace Exchange

variable {x y : Exchange ε ρ σ κ η} {move : Move ε ρ σ κ η}

theorem Change.isCancelled (change : x.Change move y) {number : Nat} {errand : Errand ε ρ σ κ η}
    (found : y.errands[number]? = some errand) (told : errand.isCancelled = true) :
    (∃ before, x.errands[number]? = some before ∧ before.isCancelled = true) ∨ move = .step number true := by
  have old (found : x.errands[number]? = some errand) :
      (∃ before, x.errands[number]? = some before ∧ before.isCancelled = true) ∨ move = .step number true :=
    .inl ⟨errand, found, told⟩
  cases change with
  | tended _ errands | passed _ _ _ errands => exact old (errands ▸ found)
  | began _ _ checks _ errands =>
      rw [errands] at found
      rcases getElem?_concat_cases found with found | ⟨-, rfl⟩
      · exact old found
      · rw [Errand.isCancelled, checks] at told
        cases told
  | left prompted running vacant leaves registry errands =>
      rw [errands] at found
      rcases getElem?_set_cases found with ⟨rfl, rfl⟩ | ⟨-, found⟩
      · exact .inl ⟨_, running, leaves.isCancelled told⟩
      · exact old found
  | acted prompted running known here deed succeeds registry errands =>
      rw [errands] at found
      rcases getElem?_set_cases found with ⟨rfl, rfl⟩ | ⟨-, found⟩
      · rcases succeeds.isCancelled told with before | ⟨reply, rfl, reported⟩
        · exact .inl ⟨_, running, before⟩
        · rw [deed.cancelled reported] at prompted
          exact .inr (Move.eq_step prompted)
      · exact old found

def Warranted (moves : List (Move ε ρ σ κ η)) (x : Exchange ε ρ σ κ η) : Prop :=
  ∀ number errand, x.errands[number]? = some errand → errand.isCancelled = true → .step number true ∈ moves

theorem warranted (outside : ε) (process : String) (moves : List (Move ε ρ σ κ η)) :
    Warranted moves ((start outside process).run moves) := by
  refine run_within moves (fun x move member before number errand found told => ?_) fun number errand found => ?_
  · rcases (x.perform_change move).isCancelled found told with ⟨old, found, told⟩ | rfl
    · exact before number old found told
    · exact member
  · cases found

end Exchange

end Errands

end Dispatch
