import Dispatch.MemoryBroker
import Dispatch.Proofs.Cancellation.Leases
import Dispatch.Proofs.Cancellation.Replies

set_option autoImplicit false

namespace Dispatch

/-! ## How a step ends a call -/

/-- A failure is that of the last of some attempts, or says that the retries ended with it. -/
def Failure.Wraps (failure : Failure) (attempt : Nat) (last : Failure) : Prop :=
  failure = last ∨ 1 < attempt ∧ failure = .retriesExhausted attempt last

theorem TransportError.failure_not_circuitOpen (error : TransportError) : error.failure.isCircuitOpen = false := by
  cases error <;> rfl

theorem BrokerError.ofPublish_transport (backend : Backend) {failure : Failure} {attempt : Nat}
    {error : TransportError} (wraps : failure.Wraps attempt error.failure) :
    ofPublish backend failure = .transmission backend failure.message failure.message := by
  have uncancelled : failure.isCancelled = false := by
    rcases wraps with rfl | ⟨-, rfl⟩
    · rw [← Bool.not_eq_true, Failure.isCancelled_iff]
      exact error.failure_ne_cancelled
    · rfl
  have shut : failure.isCircuitOpen = false := by
    rcases wraps with rfl | ⟨-, rfl⟩ <;> exact error.failure_not_circuitOpen
  rw [ofPublish, ofFailure, uncancelled, shut]
  rfl

theorem Bucket.wait_failure {b : Bucket} {cancelled : Bool} {failure : Failure}
    (told : (b.wait cancelled).1 = .finished (.error failure)) : failure = .cancelled := by
  obtain rfl := Bucket.wait_cancelled told
  cases told
  rfl

namespace Publishing

variable {ε ρ σ κ : Type} {a : Adapter ε ρ σ κ} {s : Shared ε} {message : Outgoing} {now : Instant}
  {cancelled : Bool}

theorem send_failure {lease : Lease ρ} {envelope : Envelope} {surroundings : Surroundings ε}
    {call : TransportCall ρ κ} {failure : Failure}
    (given : ((sendOperation a lease envelope).step now surroundings call).1 = .finished (.error failure)) :
    ∃ error, ((a.transport.send lease.resource envelope).step now surroundings call).1 = .finished (.error error) ∧
      failure = error.failure := by
  obtain ⟨result, sent, answer⟩ := Turn.of_lift_finished given
  cases result with
  | ok value => cases answer
  | error error => exact ⟨error, sent, Except.error.inj answer⟩

inductive Ends (a : Adapter ε ρ σ κ) (s : Shared ε) (message : Outgoing) (now : Instant) (cancelled : Bool) :
    Publishing ρ κ → Except BrokerError Receipt → Prop
  | sent (span : Nat) (lease : Lease ρ) (envelope : Envelope) (execution : Execution (TransportCall ρ κ)) :
      Ends a s message now cancelled (.sending span lease envelope execution) (.ok (receipt a envelope))
  | cancelled (progress : Publishing ρ κ) (told : cancelled = true) :
      Ends a s message now cancelled progress (.error (.cancelled a.backend))
  | unconnected (span : Nat) (acquisition : Adapter.Leasing ρ κ) (cause : Failure) :
      Ends a s message now cancelled (.leasing span acquisition) (.error (.connect a.backend cause))
  | connectOpen (span : Nat) (acquisition : Adapter.Leasing ρ κ) :
      Ends a s message now cancelled (.leasing span acquisition) (.error (.circuitOpen a.backend .connect))
  | unserialized (span : Nat) (lease : Lease ρ) {reason : String} (content : message.content = .error reason) :
      Ends a s message now cancelled (.preparing span lease) (.error (.ofSerialization a.backend reason))
  | publishOpen (span : Nat) (lease : Lease ρ) (envelope : Envelope) (made : Nat)
      (refused : (a.publishBreaker.request now).1 = .error (.circuitOpen a.publishBreaker.name)) :
      Ends a s message now cancelled (.sending span lease envelope (.ready made))
        (.error (.circuitOpen a.backend .publish))
  | unsent (span : Nat) {lease : Lease ρ} {envelope : Envelope} {attempt : Nat} (permit : Permit)
      {call : TransportCall ρ κ} {error : TransportError} {failure : Failure}
      (given : ((a.transport.send lease.resource envelope).step now s.surroundings call).1 =
        .finished (.error error))
      (wraps : failure.Wraps attempt error.failure) :
      Ends a s message now cancelled (.sending span lease envelope (.trying attempt permit call))
        (.error (.transmission a.backend failure.message failure.message))

theorem acquire_ends {span : Nat} {acquisition : Adapter.Leasing ρ κ} {failure : Failure}
    (ends : (acquisition.step a.supply now cancelled a.pool a.connectBreaker s.surroundings).turn =
      .finished (.error failure)) :
    Ends a s message now cancelled (.leasing span acquisition) (.error (.ofAcquire a.backend failure)) := by
  unfold BrokerError.ofAcquire BrokerError.ofFailure
  split
  · rename_i told
    rw [Failure.isCancelled_iff.1 told] at ends
    exact .cancelled _ (acquisition.step_cancelled a.create_uncancelled ends)
  · split
    · exact .connectOpen span acquisition
    · exact .unconnected span acquisition failure

theorem attempt_ends {span : Nat} {lease : Lease ρ} {envelope : Envelope}
    {execution : Execution (TransportCall ρ κ)} {failure : Failure}
    (ends : (execution.step a.publish (sendOperation a lease envelope) now cancelled a.publishBreaker
      s.surroundings).turn = .finished (.error failure)) :
    Ends a s message now cancelled (.sending span lease envelope execution)
      (.error (.ofPublish a.backend failure)) := by
  cases Execution.step_fails _ _ _ _ _ ends with
  | cancelled execution told => exact .cancelled _ told
  | refused made refused =>
      obtain rfl := Breaker.request_error refused
      exact .publishOpen span lease envelope made refused
  | failed attempt permit given =>
      obtain ⟨error, sent, rfl⟩ := send_failure given
      have wraps : error.failure.Wraps attempt error.failure := .inl rfl
      rw [BrokerError.ofPublish_transport a.backend wraps]
      exact .unsent span permit sent wraps
  | exhausted permit given many =>
      obtain ⟨error, sent, rfl⟩ := send_failure given
      have wraps : (Failure.retriesExhausted _ error.failure).Wraps _ error.failure := .inr ⟨many, rfl⟩
      rw [BrokerError.ofPublish_transport a.backend wraps]
      exact .unsent span permit sent wraps

theorem step_ends {progress : Publishing ρ κ} {result : Except BrokerError Receipt}
    (told : (progress.step a s message now cancelled).turn = .finished result) :
    Ends a s message now cancelled progress result := by
  cases progress with
  | fresh => cases told
  | limiting span =>
      simp only [step] at told
      split at told
      · cases told
      · split at told
        · rename_i failure after waited
          rw [conclude_turn] at told
          cases told
          have given := congrArg Prod.fst waited
          obtain rfl := Bucket.wait_failure given
          exact .cancelled _ (Bucket.wait_cancelled given)
        · cases told
        · cases told
  | leasing span acquisition =>
      simp only [step, Adapter.stepLease] at told
      split at told
      · cases told
      · rename_i ends
        rw [conclude_turn] at told
        cases told
        exact acquire_ends ends
      · cases told
      · cases told
      · cases told
  | preparing span lease =>
      simp only [step] at told
      split at told
      · rename_i content
        rw [conclusion_turn] at told
        cases told
        exact .unserialized span lease content
      · cases told
  | sending span lease envelope execution =>
      simp only [step] at told
      split at told
      · rw [conclusion_turn] at told
        cases told
        exact .sent span lease envelope execution
      · rename_i ends
        rw [conclusion_turn] at told
        cases told
        exact attempt_ends ends
      · cases told
      · cases told
      · cases told

end Publishing

/-! ## Stages of a call -/

namespace Publishing

variable {ε ρ σ κ : Type}

def stage : Publishing ρ κ → Nat
  | .fresh | .limiting _ | .leasing _ _ => 0
  | .preparing _ _ => 1
  | .sending _ _ _ _ => 2

theorem stage_holding {progress : Publishing ρ κ} {lease : Lease ρ} (holding : progress.standing = .holding lease) :
    1 ≤ progress.stage := by
  cases progress with
  | fresh | limiting => cases holding
  | leasing span acquisition => exact absurd holding (acquisition.not_holding lease)
  | preparing | sending => simp [stage]

theorem step_stage {a : Adapter ε ρ σ κ} {s : Shared ε} {message : Outgoing} {now : Instant} {cancelled : Bool}
    {progress after : Publishing ρ κ} (turn : (progress.step a s message now cancelled).turn = .moved after) :
    progress.stage ≤ after.stage := by
  cases progress with
  | fresh | limiting | leasing => exact Nat.zero_le _
  | preparing span lease =>
      simp only [step] at turn
      split at turn
      · rw [conclusion_turn] at turn
        cases turn
      · cases turn
        exact Nat.le_succ 1
  | sending span lease envelope execution =>
      simp only [step] at turn
      split at turn
      · rw [conclusion_turn] at turn
        cases turn
      · rw [conclusion_turn] at turn
        cases turn
      · cases turn
        exact Nat.le_refl 2
      · cases turn
      · cases turn

end Publishing

section Stages

variable {ε ρ σ κ η : Type}

def Part.stage : Part ε ρ σ κ η → Nat
  | .publishing _ progress => progress.stage
  | .checking _ | .consuming _ _ _ => 3

def Errand.stage (errand : Errand ε ρ σ κ η) : Nat := (errand.part?.map fun entry => entry.2.stage).getD 3

theorem Part.stage_le (part : Part ε ρ σ κ η) : part.stage ≤ 3 := by
  cases part with
  | publishing message progress => cases progress <;> simp [stage, Publishing.stage]
  | checking | consuming => exact Nat.le_refl 3

theorem Errand.stage_running {call : Call ε ρ σ κ η} {place : Nat} {part : Part ε ρ σ κ η}
    (known : call.part? = some (place, part)) : (Errand.running call).stage = part.stage := by
  simp [stage, Errand.part?, known]

theorem Part.Deed.stage {now : Instant} {a next : Adapter ε ρ σ κ} {s later : Shared ε}
    {part after : Part ε ρ σ κ η} {prompt : Prompt} (deed : part.Deed now a s prompt (.goesOn after) next later) :
    part.stage ≤ after.stage := by
  cases deed with
  | waited turn => exact Nat.le_refl _
  | moved turn =>
      cases part with
      | publishing message progress =>
          obtain ⟨later, stepped, rfl⟩ := Turn.of_lift_moved turn
          exact Publishing.step_stage stepped
      | checking progress =>
          obtain ⟨later, -, rfl⟩ := Turn.of_lift_moved turn
          exact Nat.le_refl 3
      | consuming source handler progress =>
          obtain ⟨later, -, rfl⟩ := Turn.of_lift_moved turn
          exact Nat.le_refl 3

theorem Part.stage_climbs : Part.Climbs (Part.stage : Part ε ρ σ κ η → Nat) 3 :=
  ⟨Part.stage_le, rfl, Part.Deed.stage⟩

namespace Exchange

variable {x : Exchange ε ρ σ κ η} {number : Nat} {errand : Errand ε ρ σ κ η}

theorem run_stage (moves : List (Move ε ρ σ κ η)) (found : x.errands[number]? = some errand) :
    ∃ after, (x.run moves).errands[number]? = some after ∧ errand.stage ≤ after.stage :=
  run_climbs Part.stage_climbs moves found

theorem stage_le_of_prefix {earlier before : List (Move ε ρ σ κ η)} (past : earlier <+: before) {there here : Nat}
    {first second : Part ε ρ σ κ η} (was : (x.run earlier).part? number = some (there, first))
    (is : (x.run before).part? number = some (here, second)) : first.stage ≤ second.stage := by
  obtain ⟨later, rfl⟩ := past
  obtain ⟨call, found, known⟩ := part?_iff.1 was
  obtain ⟨next, found', known'⟩ := part?_iff.1 is
  obtain ⟨after, last, grown⟩ := run_stage later found
  rw [run_append, last] at found'
  cases found'
  rwa [Errand.stage_running known, Errand.stage_running known'] at grown

end Exchange

end Stages

/-! ## Failed publish calls -/

section Failed

variable {ε ρ σ κ η : Type}

namespace Exchange

variable {x : Exchange ε ρ σ κ η} {number : Nat}

def Unleased (first : Exchange ε ρ σ κ η) (before : List (Move ε ρ σ κ η)) (number : Nat) : Prop :=
  ∀ earlier, earlier <+: before → ∀ place lease, ¬(first.run earlier).Holds number place lease

def Attempts (x : Exchange ε ρ σ κ η) (number : Nat) : Prop :=
  ∃ place message span lease envelope attempt permit call,
    x.part? number = some (place, .publishing message (.sending span lease envelope (.trying attempt permit call)))

def Unattempted (first : Exchange ε ρ σ κ η) (before : List (Move ε ρ σ κ η)) (number : Nat) : Prop :=
  ∀ earlier, earlier <+: before → ¬(first.run earlier).Attempts number

structure Returned (x : Exchange ε ρ σ κ η) (number place : Nat) (cancelled : Bool) (lease : Lease ρ) : Prop where
  held : x.Holds number place lease
  back : x.Returns (x.perform (.step number cancelled)) number place lease

structure Refused (x : Exchange ε ρ σ κ η) (number place : Nat) (a : Adapter ε ρ σ κ) (lease : Lease ρ) : Prop where
  ready : ∃ message span envelope made,
    x.part? number = some (place, .publishing message (.sending span lease envelope (.ready made)))
  refused : (a.publishBreaker.request x.now).1 = .error (.circuitOpen a.publishBreaker.name)

def FailsToSend (x : Exchange ε ρ σ κ η) (number place : Nat) (a : Adapter ε ρ σ κ) (lease : Lease ρ)
    (failure : Failure) : Prop :=
  ∃ message span envelope attempt permit call error,
    x.part? number =
      some (place, .publishing message (.sending span lease envelope (.trying attempt permit call))) ∧
    ((a.transport.send lease.resource envelope).step x.now x.registry.shared.surroundings call).1 =
      .finished (.error error) ∧
    failure.Wraps attempt error.failure

def Tells (first : Exchange ε ρ σ κ η) (before : List (Move ε ρ σ κ η)) (number place : Nat) (cancelled : Bool)
    (a : Adapter ε ρ σ κ) (message : Outgoing) : BrokerError → Prop
  | .connect _ _ | .circuitOpen _ .connect => first.Unleased before number ∧ first.Unattempted before number
  | .transmission backend text source =>
    ∃ lease, (first.run before).Returned number place cancelled lease ∧
      ((∃ reason, message.content = .error reason ∧
          BrokerError.transmission backend text source = .ofSerialization backend reason ∧
          first.Unattempted before number) ∨
        ∃ failure, (first.run before).FailsToSend number place a lease failure ∧ text = failure.message ∧
          source = failure.message)
  | .circuitOpen _ .publish =>
    ∃ lease, (first.run before).Returned number place cancelled lease ∧
      (first.run before).Refused number place a lease
  | .cancelled _ => cancelled = true
  | .config _ | .unsupported _ _ => False

theorem returned_of_told (placed : x.Placed) {place : Nat} {cancelled : Bool} {lease : Lease ρ} {reply : Reply}
    (holds : x.Holds number place lease)
    (told : (x.perform (.step number cancelled)).errands[number]? = some (.ended reply)) :
    x.Returned number place cancelled lease := by
  -- a call that still runs could have kept it
  refine ⟨holds, ((x.perform_change _).keeps_lease placed holds).resolve_left ?_⟩
  rintro ⟨part, known, -⟩
  obtain ⟨call, found, -⟩ := part?_iff.1 known
  rw [told] at found
  cases found

variable {first : Exchange ε ρ σ κ η} {before : List (Move ε ρ σ κ η)} {place : Nat} {message : Outgoing}

theorem unattempted_before {part : Part ε ρ σ κ η} (is : (first.run before).part? number = some (place, part))
    (low : part.stage < 2) : first.Unattempted before number := by
  rintro earlier past ⟨there, sent, span, lease, envelope, attempt, permit, call, was⟩
  have grown : 2 ≤ part.stage := stage_le_of_prefix past was is
  omega

theorem unleased_before {progress : Publishing ρ κ}
    (is : (first.run before).part? number = some (place, .publishing message progress)) (low : progress.stage = 0) :
    first.Unleased before number := by
  rintro earlier past there lease ⟨part, was, holding⟩
  have grown : part.stage ≤ progress.stage := stage_le_of_prefix past was is
  have leased : 1 ≤ part.stage := by
    cases part with
    | publishing sent progress => exact progress.stage_holding holding
    | checking | consuming => simp [Part.stage]
  omega

theorem tells_of_ends (placed : (first.run before).Placed) {progress : Publishing ρ κ}
    (is : (first.run before).part? number = some (place, .publishing message progress)) {cancelled : Bool}
    {a : Adapter ε ρ σ κ} {error : BrokerError}
    (ends : progress.Ends a (first.run before).registry.shared message (first.run before).now cancelled
      (.error error))
    (told : ((first.run before).perform (.step number cancelled)).errands[number]? =
      some (.ended (.published (.error error)))) :
    error.backend? = some a.backend ∧ first.Tells before number place cancelled a message error := by
  have returned {lease : Lease ρ} (holding : progress.standing = .holding lease) :=
    returned_of_told placed ⟨_, is, holding⟩ told
  cases ends with
  | cancelled progress cut => exact ⟨rfl, cut⟩
  | unconnected | connectOpen =>
      exact ⟨rfl, unleased_before is rfl, unattempted_before is (by simp [Part.stage, Publishing.stage])⟩
  | unserialized span lease content =>
      exact ⟨rfl, lease, returned rfl, .inl ⟨_, content, rfl, unattempted_before is (by
        simp [Part.stage, Publishing.stage])⟩⟩
  | publishOpen span lease envelope made refused =>
      exact ⟨rfl, lease, returned rfl, ⟨message, span, envelope, made, is⟩, refused⟩
  | unsent span permit given wraps =>
      exact ⟨rfl, _, returned rfl, .inr ⟨_, ⟨_, _, _, _, _, _, _, is, given, wraps⟩, rfl, rfl⟩⟩

/-- Every error of a publish call comes from one step of it, names the backend of its adapter, and tells what
the call has done up to then. -/
theorem publish_errors_tell (outside : ε) (process : String) (moves : List (Move ε ρ σ κ η)) (number : Nat)
    (error : BrokerError)
    (told : ((start outside process).run moves).errands[number]? = some (.ended (.published (.error error)))) :
    ∃ before cancelled after place message progress a, moves = before ++ .step number cancelled :: after ∧
      ((start outside process).run before).part? number = some (place, .publishing message progress) ∧
      ((start outside process).run before).registry.adapters[place]? = some a ∧
      error.backend? = some a.backend ∧
      (start outside process).Tells before number place cancelled a message error := by
  -- from the end of the run: the call had ended before the last move, or this is the step that ends it
  induction moves using List.reverseRecOn with
  | nil => cases told
  | append_singleton before move ih =>
      rw [run_append] at told
      have change := ((start outside process).run before).perform_change move
      rcases change.published told with
        earlier | ⟨cancelled, place, message, progress, a, rfl, is, here, turn, -⟩
      · obtain ⟨start, cancelled, after, place, message, progress, a, rfl, known⟩ := ih earlier
        exact ⟨start, cancelled, after ++ [move], place, message, progress, a, by simp, known⟩
      · have placed := (placed_start outside process).run before
        obtain ⟨names, tells⟩ := tells_of_ends placed is (Publishing.step_ends turn) told
        exact ⟨before, cancelled, [], place, message, progress, a, rfl, is, here, names, tells⟩

end Exchange

end Failed

namespace Exchange

def unserializable : List (Move MemoryBroker MemoryHandle Nat MemoryCall Unit) :=
  [.register MemoryBroker.connector "orders" (.amqp .standard), .publish 0 ⟨.topic "placed", .error "no text"⟩] ++
    List.replicate 9 (.step 0 false)

theorem unserializable_returns_lease :
    ∃ (before : List (Move MemoryBroker MemoryHandle Nat MemoryCall Unit)) (cancelled : Bool) (place : Nat)
      (lease : Lease MemoryHandle),
      ((start MemoryBroker.new "shop").run before).Returned 0 place cancelled lease := by
  have told : ((start MemoryBroker.new "shop").run unserializable).errands[0]? =
    some (.ended (.published (.error (.ofSerialization .amqp "no text")))) := rfl
  obtain ⟨before, cancelled, -, place, -, -, -, -, -, -, -, lease, returned, -⟩ :=
    publish_errors_tell MemoryBroker.new "shop" unserializable 0 _ told
  exact ⟨before, cancelled, place, lease, returned⟩

end Exchange

end Dispatch
