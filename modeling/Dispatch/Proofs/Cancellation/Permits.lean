import Dispatch.Proofs.Cancellation.Attempts
import Dispatch.Proofs.Pool.Capacity

set_option autoImplicit false

namespace Dispatch

namespace Adapter

variable {ε ρ σ κ : Type}

def breaker (a : Adapter ε ρ σ κ) : OperationKind → Breaker
  | .connect => a.connectBreaker
  | .publish => a.publishBreaker

def pipeline (a : Adapter ε ρ σ κ) : OperationKind → Pipeline
  | .connect => a.pool.connect
  | .publish => a.publish

structure SameGuards (a next : Adapter ε ρ σ κ) : Prop where
  breaker : next.breaker = a.breaker
  pipeline : next.pipeline = a.pipeline

theorem SameGuards.of_pool {a next : Adapter ε ρ σ κ} (connectBreaker : next.connectBreaker = a.connectBreaker)
    (publishBreaker : next.publishBreaker = a.publishBreaker) (publish : next.publish = a.publish)
    (connect : next.pool.connect = a.pool.connect) : a.SameGuards next where
  breaker := by
    funext kind
    cases kind with
    | connect => exact connectBreaker
    | publish => exact publishBreaker
  pipeline := by
    funext kind
    cases kind with
    | connect => exact connect
    | publish => exact publish

theorem release_guards (a : Adapter ε ρ σ κ) (s : Shared ε) (now : Instant) (lease : Lease ρ) :
    a.SameGuards (a.release s now lease).1 := by
  have finish : Passage now a.pool (.holding lease) .leaving _ _ := .finish (a.isUsable s) false lease
  exact .of_pool rfl rfl rfl finish.settings.2.1

/-- What a step of a call makes of the breakers of its adapter; `own` tells the attempts of the call and `notice`
what each breaker hears. -/
structure Heeds {μ α : Type} (now : Instant) (cancelled : Bool) (own : OperationKind → μ → Option Attempt)
    (call : μ) (notice : OperationKind → Option Notice) (a : Adapter ε ρ σ κ) (turn : Turn μ α)
    (next : Adapter ε ρ σ κ) : Prop where
  breaker : ∀ kind,
    Turn.Heeds now cancelled (own kind) call (a.breaker kind) (notice kind) turn (next.breaker kind)
  pipeline : next.pipeline = a.pipeline

namespace Heeds

variable {μ ν α β : Type} {now : Instant} {cancelled : Bool} {own : OperationKind → μ → Option Attempt} {call : μ}
  {notice : OperationKind → Option Notice} {a next : Adapter ε ρ σ κ} {turn : Turn μ α}

theorem idle (guards : a.SameGuards next) (quiet : notice .connect = none ∧ notice .publish = none)
    (before : own .connect call = none ∧ own .publish call = none)
    (after : turn.attempt? (own .connect) call = none ∧ turn.attempt? (own .publish) call = none) :
    Heeds now cancelled own call notice a turn next where
  breaker kind := by
    rw [guards.breaker]
    cases kind with
    | connect =>
        rw [quiet.1]
        exact .idle before.1 after.1
    | publish =>
        rw [quiet.2]
        exact .idle before.2 after.2
  pipeline := guards.pipeline

theorem lift (heeds : Heeds now cancelled own call notice a turn next) {own' : OperationKind → ν → Option Attempt}
    {notice' : OperationKind → Option Notice} {wrap : μ → ν} {finish : α → Turn ν β}
    (same : ∀ kind call, own' kind (wrap call) = own kind call) (told : ∀ kind, notice' kind = notice kind)
    (ended : ∀ kind result, (finish result).attempt? (own' kind) (wrap call) = none) :
    Heeds now cancelled own' (wrap call) notice' a (turn.lift wrap finish) next where
  breaker kind := by
    rw [told]
    exact (heeds.breaker kind).lift (same kind) (ended kind)
  pipeline := heeds.pipeline

end Heeds

/-! ## Leases -/

def leasingAttempt? : OperationKind → Leasing ρ κ → Option Attempt
  | .connect, leasing => leasing.attempt?
  | .publish, _ => none

def leasingNotice? (a : Adapter ε ρ σ κ) (s : Shared ε) (now : Instant) (prompt : Prompt) (leasing : Leasing ρ κ) :
    OperationKind → Option Notice
  | .connect => leasing.notice? a.supply a.pool.connect now s.surroundings prompt
  | .publish => none

theorem stepLease_heeds (a : Adapter ε ρ σ κ) (s : Shared ε) (now : Instant) (cancelled : Bool)
    (leasing : Leasing ρ κ) :
    let next := a.stepLease s now cancelled leasing
    Heeds now cancelled leasingAttempt? leasing (a.leasingNotice? s now (.step cancelled) leasing) a next.1
      next.2.1 where
  breaker kind := by
    cases kind with
    | connect => exact leasing.step_heeds a.supply now cancelled a.pool a.connectBreaker s.surroundings
    | publish =>
        apply Turn.Heeds.idle rfl
        cases (a.stepLease s now cancelled leasing).1 <;> rfl
  pipeline := by
    funext kind
    cases kind with
    | connect =>
        exact (leasing.step_passage a.supply now cancelled a.pool a.connectBreaker s.surroundings).settings.2.1
    | publish => rfl

theorem abandonLease_guards (a : Adapter ε ρ σ κ) (s : Shared ε) (leasing : Leasing ρ κ) :
    let next := (a.abandonLease s leasing).1
    (∀ kind, next.breaker kind = (a.breaker kind).giveBack (leasingAttempt? kind leasing)) ∧
      next.pipeline = a.pipeline := by
  constructor
  · intro kind
    cases kind with
    | connect => exact leasing.abandon_breaker a.supply a.pool a.connectBreaker s.surroundings
    | publish => rfl
  · funext kind
    cases kind with
    | connect => cases leasing <;> rfl
    | publish => rfl

end Adapter

/-! ## Publish calls -/

namespace Publishing

variable {ε ρ σ κ : Type}

def attempt? : OperationKind → Publishing ρ κ → Option Attempt
  | .connect, .leasing _ acquisition => acquisition.attempt?
  | .publish, .sending _ _ _ execution => execution.attempt?
  | _, _ => none

theorem conclusion_guards (a : Adapter ε ρ σ κ) (s : Shared ε) (now : Instant) (destination : Destination)
    (span : Nat) (lease : Lease ρ) (result : Except BrokerError Receipt) :
    let next := conclusion a s now destination span lease result
    next.turn = .finished result ∧ a.SameGuards next.adapter := by
  obtain ⟨turn, adapter, -⟩ :=
    conclude_frame (a.release s now lease).1 (a.release s now lease).2 destination span result
  refine ⟨turn, ?_⟩
  simp only [conclusion, adapter]
  exact a.release_guards s now lease

def notice? (a : Adapter ε ρ σ κ) (s : Shared ε) (now : Instant) (prompt : Prompt) :
    OperationKind → Publishing ρ κ → Option Notice
  | .connect, .leasing _ acquisition => a.leasingNotice? s now prompt acquisition .connect
  | .publish, .sending _ lease envelope execution =>
    execution.notice? a.publish (sendOperation a lease envelope) now s.surroundings prompt
  | _, _ => none

theorem step_heeds (a : Adapter ε ρ σ κ) (s : Shared ε) (message : Outgoing) (now : Instant) (cancelled : Bool)
    (progress : Publishing ρ κ) :
    let next := progress.step a s message now cancelled
    a.Heeds now cancelled attempt? progress (fun kind => notice? a s now (.step cancelled) kind progress) next.turn
      next.adapter := by
  have same : a.SameGuards a := ⟨rfl, rfl⟩
  cases progress with
  | fresh =>
      simp only [step]
      split
      · exact .idle same ⟨rfl, rfl⟩ ⟨rfl, rfl⟩ ⟨rfl, rfl⟩
      · exact .idle same ⟨rfl, rfl⟩ ⟨rfl, rfl⟩ ⟨rfl, rfl⟩
  | limiting span =>
      simp only [step]
      split
      · exact .idle same ⟨rfl, rfl⟩ ⟨rfl, rfl⟩ ⟨rfl, rfl⟩
      · split
        · exact .idle same ⟨rfl, rfl⟩ ⟨rfl, rfl⟩ ⟨rfl, rfl⟩
        · exact .idle same ⟨rfl, rfl⟩ ⟨rfl, rfl⟩ ⟨rfl, rfl⟩
        · exact .idle ⟨rfl, rfl⟩ ⟨rfl, rfl⟩ ⟨rfl, rfl⟩ ⟨rfl, rfl⟩
  | leasing span acquisition =>
      have heeds := a.stepLease_heeds s now cancelled acquisition
      simp only [step]
      generalize a.stepLease s now cancelled acquisition = outcome at heeds ⊢
      obtain ⟨turn, next, later⟩ := outcome
      have lifted (error : BrokerError) : a.Heeds now cancelled attempt? (leasing span acquisition)
          (fun kind => notice? a s now (.step cancelled) kind (leasing span acquisition))
          (turn.lift (leasing span) fun result => result.toOption.elim
            (.finished (.error error : Except BrokerError Receipt)) fun lease =>
              .moved (preparing span lease)) next := by
        apply heeds.lift
        · intro kind call
          cases kind <;> rfl
        · intro kind
          cases kind <;> rfl
        · intro kind result
          cases kind <;> cases result <;> rfl
      cases turn with
      | finished result =>
          cases result with
          | ok lease => exact lifted (.cancelled a.backend)
          | error failure => exact lifted _
      | moved | blocked | overflowed => exact lifted (.cancelled a.backend)
  | preparing span lease =>
      simp only [step]
      split
      · rename_i reason serialized
        obtain ⟨turn, guards⟩ := conclusion_guards a s now message.destination span lease
          (.error (.ofSerialization a.backend reason))
        rw [turn]
        exact .idle guards ⟨rfl, rfl⟩ ⟨rfl, rfl⟩ ⟨rfl, rfl⟩
      · exact .idle same ⟨rfl, rfl⟩ ⟨rfl, rfl⟩ ⟨rfl, rfl⟩
  | sending span lease envelope execution =>
      have heeds := execution.step_heeds a.publish (sendOperation a lease envelope) now cancelled a.publishBreaker
        s.surroundings
      simp only [step]
      generalize execution.step a.publish (sendOperation a lease envelope) now cancelled a.publishBreaker
        s.surroundings = outcome at heeds ⊢
      obtain ⟨turn, after, environment, events⟩ := outcome
      -- whatever the result, the lease is returned and the breakers stay
      have lifted (last : Adapter ε ρ σ κ) (guards : Adapter.SameGuards { a with publishBreaker := after } last)
          (conclude : Except Failure Unit → Except BrokerError Receipt) :
          a.Heeds now cancelled attempt? (sending span lease envelope execution)
            (fun kind => notice? a s now (.step cancelled) kind (sending span lease envelope execution))
            (turn.lift (sending span lease envelope) fun result => .finished (conclude result)) last := by
        refine ⟨?_, guards.pipeline⟩
        intro kind
        rw [guards.breaker]
        cases kind with
        | connect => exact .idle rfl (by cases turn <;> rfl)
        | publish => exact heeds.lift (fun _ => rfl) fun _ => rfl
      cases turn with
      | finished result =>
          cases result with
          | ok value =>
              obtain ⟨turn, guards⟩ := conclusion_guards { a with publishBreaker := after }
                ({ s with surroundings := environment }.report events) now message.destination span lease
                (.ok (receipt { a with publishBreaker := after } envelope))
              have last := lifted _ guards fun _ => .ok (receipt { a with publishBreaker := after } envelope)
              rw [Turn.lift, ← turn] at last
              exact last
          | error failure =>
              obtain ⟨turn, guards⟩ := conclusion_guards { a with publishBreaker := after }
                ({ s with surroundings := environment }.report events) now message.destination span lease
                (.error (.ofPublish a.backend failure))
              have last := lifted _ guards fun _ => .error (.ofPublish a.backend failure)
              rw [Turn.lift, ← turn] at last
              exact last
      | moved | blocked | overflowed => exact lifted _ ⟨rfl, rfl⟩ fun _ => .error (.cancelled a.backend)

theorem abandon_guards (a : Adapter ε ρ σ κ) (s : Shared ε) (now : Instant) (progress : Publishing ρ κ) :
    let next := (progress.abandon a s now).1
    (∀ kind, next.breaker kind = (a.breaker kind).giveBack (attempt? kind progress)) ∧ next.pipeline = a.pipeline := by
  cases progress with
  | fresh | limiting => exact ⟨fun kind => by cases kind <;> rfl, rfl⟩
  | leasing span acquisition =>
      obtain ⟨breaker, pipeline⟩ := a.abandonLease_guards s acquisition
      refine ⟨fun kind => (breaker kind).trans ?_, pipeline⟩
      cases kind <;> rfl
  | preparing span lease =>
      obtain ⟨breaker, pipeline⟩ := a.release_guards s now lease
      refine ⟨fun kind => (congrFun breaker kind).trans ?_, pipeline⟩
      cases kind <;> rfl
  | sending span lease envelope execution =>
      have given := execution.abandon_breaker (sendOperation a lease envelope) a.publishBreaker s.surroundings
      simp only [abandon]
      generalize execution.abandon (sendOperation a lease envelope) a.publishBreaker s.surroundings = outcome at given ⊢
      obtain ⟨publishBreaker, surroundings⟩ := outcome
      obtain ⟨breaker, pipeline⟩ := Adapter.release_guards { a with publishBreaker } { s with surroundings } now lease
      refine ⟨fun kind => (congrFun breaker kind).trans ?_, pipeline⟩
      cases kind with
      | connect => rfl
      | publish => exact given

end Publishing

/-! ## Health checks -/

namespace Checking

variable {ε ρ σ κ : Type}

def attempt? : OperationKind → Checking ρ κ → Option Attempt
  | .connect, .leasing acquisition => acquisition.attempt?
  | _, _ => none

def notice? (a : Adapter ε ρ σ κ) (s : Shared ε) (now : Instant) (prompt : Prompt) :
    OperationKind → Checking ρ κ → Option Notice
  | .connect, .leasing acquisition => a.leasingNotice? s now prompt acquisition .connect
  | _, _ => none

theorem step_heeds (a : Adapter ε ρ σ κ) (s : Shared ε) (now : Instant) (cancelled : Bool)
    (progress : Checking ρ κ) :
    let next := progress.step a s now cancelled
    a.Heeds now cancelled attempt? progress (fun kind => notice? a s now (.step cancelled) kind progress) next.turn
      next.adapter := by
  cases progress with
  | leasing acquisition =>
      apply (a.stepLease_heeds s now cancelled acquisition).lift
      · intro kind call
        cases kind <;> rfl
      · intro kind
        cases kind <;> rfl
      · intro kind result
        cases kind <;> cases result <;> rfl
  | pinging lease => exact .idle (a.release_guards s now lease) ⟨rfl, rfl⟩ ⟨rfl, rfl⟩ ⟨rfl, rfl⟩

theorem abandon_guards (a : Adapter ε ρ σ κ) (s : Shared ε) (now : Instant) (progress : Checking ρ κ) :
    let next := (progress.abandon a s now).1
    (∀ kind, next.breaker kind = (a.breaker kind).giveBack (attempt? kind progress)) ∧ next.pipeline = a.pipeline := by
  cases progress with
  | leasing acquisition =>
      obtain ⟨breaker, pipeline⟩ := a.abandonLease_guards s acquisition
      refine ⟨fun kind => (breaker kind).trans ?_, pipeline⟩
      cases kind <;> rfl
  | pinging lease =>
      obtain ⟨breaker, pipeline⟩ := a.release_guards s now lease
      refine ⟨fun kind => (congrFun breaker kind).trans ?_, pipeline⟩
      cases kind <;> rfl

end Checking

/-! ## Consumers -/

namespace Consuming

variable {ε ρ σ κ η : Type}

def attempt? : OperationKind → Consuming ρ σ κ η → Option Attempt
  | .connect, .opening execution => execution.attempt?
  | _, _ => none

def notice? (a : Adapter ε ρ σ κ) (s : Shared ε) (source : String) (now : Instant) (prompt : Prompt) :
    OperationKind → Consuming ρ σ κ η → Option Notice
  | .connect, .opening execution =>
    execution.notice? a.pool.connect (subscribeOperation a source) now s.surroundings prompt
  | _, _ => none

theorem step_heeds (a : Adapter ε ρ σ κ) (s : Shared ε) (source : String) (handler : Handler ε η) (now : Instant)
    (cancelled : Bool) (progress : Consuming ρ σ κ η) :
    let next := progress.step a s source handler now cancelled
    a.Heeds now cancelled attempt? progress (fun kind => notice? a s source now (.step cancelled) kind progress)
      next.turn next.adapter := by
  have same : a.SameGuards a := ⟨rfl, rfl⟩
  cases progress with
  | opening execution =>
      have heeds := execution.step_heeds a.pool.connect (subscribeOperation a source) now cancelled a.connectBreaker
        s.surroundings
      simp only [step]
      generalize execution.step a.pool.connect (subscribeOperation a source) now cancelled a.connectBreaker
        s.surroundings = outcome at heeds ⊢
      obtain ⟨turn, after, environment, events⟩ := outcome
      have lifted (failed : Except BrokerError ConsumeSummary) (call : TransportCall ρ κ) :
          a.Heeds now cancelled attempt? (opening execution : Consuming ρ σ κ η)
            (fun kind => notice? a s source now (.step cancelled) kind (opening execution : Consuming ρ σ κ η))
            (turn.lift opening fun result => result.toOption.elim (.finished failed) fun subscription =>
              .moved (receiving subscription .zero call)) { a with connectBreaker := after } := by
        refine ⟨?_, rfl⟩
        intro kind
        cases kind with
        | connect => exact heeds.lift (fun _ => rfl) fun result => by cases result <;> rfl
        | publish =>
            apply Turn.Heeds.idle rfl
            cases turn with
            | finished result => cases result <;> rfl
            | moved | blocked | overflowed => rfl
      cases turn with
      | finished result =>
          cases result with
          | ok subscription => exact lifted (.ok .zero) _
          | error failure => exact lifted _ .fresh
      | moved | blocked | overflowed => exact lifted (.ok .zero) .fresh
  | receiving subscription summary call =>
      simp only [step]
      split
      · exact .idle same ⟨rfl, rfl⟩ ⟨rfl, rfl⟩ ⟨rfl, rfl⟩
      · split <;> exact .idle same ⟨rfl, rfl⟩ ⟨rfl, rfl⟩ ⟨rfl, rfl⟩
  | handling subscription summary delivery call =>
      simp only [step]
      split <;> exact .idle same ⟨rfl, rfl⟩ ⟨rfl, rfl⟩ ⟨rfl, rfl⟩
  | settling subscription summary accepted call =>
      simp only [step]
      split <;> exact .idle same ⟨rfl, rfl⟩ ⟨rfl, rfl⟩ ⟨rfl, rfl⟩

theorem abandon_guards (a : Adapter ε ρ σ κ) (s : Shared ε) (source : String) (handler : Handler ε η)
    (progress : Consuming ρ σ κ η) :
    let next := (progress.abandon a s source handler).1
    (∀ kind, next.breaker kind = (a.breaker kind).giveBack (attempt? kind progress)) ∧ next.pipeline = a.pipeline := by
  cases progress with
  | opening execution =>
      refine ⟨?_, rfl⟩
      intro kind
      cases kind with
      | connect => exact execution.abandon_breaker (subscribeOperation a source) a.connectBreaker s.surroundings
      | publish => rfl
  | receiving | handling | settling => exact ⟨fun kind => by cases kind <;> rfl, rfl⟩

end Consuming

/-! ## Parts -/

namespace Part

variable {ε ρ σ κ η : Type}

def attempt? (kind : OperationKind) : Part ε ρ σ κ η → Option Attempt
  | .publishing _ progress => progress.attempt? kind
  | .checking progress => progress.attempt? kind
  | .consuming _ _ progress => progress.attempt? kind

def Fate.attempt? (kind : OperationKind) : Fate ε ρ σ κ η → Option Attempt
  | .goesOn part => part.attempt? kind
  | .settled _ => none

theorem attempt_fresh {part : Part ε ρ σ κ η} (fresh : part.isFresh) (kind : OperationKind) :
    part.attempt? kind = none := by
  rcases fresh_cases fresh with ⟨message, rfl⟩ | rfl | ⟨source, handler, rfl⟩ <;> cases kind <;> rfl

def notice? (kind : OperationKind) (a : Adapter ε ρ σ κ) (s : Shared ε) (now : Instant) (prompt : Prompt) :
    Part ε ρ σ κ η → Option Notice
  | .publishing _ progress => progress.notice? a s now prompt kind
  | .checking progress => progress.notice? a s now prompt kind
  | .consuming source _ progress => progress.notice? a s source now prompt kind

theorem step_heeds (a : Adapter ε ρ σ κ) (s : Shared ε) (now : Instant) (cancelled : Bool)
    (part : Part ε ρ σ κ η) :
    let next := part.step a s now cancelled
    a.Heeds now cancelled attempt? part (fun kind => part.notice? kind a s now (.step cancelled)) next.turn
      next.adapter := by
  cases part with
  | publishing message progress =>
      exact (progress.step_heeds a s message now cancelled).lift (fun _ _ => rfl) (fun _ => rfl) fun _ _ => rfl
  | checking progress =>
      exact (progress.step_heeds a s now cancelled).lift (fun _ _ => rfl) (fun _ => rfl) fun _ _ => rfl
  | consuming source handler progress =>
      exact (progress.step_heeds a s source handler now cancelled).lift (fun _ _ => rfl) (fun _ => rfl)
        fun _ _ => rfl

theorem abandon_guards (a : Adapter ε ρ σ κ) (s : Shared ε) (now : Instant) (part : Part ε ρ σ κ η) :
    let next := (part.abandon a s now).1
    (∀ kind, next.breaker kind = (a.breaker kind).giveBack (part.attempt? kind)) ∧ next.pipeline = a.pipeline := by
  cases part with
  | publishing message progress => exact progress.abandon_guards a s now
  | checking progress => exact progress.abandon_guards a s now
  | consuming source handler progress => exact progress.abandon_guards a s source handler

theorem notice?_giveUp (kind : OperationKind) (a : Adapter ε ρ σ κ) (s : Shared ε) (now : Instant)
    (part : Part ε ρ σ κ η) :
    part.notice? kind a s now .giveUp = (part.attempt? kind).map fun _ => .ends .cancelled := by
  cases part with
  | publishing message progress =>
      cases progress with
      | leasing span acquisition =>
          cases kind with
          | connect => exact acquisition.notice?_giveUp a.supply a.pool.connect now s.surroundings
          | publish => rfl
      | sending span lease envelope execution =>
          cases kind with
          | connect => rfl
          | publish => exact execution.notice?_giveUp a.publish _ now s.surroundings
      | fresh | limiting | preparing => cases kind <;> rfl
  | checking progress =>
      cases progress with
      | leasing acquisition =>
          cases kind with
          | connect => exact acquisition.notice?_giveUp a.supply a.pool.connect now s.surroundings
          | publish => rfl
      | pinging => cases kind <;> rfl
  | consuming source handler progress =>
      cases progress with
      | opening execution =>
          cases kind with
          | connect => exact execution.notice?_giveUp a.pool.connect _ now s.surroundings
          | publish => rfl
      | receiving | handling | settling => cases kind <;> rfl

variable {now : Instant} {a next : Adapter ε ρ σ κ} {s later : Shared ε} {part : Part ε ρ σ κ η}
  {prompt : Prompt} {fate : Fate ε ρ σ κ η}

theorem Deed.heeds (deed : part.Deed now a s prompt fate next later) :
    (∀ kind, (a.breaker kind).Heeds now prompt (part.notice? kind a s now prompt) (part.attempt? kind)
      (fate.attempt? kind) (next.breaker kind)) ∧ next.pipeline = a.pipeline := by
  cases deed with
  | @moved cancelled after turn =>
      obtain ⟨breaker, pipeline⟩ := part.step_heeds a s now cancelled
      rw [turn] at breaker
      exact ⟨fun kind => (breaker kind).whole (by simp), pipeline⟩
  | @waited cancelled wake turn =>
      obtain ⟨breaker, pipeline⟩ := part.step_heeds a s now cancelled
      rw [turn] at breaker
      exact ⟨fun kind => (breaker kind).whole (by simp), pipeline⟩
  | @finished cancelled reply turn =>
      obtain ⟨breaker, pipeline⟩ := part.step_heeds a s now cancelled
      rw [turn] at breaker
      exact ⟨fun kind => (breaker kind).whole (by simp), pipeline⟩
  | @broke cancelled last final turn left =>
      obtain ⟨breaker, pipeline⟩ := part.step_heeds a s now cancelled
      obtain ⟨given, pipeline'⟩ :=
        part.abandon_guards (part.step a s now cancelled).adapter (part.step a s now cancelled).shared now
      rw [turn] at breaker
      rw [left] at given pipeline'
      refine ⟨?_, pipeline'.trans pipeline⟩
      intro kind
      rw [given kind]
      exact (breaker kind).broke
  | gaveUp left =>
      obtain ⟨given, pipeline⟩ := part.abandon_guards a s now
      rw [left] at given pipeline
      refine ⟨?_, pipeline⟩
      intro kind
      rw [given kind, notice?_giveUp]
      exact (a.breaker kind).giveBack_heeds now .giveUp _

theorem Deed.trades (deed : part.Deed now a s prompt fate next later) :
    (∀ kind, (a.breaker kind).Trades now prompt (part.attempt? kind) (fate.attempt? kind) (next.breaker kind)) ∧
      next.pipeline = a.pipeline :=
  ⟨fun kind => (deed.heeds.1 kind).trades, deed.heeds.2⟩

end Part

end Dispatch
