import Dispatch.Proofs.Errands
import Dispatch.Proofs.Sessions.Roll

set_option autoImplicit false

namespace Dispatch

/-! ## Executions and leases -/

namespace Execution

variable {ε κ α : Type} {op : Operation (Surroundings ε) κ (Except Failure α)} {own : κ → Option MqttSession}

def session? (own : κ → Option MqttSession) : Execution κ → Option MqttSession
  | .trying _ _ call => own call
  | .ready _ | .resting _ _ => none

theorem conclude_session (p : Pipeline) (now : Instant) (attempt : Nat) (result : Except Failure α)
    (execution : Execution κ) :
    (conclude p now attempt result).1.session? (session? own) execution = none ∨
      (conclude p now attempt result).1.session? (session? own) execution = execution.session? own := by
  have concludes := conclude_concludes (κ := κ) p now attempt result
  generalize (conclude (κ := κ) p now attempt result).1 = turn at concludes
  cases concludes with
  | value | fatal | exhausted => exact .inl rfl
  | again => exact .inl rfl
  | endless => exact .inr rfl

/-- A retry begins without a session, so that each attempt that opens one takes a number of its own. -/
theorem step_enters (enrolls : op.Enrolls own) (p : Pipeline) (now : Instant) (cancelled : Bool) (breaker : Breaker)
    (s : Surroundings ε) (execution : Execution κ) :
    let next := execution.step p op now cancelled breaker s
    s.roll.Enters (execution.session? own) (next.turn.session? (session? own) execution) next.environment.roll := by
  cases execution with
  | ready made =>
      simp only [step]
      split
      · exact .kept (.inl rfl)
      · split
        · exact .kept (.inl enrolls.start)
        · exact .kept (.inl rfl)
  | trying attempt permit call =>
      have settled (later : Surroundings ε) (result : Except Failure α) (roll : later.roll = s.roll) :
          let next := settled (κ := κ) p now attempt permit breaker later result
          s.roll.Enters (own call) (next.turn.session? (session? own) (.trying attempt permit call))
            next.environment.roll := .of_eq roll (conclude_session p now attempt result _)
      simp only [step]
      split
      · exact settled _ _ (enrolls.abandon s call)
      · have entered := enrolls.step now s call
        generalize op.step now s call = outcome at entered ⊢
        obtain ⟨turn, later⟩ := outcome
        cases turn with
        | finished result => exact settled later result (entered.eq (.inl rfl))
        | moved | blocked | overflowed => exact entered
  | resting attempt resumeAt =>
      simp only [step, RetryPolicy.rest]
      split
      · exact .kept (.inl rfl)
      · split
        · exact .kept (.inl rfl)
        · exact .kept (.inl rfl)

theorem abandon_roll (enrolls : op.Enrolls own) (breaker : Breaker) (s : Surroundings ε) (execution : Execution κ) :
    (execution.abandon op breaker s).2.roll = s.roll := by
  cases execution with
  | trying attempt permit call => exact enrolls.abandon s call
  | ready | resting => rfl

end Execution

namespace Acquisition

variable {ε ρ κ : Type} {supply : Supply (Surroundings ε) ρ κ} {own : κ → Option MqttSession}

def session? (own : κ → Option MqttSession) : Acquisition κ → Option MqttSession
  | .connecting execution => execution.session? own
  | .arriving | .queued _ _ | .seated => none

theorem step_enters (enrolls : supply.create.Enrolls own) (now : Instant) (cancelled : Bool) (pool : Pool ρ)
    (breaker : Breaker) (s : Surroundings ε) (acquisition : Acquisition κ) :
    let next := acquisition.step supply now cancelled pool breaker s
    s.roll.Enters (acquisition.session? own) (next.turn.session? (session? own) acquisition) next.environment.roll := by
  cases acquisition with
  | arriving =>
      simp only [step]
      split
      · exact .kept (.inl rfl)
      · split
        · exact .kept (.inl rfl)
        · split
          · exact .kept (.inl rfl)
          · split
            · exact .kept (.inl rfl)
            · exact .kept (.inl rfl)
  | queued ticket deadline =>
      simp only [step]
      split
      · exact .kept (.inl rfl)
      · split
        · exact .kept (.inl rfl)
        · split
          · exact .kept (.inl rfl)
          · split
            · exact .kept (.inl rfl)
            · split
              · exact .kept (.inl rfl)
              · exact .kept (.inl rfl)
  | seated =>
      simp only [step]
      split
      · exact .kept (.inl rfl)
      · exact .kept (.inl rfl)
  | connecting execution =>
      have entered := execution.step_enters enrolls pool.connect now cancelled breaker s
      simp only [step]
      generalize execution.step pool.connect supply.create now cancelled breaker s = next at entered ⊢
      obtain ⟨turn, after, later, events⟩ := next
      cases turn with
      | finished result => cases result <;> exact entered
      | moved | blocked | overflowed => exact entered

theorem abandon_roll (enrolls : supply.create.Enrolls own) (pool : Pool ρ) (breaker : Breaker) (s : Surroundings ε)
    (acquisition : Acquisition κ) : (acquisition.abandon supply pool breaker s).2.2.roll = s.roll := by
  cases acquisition with
  | connecting execution => exact execution.abandon_roll enrolls breaker s
  | arriving | queued | seated => rfl

end Acquisition

/-! ## Adapters -/

namespace Adapter

variable {ε ρ σ κ : Type} {a : Adapter ε ρ σ κ}

theorem absorb_roll (a : Adapter ε ρ σ κ) (s : Shared ε) (events : List (PoolEvent ρ)) :
    (a.absorb s events).surroundings.roll = s.surroundings.roll := by
  induction events generalizing s with
  | nil => rfl
  | cons event events ih =>
      refine (ih (absorbOne a s event)).trans ?_
      cases event <;> rfl

theorem release_roll (a : Adapter ε ρ σ κ) (s : Shared ε) (now : Instant) (lease : Lease ρ) :
    (a.release s now lease).2.surroundings.roll = s.surroundings.roll := a.absorb_roll s _

theorem supply_enrolls (enrolls : a.transport.Enrolls) : a.supply.create.Enrolls TransportCall.session? where
  start := enrolls.connect.start
  step now s call := by
    have entered := enrolls.connect.step now s call
    unfold supply
    generalize a.transport.connect.step = stepping at entered ⊢
    dsimp only
    generalize stepping now s call = outcome at entered ⊢
    obtain ⟨turn, later⟩ := outcome
    cases turn with
    | finished result => cases result <;> exact entered
    | moved | blocked | overflowed => exact entered
  abandon := enrolls.connect.abandon

theorem stepLease_enters (enrolls : a.transport.Enrolls) (s : Shared ε) (now : Instant) (cancelled : Bool)
    (leasing : Leasing ρ κ) :
    s.surroundings.roll.Enters (leasing.session? TransportCall.session?)
      ((a.stepLease s now cancelled leasing).1.session? (Acquisition.session? TransportCall.session?) leasing)
      (a.stepLease s now cancelled leasing).2.2.surroundings.roll := by
  have entered := leasing.step_enters (supply_enrolls enrolls) now cancelled a.pool a.connectBreaker s.surroundings
  simp only [stepLease, absorb_roll]
  exact entered

theorem abandonLease_roll (enrolls : a.transport.Enrolls) (s : Shared ε) (leasing : Leasing ρ κ) :
    (a.abandonLease s leasing).2.surroundings.roll = s.surroundings.roll :=
  leasing.abandon_roll (supply_enrolls enrolls) a.pool a.connectBreaker s.surroundings

end Adapter

namespace Publishing

variable {ε ρ σ κ : Type} {a : Adapter ε ρ σ κ}

def session? : Publishing ρ κ → Option MqttSession
  | .leasing _ acquisition => acquisition.session? TransportCall.session?
  | .sending _ _ _ execution => execution.session? TransportCall.session?
  | .fresh | .limiting _ | .preparing _ _ => none

theorem conclude_roll (a : Adapter ε ρ σ κ) (s : Shared ε) (destination : Destination) (span : Nat)
    (result : Except BrokerError Receipt) :
    (conclude a s destination span result).shared.surroundings.roll = s.surroundings.roll := by
  cases result <;> rfl

theorem conclusion_roll (a : Adapter ε ρ σ κ) (s : Shared ε) (now : Instant) (destination : Destination) (span : Nat)
    (lease : Lease ρ) (result : Except BrokerError Receipt) :
    (conclusion a s now destination span lease result).shared.surroundings.roll = s.surroundings.roll :=
  (conclude_roll _ _ destination span result).trans (a.release_roll s now lease)

theorem sendOperation_enrolls (enrolls : a.transport.Enrolls) (lease : Lease ρ) (e : Envelope) :
    (sendOperation a lease e).Enrolls TransportCall.session? := (enrolls.send lease.resource e).map _

theorem step_enters (enrolls : a.transport.Enrolls) (s : Shared ε) (message : Outgoing) (now : Instant)
    (cancelled : Bool) (progress : Publishing ρ κ) :
    let next := progress.step a s message now cancelled
    s.surroundings.roll.Enters progress.session? (next.turn.session? session? progress)
      next.shared.surroundings.roll := by
  cases progress with
  | fresh =>
      simp only [step]
      split <;> exact .kept (.inl rfl)
  | limiting span =>
      simp only [step]
      split
      · exact .kept (.inl rfl)
      · split
        · exact .of_eq (conclude_roll a s message.destination span _) (.inl rfl)
        · exact .kept (.inl rfl)
        · exact .kept (.inl rfl)
  | leasing span acquisition =>
      have entered := Adapter.stepLease_enters enrolls s now cancelled acquisition
      simp only [step]
      generalize a.stepLease s now cancelled acquisition = outcome at entered ⊢
      obtain ⟨turn, next, later⟩ := outcome
      cases turn with
      | finished result =>
          cases result with
          | ok lease => exact entered
          | error failure =>
              have roll := entered.eq (.inl rfl)
              exact .of_eq ((conclude_roll next later message.destination span _).trans roll) (.inl rfl)
      | moved | blocked | overflowed => exact entered
  | preparing span lease =>
      simp only [step]
      split
      · exact .of_eq (conclusion_roll a s now message.destination span lease _) (.inl rfl)
      · exact .kept (.inl rfl)
  | sending span lease envelope execution =>
      have entered := execution.step_enters (sendOperation_enrolls enrolls lease envelope) a.publish now cancelled
        a.publishBreaker s.surroundings
      simp only [step]
      generalize execution.step a.publish (sendOperation a lease envelope) now cancelled a.publishBreaker
        s.surroundings = next at entered ⊢
      obtain ⟨turn, breaker, later, events⟩ := next
      cases turn with
      | finished result =>
          have roll : later.roll = s.surroundings.roll := entered.eq (.inl rfl)
          cases result with
          | ok => exact .of_eq ((conclusion_roll _ _ now message.destination span lease _).trans roll) (.inl rfl)
          | error => exact .of_eq ((conclusion_roll _ _ now message.destination span lease _).trans roll) (.inl rfl)
      | moved | blocked | overflowed => exact entered

theorem abandon_roll (enrolls : a.transport.Enrolls) (s : Shared ε) (now : Instant) (progress : Publishing ρ κ) :
    (progress.abandon a s now).2.surroundings.roll = s.surroundings.roll := by
  cases progress with
  | fresh | limiting => rfl
  | leasing span acquisition => exact Adapter.abandonLease_roll enrolls s acquisition
  | preparing span lease => exact a.release_roll s now lease
  | sending span lease envelope execution =>
      have roll := execution.abandon_roll (sendOperation_enrolls enrolls lease envelope) a.publishBreaker s.surroundings
      exact (Adapter.release_roll _ _ now lease).trans roll

end Publishing

namespace Checking

variable {ε ρ σ κ : Type} {a : Adapter ε ρ σ κ}

def session? : Checking ρ κ → Option MqttSession
  | .leasing acquisition => acquisition.session? TransportCall.session?
  | .pinging _ => none

theorem step_enters (enrolls : a.transport.Enrolls) (s : Shared ε) (now : Instant) (cancelled : Bool)
    (progress : Checking ρ κ) :
    let next := progress.step a s now cancelled
    s.surroundings.roll.Enters progress.session? (next.turn.session? session? progress)
      next.shared.surroundings.roll := by
  cases progress with
  | leasing acquisition =>
      have same (call : Adapter.Leasing ρ κ) : (leasing call).session? = call.session? TransportCall.session? := rfl
      refine (Adapter.stepLease_enters enrolls s now cancelled acquisition).lift same fun result => ?_
      cases result <;> rfl
  | pinging lease => exact .of_eq (a.release_roll s now lease) (.inl rfl)

theorem abandon_roll (enrolls : a.transport.Enrolls) (s : Shared ε) (now : Instant) (progress : Checking ρ κ) :
    (progress.abandon a s now).2.surroundings.roll = s.surroundings.roll := by
  cases progress with
  | leasing acquisition => exact Adapter.abandonLease_roll enrolls s acquisition
  | pinging lease => exact a.release_roll s now lease

end Checking

namespace Consuming

variable {ε ρ σ κ η : Type} {a : Adapter ε ρ σ κ}

def session? : Consuming ρ σ κ η → Option MqttSession
  | .opening execution => execution.session? TransportCall.session?
  | .receiving _ _ call | .settling _ _ _ call => call.session?
  | .handling _ _ _ _ => none

theorem subscribeOperation_enrolls (enrolls : a.transport.Enrolls) (source : String) :
    (subscribeOperation a source).Enrolls TransportCall.session? := (enrolls.subscribe source).map _

theorem settlement_enrolls (enrolls : a.transport.Enrolls) (subscription : σ) (accepted : Bool) :
    (settlement a subscription accepted).Enrolls TransportCall.session? := by
  cases accepted with
  | true => exact enrolls.ack subscription
  | false => exact enrolls.nack subscription

theorem step_enters (enrolls : a.transport.Enrolls) (s : Shared ε) (source : String) (handler : Handler ε η)
    (now : Instant) (cancelled : Bool) (progress : Consuming ρ σ κ η) :
    let next := progress.step a s source handler now cancelled
    s.surroundings.roll.Enters progress.session? (next.turn.session? session? progress)
      next.shared.surroundings.roll := by
  cases progress with
  | opening execution =>
      have entered := execution.step_enters (subscribeOperation_enrolls enrolls source) a.pool.connect now cancelled
        a.connectBreaker s.surroundings
      simp only [step]
      generalize execution.step a.pool.connect (subscribeOperation a source) now cancelled a.connectBreaker
        s.surroundings = next at entered ⊢
      obtain ⟨turn, breaker, later, events⟩ := next
      cases turn with
      | finished result =>
          have roll : later.roll = s.surroundings.roll := entered.eq (.inl rfl)
          cases result with
          | ok subscription => exact .of_eq roll (.inl (enrolls.next subscription).start)
          | error => exact .of_eq roll (.inl rfl)
      | moved | blocked | overflowed => exact entered
  | receiving subscription summary call =>
      have next := enrolls.next subscription
      simp only [step]
      split
      · exact .of_eq (next.abandon s.surroundings call) (.inl rfl)
      · split <;> rename_i stepped
        · exact .of_eq (next.finished stepped) (.inl rfl)
        · exact .of_eq (next.finished stepped) (.inl rfl)
        · exact .of_eq (next.finished stepped) (.inl rfl)
        · exact next.stepped stepped
        · exact next.stepped stepped
        · exact next.stepped stepped
  | handling subscription summary delivery call =>
      simp only [step]
      split
      · exact .kept (.inl (settlement_enrolls enrolls subscription true).start)
      · exact .kept (.inl (settlement_enrolls enrolls subscription false).start)
      · exact .kept (.inl rfl)
      · exact .kept (.inl rfl)
      · exact .kept (.inl rfl)
  | settling subscription summary accepted call =>
      have settled := settlement_enrolls enrolls subscription accepted
      simp only [step]
      split <;> rename_i stepped
      · exact .of_eq (settled.finished stepped) (.inl (enrolls.next subscription).start)
      · exact .of_eq (settled.finished stepped) (.inl rfl)
      · exact settled.stepped stepped
      · exact settled.stepped stepped
      · exact settled.stepped stepped

theorem abandon_roll (enrolls : a.transport.Enrolls) (s : Shared ε) (source : String) (handler : Handler ε η)
    (progress : Consuming ρ σ κ η) :
    (progress.abandon a s source handler).2.surroundings.roll = s.surroundings.roll := by
  cases progress with
  | opening execution =>
      exact execution.abandon_roll (subscribeOperation_enrolls enrolls source) a.connectBreaker s.surroundings
  | receiving subscription summary call => exact (enrolls.next subscription).abandon s.surroundings call
  | handling => rfl
  | settling subscription summary accepted call =>
      exact (settlement_enrolls enrolls subscription accepted).abandon s.surroundings call

end Consuming

/-! ## Parts -/

namespace Part

variable {ε ρ σ κ η : Type} {a next : Adapter ε ρ σ κ} {s later : Shared ε} {now : Instant} {prompt : Prompt}
  {part : Part ε ρ σ κ η} {fate : Fate ε ρ σ κ η}

def session? : Part ε ρ σ κ η → Option MqttSession
  | .publishing _ progress => progress.session?
  | .checking progress => progress.session?
  | .consuming _ _ progress => progress.session?

def Fate.session? : Fate ε ρ σ κ η → Option MqttSession
  | .goesOn part => part.session?
  | .settled _ => none

theorem session?_fresh (fresh : part.isFresh) : part.session? = none := by
  rcases fresh_cases fresh with ⟨message, rfl⟩ | rfl | ⟨source, handler, rfl⟩ <;> rfl

theorem step_enters (enrolls : a.transport.Enrolls) (s : Shared ε) (now : Instant) (cancelled : Bool)
    (part : Part ε ρ σ κ η) :
    let next := part.step a s now cancelled
    s.surroundings.roll.Enters part.session? (next.turn.session? session? part) next.shared.surroundings.roll := by
  cases part with
  | publishing message progress =>
      have same (call : Publishing ρ κ) : (publishing message call : Part ε ρ σ κ η).session? = call.session? := rfl
      exact (progress.step_enters enrolls s message now cancelled).lift same fun _ => rfl
  | checking progress =>
      have same (call : Checking ρ κ) : (checking call : Part ε ρ σ κ η).session? = call.session? := rfl
      exact (progress.step_enters enrolls s now cancelled).lift same fun _ => rfl
  | consuming source handler progress =>
      have same (call : Consuming ρ σ κ η) : (consuming source handler call).session? = call.session? := rfl
      exact (progress.step_enters enrolls s source handler now cancelled).lift same fun _ => rfl

theorem abandon_roll (enrolls : a.transport.Enrolls) (s : Shared ε) (now : Instant) (part : Part ε ρ σ κ η) :
    (part.abandon a s now).2.surroundings.roll = s.surroundings.roll := by
  cases part with
  | publishing message progress => exact progress.abandon_roll enrolls s now
  | checking progress => exact progress.abandon_roll enrolls s now
  | consuming source handler progress => exact progress.abandon_roll enrolls s source handler

theorem Deed.enters (enrolls : a.transport.Enrolls) (deed : part.Deed now a s prompt fate next later) :
    s.surroundings.roll.Enters part.session? fate.session? later.surroundings.roll := by
  cases deed with
  | @moved cancelled _ turn | @waited cancelled _ turn | @finished cancelled _ turn =>
      have entered := part.step_enters enrolls s now cancelled
      simp only [turn] at entered
      exact entered
  | @broke cancelled _ _ turn left =>
      have entered := part.step_enters enrolls s now cancelled
      have kept := (part.step_wiring a s now cancelled).2
      have roll := part.abandon_roll (kept.symm ▸ enrolls) (part.step a s now cancelled).shared now
      simp only [turn] at entered
      rw [left] at roll
      exact .of_eq (roll.trans (entered.eq (.inr rfl))) (.inl rfl)
  | gaveUp left =>
      have roll := part.abandon_roll enrolls s now
      rw [left] at roll
      exact .of_eq roll (.inl rfl)

end Part

/-! ## Exchanges -/

def Registry.Enrolls {ε ρ σ κ : Type} (r : Registry ε ρ σ κ) : Prop :=
  ∀ (place : Nat) (a : Adapter ε ρ σ κ), r.adapters[place]? = some a → a.transport.Enrolls

namespace Registry

variable {ε ρ σ κ η : Type} {move : Exchange.Move ε ρ σ κ η} {r next : Registry ε ρ σ κ}

theorem Enrolls.set {place : Nat} {a b : Adapter ε ρ σ κ} {later : Shared ε} (enrolls : r.Enrolls)
    (found : r.adapters[place]? = some a) (transport : b.transport = a.transport) :
    Enrolls { r with adapters := r.adapters.set place b, shared := later } := by
  intro there c held
  rcases getElem?_set_cases held with ⟨rfl, rfl⟩ | ⟨-, held⟩
  · exact transport ▸ enrolls there a found
  · exact enrolls there c held

theorem Tended.enrolls (tended : r.Tended move next) (enrolls : r.Enrolls) : next.Enrolls := by
  cases tended with
  | enlisted | reported | disturbed => exact enrolls
  | added bucket names asked =>
      intro place a found
      rcases getElem?_concat_cases found with found | ⟨-, rfl⟩
      · exact enrolls place a found
      · exact Transport.ofSettings_enrolls _ _
  | changed found tended =>
      refine enrolls.set found ?_
      cases tended <;> rfl

theorem Tended.roll (tended : r.Tended move next) : next.shared.surroundings.roll = r.shared.surroundings.roll := by
  cases tended with
  | enlisted | added | reported | disturbed => rfl
  | changed found tended =>
      cases tended with
      | closeIdle | shutdown => exact Adapter.absorb_roll _ _ _
      | reset => rfl

end Registry

theorem bind_getElem?_concat {α β : Type} {f : α → Option β} {last : α} (nothing : f last = none) (entries : List α)
    (n : Nat) : (entries ++ [last])[n]?.bind f = entries[n]?.bind f := by
  rcases Nat.lt_trichotomy n entries.length with below | rfl | above
  · rw [List.getElem?_append_left below]
  · simp [nothing]
  · rw [List.getElem?_eq_none (by simp; omega), List.getElem?_eq_none above.le]

theorem bind_getElem?_set {α β : Type} {f : α → Option β} {entries : List α} {n : Nat} {before : α}
    (found : entries[n]? = some before) (after : α) : (entries.set n after)[n]?.bind f = f after := by
  rw [List.getElem?_set_self (List.getElem?_eq_some_iff.1 found).1]
  rfl

def Errand.session? {ε ρ σ κ η : Type} (errand : Errand ε ρ σ κ η) : Option MqttSession :=
  errand.part?.bind (·.2.session?)

theorem Call.Leaves.session? {ε ρ σ κ η : Type} {call : Call ε ρ σ κ η} {errand : Errand ε ρ σ κ η}
    (leaves : call.Leaves errand) : errand.session? = none := by
  cases leaves with
  | gone | checked => rfl
  | skipped checked progress first left => cases left <;> rfl

theorem Call.Succeeds.session? {ε ρ σ κ η : Type} {call : Call ε ρ σ κ η} {place : Nat} {fate : Part.Fate ε ρ σ κ η}
    {errand : Errand ε ρ σ κ η} (succeeds : call.Succeeds place fate errand) : errand.session? = fate.session? := by
  cases succeeds with
  | goesOn known => simp [Errand.session?, Errand.part?, known, Part.Fate.session?]
  | settled => rfl
  | @checked name result left => cases left <;> rfl

namespace Exchange

variable {ε ρ σ κ η : Type} {x y : Exchange ε ρ σ κ η} {move : Move ε ρ σ κ η} {number : Nat}

def session? (x : Exchange ε ρ σ κ η) (number : Nat) : Option MqttSession := x.errands[number]?.bind Errand.session?

theorem Change.enrolls (change : x.Change move y) (enrolls : x.registry.Enrolls) : y.registry.Enrolls := by
  cases change with
  | began _ _ _ registry | passed _ _ registry | left _ _ _ _ registry => exact registry ▸ enrolls
  | acted _ _ _ here deed _ registry =>
      rw [registry]
      exact enrolls.set here deed.wiring.2
  | tended _ _ tended =>
      generalize y.registry = registry at tended
      induction tended with
      | refl => exact enrolls
      | tail _ last ih => exact last.enrolls ih

theorem Change.unprompted (change : x.Change move y) (unprompted : move.prompt? = none) :
    y.registry.shared.surroundings.roll = x.registry.shared.surroundings.roll := by
  cases change with
  | began _ _ _ registry => rw [registry]
  | passed prompted | left prompted | acted prompted =>
      rw [unprompted] at prompted
      cases prompted
  | tended _ _ tended =>
      generalize y.registry = registry at tended
      induction tended with
      | refl => rfl
      | tail _ last ih => exact last.roll.trans ih

theorem Change.elsewhere (change : x.Change move y) (other : ∀ prompt, move.prompt? ≠ some (number, prompt)) :
    y.session? number = x.session? number := by
  have untouched {here : Nat} {prompt : Prompt} {errand : Errand ε ρ σ κ η}
      (prompted : move.prompt? = some (here, prompt)) (errands : y.errands = x.errands.set here errand) :
      y.session? number = x.session? number := by
    have apart : here ≠ number := fun same => other prompt (same ▸ prompted)
    rw [session?, errands, List.getElem?_set_ne apart, session?]
  cases change with
  | tended _ errands | passed _ _ _ errands => rw [session?, errands, session?]
  | @began call _ begins _ _ errands =>
      have fresh : (Errand.running call).session? = none := by
        rw [Errand.session?, Errand.part?]
        cases known : call.part? with
        | none => rfl
        | some entry => exact Part.session?_fresh (begins _ _ known).isFresh
      rw [session?, session?, errands]
      exact bind_getElem?_concat fresh x.errands number
  | left prompted _ _ _ _ errands | acted prompted _ _ _ _ _ _ errands => exact untouched prompted errands

theorem Change.enters (change : x.Change move y) (enrolls : x.registry.Enrolls) {prompt : Prompt}
    (prompted : move.prompt? = some (number, prompt)) :
    x.registry.shared.surroundings.roll.Enters (x.session? number) (y.session? number)
      y.registry.shared.surroundings.roll := by
  cases change with
  | tended unprompted | began unprompted =>
      rw [unprompted] at prompted
      cases prompted
  | passed _ _ registry errands =>
      rw [registry, session?, session?, errands]
      exact .kept (.inr rfl)
  | left prompted' found vacant leaves registry errands =>
      -- a call at no adapter ends, or goes on to a check that has not begun
      rw [prompted] at prompted'
      cases prompted'
      rw [registry, session?, session?, errands, bind_getElem?_set found, leaves.session?]
      exact .kept (.inl rfl)
  | @acted _ _ call _ place part a next later fate prompted' found known here deed succeeds registry errands =>
      rw [prompted] at prompted'
      cases prompted'
      have before : x.session? number = part.session? := by
        rw [session?, found]
        simp [Errand.session?, Errand.part?, known]
      rw [registry, before, session?, errands, bind_getElem?_set found, succeeds.session?]
      exact deed.enters (enrolls place a here)

end Exchange

end Dispatch
