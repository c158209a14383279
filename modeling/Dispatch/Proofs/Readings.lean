import Dispatch.Proofs.Errands
import Dispatch.Proofs.Execution

set_option autoImplicit false

namespace Dispatch

/-- An operation that leaves a reading of its environment as it is. -/
structure Operation.Keeps {ε κ α β : Type} (op : Operation ε κ α) (view : ε → β) : Prop where
  step : ∀ now environment call, view (op.step now environment call).2 = view environment
  abandon : ∀ environment call, view (op.abandon environment call) = view environment

theorem Operation.Keeps.comp {ε κ α β γ : Type} {op : Operation ε κ α} {view : ε → β} (keeps : op.Keeps view)
    (f : β → γ) : op.Keeps fun environment => f (view environment) :=
  ⟨fun now environment call => congrArg f (keeps.step now environment call),
    fun environment call => congrArg f (keeps.abandon environment call)⟩

theorem Operation.Keeps.pair {ε κ α β γ : Type} {op : Operation ε κ α} {view : ε → β} {other : ε → γ}
    (keeps : op.Keeps view) (keeps' : op.Keeps other) : op.Keeps fun environment => (view environment, other environment) :=
  ⟨fun now environment call => Prod.ext (keeps.step now environment call) (keeps'.step now environment call),
    fun environment call => Prod.ext (keeps.abandon environment call) (keeps'.abandon environment call)⟩

theorem Operation.Keeps.whole {ε ρ κ α β : Type} {op : Operation ε κ α} {view : ε → β} (keeps : op.Keeps view) :
    (op.whole : Operation (Surroundings ε) (TransportCall ρ κ) α).Keeps (view ·.outside) where
  step now s call := by
    cases call with
    | plain call => exact keeps.step now s.outside call
    | fresh | opening | confirming | sending | listening => rfl
  abandon s call := by
    cases call with
    | plain call => exact keeps.abandon s.outside call
    | fresh | opening | confirming | sending | listening => rfl

namespace Operation.Keeps

variable {ε κ α β : Type} {op : Operation ε κ (Except Failure α)} {view : ε → β}

theorem execution_step (keeps : op.Keeps view) (p : Pipeline) (now : Instant) (cancelled : Bool)
    (breaker : Breaker) (environment : ε) (execution : Execution κ) :
    view (execution.step p op now cancelled breaker environment).environment = view environment := by
  cases execution with
  | trying attempt permit call =>
      by_cases cut : cancelled ∧ p.kind.abortsInFlight
      · rw [(Execution.step_cut p op now breaker environment attempt permit call cut).1]
        exact keeps.abandon environment call
      · rw [(Execution.step_trying p op now breaker environment attempt permit call cut).1]
        exact keeps.step now environment call
  | ready | resting =>
      exact congrArg view (Execution.step_between p op now breaker environment (by simp)).1

theorem execution_abandon (keeps : op.Keeps view) (breaker : Breaker) (environment : ε)
    (execution : Execution κ) : view (execution.abandon op breaker environment).2 = view environment := by
  cases execution with
  | trying attempt permit call => exact keeps.abandon environment call
  | ready | resting => rfl

end Operation.Keeps

theorem Operation.Keeps.connectVia {ε ρ σ κ β : Type} {c : Connector ε ρ σ κ} {view : ε → β}
    (opens : ∀ request, (c.openHandle request).Keeps view) (confirms : ∀ handle, (c.confirmSelect handle).Keeps view)
    (close : ∀ handle outside, view (c.close handle outside) = view outside)
    (forget : ∀ handle outside, view (c.forget handle outside) = view outside) (settings : BackendSettings) :
    (Transport.connectVia c settings).Keeps (view ·.outside) where
  step now s call := by
    cases call with
    | fresh => cases settings <;> rfl
    | opening request call => exact (opens request).step now s.outside call
    | confirming handle call =>
        have kept : view ((c.confirmSelect handle).stepPart now s call).2.outside = view s.outside :=
          (confirms handle).step now s.outside call
        simp only [Transport.connectVia]
        split
        · rename_i stepped
          rw [stepped] at kept
          exact kept
        · rename_i stepped
          rw [stepped] at kept
          exact (close handle _).trans kept
        · rename_i stepped
          rw [stepped] at kept
          exact kept
        · rename_i stepped
          rw [stepped] at kept
          exact kept
        · rename_i stepped
          rw [stepped] at kept
          exact kept
    | sending | listening | plain => rfl
  abandon s call := by
    cases call with
    | opening request call => exact (opens request).abandon s.outside call
    | confirming handle call => exact (forget handle _).trans ((confirms handle).abandon s.outside call)
    | fresh | sending | listening | plain => rfl

theorem Operation.Keeps.sendVia {ε ρ σ κ β : Type} {c : Connector ε ρ σ κ} {view : ε → β}
    {settings : BackendSettings} {handle : ρ} {e : Envelope}
    (sends : (c.send handle (Transport.wireOf settings e)).Keeps view) :
    (Transport.sendVia c settings handle e).Keeps (view ·.outside) where
  step now s call := by
    cases call with
    | sending deadline call =>
        have kept : view ((c.send handle (Transport.wireOf settings e)).stepPart now s call).2.outside =
          view s.outside := sends.step now s.outside call
        simp only [Transport.sendVia]
        split
        · rename_i stepped
          rw [stepped] at kept
          split
          · exact (sends.abandon _ call).trans kept
          · exact kept
        · rename_i stepped
          rw [stepped] at kept
          exact kept
    | fresh | opening | confirming | listening | plain => rfl
  abandon s call := by
    cases call with
    | sending deadline call => exact sends.abandon s.outside call
    | fresh | opening | confirming | listening | plain => rfl

theorem Operation.Keeps.sendOperation {ε ρ σ κ β : Type} {a : Adapter ε ρ σ κ} {lease : Lease ρ} {e : Envelope}
    {view : Surroundings ε → β} (sends : (a.transport.send lease.resource e).Keeps view) :
    (Publishing.sendOperation a lease e).Keeps view :=
  ⟨fun now s call => sends.step now s call, sends.abandon⟩

theorem Operation.Keeps.subscribeOperation {ε ρ σ κ β : Type} {a : Adapter ε ρ σ κ} {source : String}
    {view : Surroundings ε → β} (subscribes : (a.transport.subscribe source).Keeps view) :
    (Consuming.subscribeOperation a source).Keeps view :=
  ⟨fun now s call => subscribes.step now s call, subscribes.abandon⟩

structure Transport.Spares {ε ρ σ κ β : Type} (t : Transport ε ρ σ κ) (view : ε → β) : Prop where
  close : ∀ handle outside, view (t.close handle outside) = view outside
  subscribe : ∀ source, (t.subscribe source).Keeps (view ·.outside)
  next : ∀ subscription, (t.next subscription).Keeps (view ·.outside)
  ack : ∀ subscription, (t.ack subscription).Keeps (view ·.outside)
  nack : ∀ subscription, (t.nack subscription).Keeps (view ·.outside)
  leave : ∀ subscription outside, view (t.leave subscription outside) = view outside

def Handler.Spares {ε η β : Type} (handler : Handler ε η) (view : ε → β) : Prop :=
  ∀ delivery, (handler delivery).Keeps view

abbrev Shared.reading {ε β : Type} (view : ε → β) (s : Shared ε) : β := view s.surroundings.outside

theorem Adapter.absorb_reading {ε ρ σ κ β : Type} {view : ε → β} {a : Adapter ε ρ σ κ}
    (close : ∀ handle outside, view (a.transport.close handle outside) = view outside) (s : Shared ε)
    (events : List (PoolEvent ρ)) : (a.absorb s events).reading view = s.reading view := by
  induction events generalizing s with
  | nil => rfl
  | cons event events ih =>
      refine (ih (Adapter.absorbOne a s event)).trans ?_
      cases event with
      | disposed handle => exact close handle _
      | opened | resized | closed | reported => rfl

namespace Transport.Spares

variable {ε ρ σ κ η β : Type} {view : ε → β} {a : Adapter ε ρ σ κ}

theorem comp {γ : Type} {t : Transport ε ρ σ κ} (spares : t.Spares view) (f : β → γ) :
    t.Spares fun outside => f (view outside) where
  close handle outside := congrArg f (spares.close handle outside)
  subscribe source := (spares.subscribe source).comp f
  next subscription := (spares.next subscription).comp f
  ack subscription := (spares.ack subscription).comp f
  nack subscription := (spares.nack subscription).comp f
  leave subscription outside := congrArg f (spares.leave subscription outside)

theorem absorb (spares : a.transport.Spares view) (s : Shared ε) (events : List (PoolEvent ρ)) :
    (a.absorb s events).reading view = s.reading view := Adapter.absorb_reading spares.close s events

theorem release (spares : a.transport.Spares view) (s : Shared ε) (now : Instant) (lease : Lease ρ) :
    (a.release s now lease).2.reading view = s.reading view := spares.absorb s _

theorem tended (spares : a.transport.Spares view) {s later : Shared ε} {next : Adapter ε ρ σ κ}
    (tended : a.Tended s next later) : later.reading view = s.reading view := by
  cases tended with
  | closeIdle | shutdown => exact spares.absorb s _
  | reset => rfl

theorem stepLease (spares : a.transport.Spares view) (connect : a.supply.create.Keeps (view ·.outside))
    (s : Shared ε) (now : Instant) (cancelled : Bool) (leasing : Adapter.Leasing ρ κ) :
    (a.stepLease s now cancelled leasing).2.2.reading view = s.reading view := by
  refine (spares.absorb _ _).trans ?_
  cases leasing with
  | arriving =>
      simp only [Acquisition.step]
      split
      · rfl
      · split
        · rfl
        · split
          · rfl
          · split <;> rfl
  | queued ticket deadline =>
      simp only [Acquisition.step]
      split
      · rfl
      · split
        · rfl
        · split
          · rfl
          · split
            · rfl
            · split <;> rfl
  | seated =>
      simp only [Acquisition.step]
      split <;> rfl
  | connecting execution =>
      have kept := connect.execution_step a.pool.connect now cancelled a.connectBreaker s.surroundings execution
      simp only [Acquisition.step]
      split <;> exact kept

theorem abandonLease (connect : a.supply.create.Keeps (view ·.outside)) (s : Shared ε)
    (leasing : Adapter.Leasing ρ κ) : (a.abandonLease s leasing).2.reading view = s.reading view := by
  cases leasing with
  | connecting execution => exact connect.execution_abandon a.connectBreaker s.surroundings execution
  | arriving | queued | seated => rfl

theorem subscribeOperation (spares : a.transport.Spares view) (source : String) :
    (Consuming.subscribeOperation a source).Keeps (view ·.outside) := .subscribeOperation (spares.subscribe source)

theorem settlement (spares : a.transport.Spares view) (subscription : σ) (accepted : Bool) :
    (Consuming.settlement a subscription accepted).Keeps (view ·.outside) := by
  cases accepted with
  | true => exact spares.ack subscription
  | false => exact spares.nack subscription

theorem conclude (s : Shared ε) (destination : Destination) (span : Nat) (result : Except BrokerError Receipt)
    (view : ε → β) : (Publishing.conclude a s destination span result).shared.reading view = s.reading view := by
  cases result <;> rfl

theorem conclusion (spares : a.transport.Spares view) (s : Shared ε) (now : Instant) (destination : Destination)
    (span : Nat) (lease : Lease ρ) (result : Except BrokerError Receipt) :
    (Publishing.conclusion a s now destination span lease result).shared.reading view = s.reading view :=
  (conclude _ destination span result view).trans (spares.release s now lease)

theorem publish (spares : a.transport.Spares view) (connect : a.supply.create.Keeps (view ·.outside))
    (s : Shared ε) (message : Outgoing) (now : Instant) (cancelled : Bool) {progress : Publishing ρ κ}
    (unsent : ∀ span lease envelope execution, progress ≠ .sending span lease envelope execution) :
    (progress.step a s message now cancelled).shared.reading view = s.reading view := by
  cases progress with
  | fresh => rfl
  | limiting span =>
      simp only [Publishing.step]
      split
      · rfl
      · split
        · exact conclude s message.destination span _ view
        · rfl
        · rfl
  | leasing span acquisition =>
      have kept := spares.stepLease connect s now cancelled acquisition
      simp only [Publishing.step]
      generalize a.stepLease s now cancelled acquisition = outcome at kept ⊢
      obtain ⟨turn, next, later⟩ := outcome
      cases turn with
      | finished result =>
          cases result with
          | ok lease => exact kept
          | error failure => exact (conclude later message.destination span _ view).trans kept
      | moved | blocked | overflowed => exact kept
  | preparing span lease =>
      simp only [Publishing.step]
      split
      · exact spares.conclusion s now message.destination span lease _
      · rfl
  | sending span lease envelope execution => exact absurd rfl (unsent span lease envelope execution)

theorem check (spares : a.transport.Spares view) (connect : a.supply.create.Keeps (view ·.outside)) (s : Shared ε)
    (now : Instant) (cancelled : Bool) (progress : Checking ρ κ) :
    (progress.step a s now cancelled).shared.reading view = s.reading view := by
  cases progress with
  | leasing acquisition => exact spares.stepLease connect s now cancelled acquisition
  | pinging lease => exact spares.release s now lease

theorem stopChecking (spares : a.transport.Spares view) (connect : a.supply.create.Keeps (view ·.outside))
    (s : Shared ε) (now : Instant) (progress : Checking ρ κ) :
    (progress.abandon a s now).2.reading view = s.reading view := by
  cases progress with
  | leasing acquisition => exact abandonLease connect s acquisition
  | pinging lease => exact spares.release s now lease

theorem consume (spares : a.transport.Spares view) {handler : Handler ε η} (quiet : handler.Spares view)
    (s : Shared ε) (source : String) (now : Instant) (cancelled : Bool) (progress : Consuming ρ σ κ η) :
    (progress.step a s source handler now cancelled).shared.reading view = s.reading view := by
  have left (s : Shared ε) (subscription : σ) :
      (s.update (a.transport.leave subscription)).reading view = s.reading view := spares.leave subscription _
  cases progress with
  | opening execution =>
      have kept := (spares.subscribeOperation source).execution_step a.pool.connect now cancelled
        a.connectBreaker s.surroundings execution
      simp only [Consuming.step]
      split <;> exact kept
  | receiving subscription summary call =>
      have kept := (spares.next subscription).step now s.surroundings call
      simp only [Consuming.step]
      split
      · exact (left _ subscription).trans ((spares.next subscription).abandon s.surroundings call)
      · split
        · exact kept
        · exact (left _ subscription).trans kept
        · exact (left _ subscription).trans kept
        · exact kept
        · exact kept
        · exact kept
  | handling subscription summary delivery call =>
      have kept := (quiet delivery).step now s.surroundings.outside call
      simp only [Consuming.step]
      split <;> exact kept
  | settling subscription summary accepted call =>
      have kept := (spares.settlement subscription accepted).step now s.surroundings call
      simp only [Consuming.step]
      split
      · exact kept
      · exact (left _ subscription).trans kept
      · exact kept
      · exact kept
      · exact kept

theorem stopConsuming (spares : a.transport.Spares view) {handler : Handler ε η} (quiet : handler.Spares view)
    (s : Shared ε) (source : String) (progress : Consuming ρ σ κ η) :
    (progress.abandon a s source handler).2.reading view = s.reading view := by
  cases progress with
  | opening execution =>
      exact (spares.subscribeOperation source).execution_abandon a.connectBreaker s.surroundings execution
  | receiving subscription summary call =>
      exact (spares.leave subscription _).trans ((spares.next subscription).abandon s.surroundings call)
  | handling subscription summary delivery call =>
      exact (spares.leave subscription _).trans ((quiet delivery).abandon s.surroundings.outside call)
  | settling subscription summary accepted call =>
      exact (spares.leave subscription _).trans
        ((spares.settlement subscription accepted).abandon s.surroundings call)

end Transport.Spares

end Dispatch
