import Dispatch.Proofs.Accounts.Dealings

set_option autoImplicit false

namespace Dispatch

/-! ## What leaves no trace -/

section Journals

variable {ε ρ σ κ : Type}

theorem Operation.whole_journal {α : Type} (op : Operation ε κ α) :
    (op.whole : Operation (Surroundings ε) (TransportCall ρ κ) α).Keeps Surroundings.journal where
  step now s call := by cases call <;> rfl
  abandon s call := by cases call <;> rfl

theorem Transport.sendVia_journal (c : Connector ε ρ σ κ) (settings : BackendSettings) (handle : ρ) (e : Envelope) :
    (sendVia c settings handle e).Keeps Surroundings.journal where
  step now s call := by
    cases call with
    | fresh | opening | confirming | listening | plain => rfl
    | sending deadline call =>
        have kept : ((c.send handle (wireOf settings e)).stepPart now s call).2.journal = s.journal := rfl
        rw [sendVia_sending]
        generalize (c.send handle (wireOf settings e)).stepPart now s call = outcome at kept ⊢
        obtain ⟨turn, later⟩ := outcome
        cases turn with
        | blocked wake =>
            dsimp only
            split <;> exact kept
        | finished | moved | overflowed => exact kept
  abandon s call := by cases call <;> rfl

theorem Transport.subscribeVia_journal (c : Connector ε ρ σ κ) (settings : BackendSettings) (source : String) :
    (subscribeVia c settings source).Keeps Surroundings.journal where
  step now s call := by
    cases call with
    | fresh => cases settings <;> rfl
    | listening | opening | confirming | sending | plain => rfl
  abandon s call := by cases call <;> rfl

end Journals

theorem Operation.Keeps.trace {κ α : Type} {op : Operation (Surroundings MemoryBroker) κ α}
    (register : op.Keeps (·.outside.register)) (journal : op.Keeps Surroundings.journal) :
    op.Keeps Surroundings.trace :=
  register.pair (journal.comp fun events => ((events.filter Event.isConnection : List Event) : Multiset Event))

structure Transport.Traceless (t : Transport MemoryBroker MemoryHandle Nat MemoryCall) : Prop where
  send : ∀ handle e, (t.send handle e).Keeps Surroundings.trace
  subscribe : ∀ source, (t.subscribe source).Keeps Surroundings.trace
  next : ∀ subscription, (t.next subscription).Keeps Surroundings.trace
  ack : ∀ subscription, (t.ack subscription).Keeps Surroundings.trace
  nack : ∀ subscription, (t.nack subscription).Keeps Surroundings.trace
  leave : ∀ subscription b, (t.leave subscription b).register = b.register

theorem Adapter.OnMemory.traceless {a : MemoryAdapter} {settings : BackendSettings} (wired : a.OnMemory settings) :
    a.transport.Traceless := by
  have register {κ α : Type} {op : Operation (Surroundings MemoryBroker) κ α}
      (keeps : op.Keeps (·.outside.office)) : op.Keeps (·.outside.register) :=
    keeps.comp fun office => (office.1.2, office.2)
  rw [wired]
  constructor
  case send =>
    exact fun handle e => .trace (.sendVia (MemoryBroker.send_register handle _)) (Transport.sendVia_journal _ _ _ _)
  case subscribe =>
    exact fun source => .trace (register (MemoryBroker.subscribeVia_office settings source))
      (Transport.subscribeVia_journal _ _ _)
  case next =>
    exact fun subscription => .trace (register (MemoryBroker.next_office settings subscription))
      (Operation.whole_journal _)
  case ack =>
    exact fun subscription => .trace (register (MemoryBroker.ack_office settings subscription))
      (Operation.whole_journal _)
  case nack =>
    exact fun subscription => .trace (register (MemoryBroker.nack_office settings subscription))
      (Operation.whole_journal _)
  case leave => exact fun subscription b => rfl

namespace Shared.Silent

theorem execution {κ α : Type} {op : Operation (Surroundings MemoryBroker) κ (Except Failure α)}
    (keeps : op.Keeps Surroundings.trace) (p : Pipeline) (now : Instant) (cancelled : Bool) (breaker : Breaker)
    (s : Shared MemoryBroker) (execution : Execution κ) :
    let next := execution.step p op now cancelled breaker s.surroundings
    s.Silent ({ s with surroundings := next.environment }.report next.events) :=
  (of_trace (keeps.execution_step p now cancelled breaker s.surroundings execution)).trans
    (report _ (execution.step_plain p op now cancelled breaker s.surroundings))

theorem count (s : Shared MemoryBroker) (key : MetricsKey) {counter : Counter} (other : counter.connections = 0) :
    s.Silent (s.count key counter) where
  ledger := by rw [s.count_ledger, other, Ledger.add_zero]
  register := rfl

theorem spans {s later : Shared MemoryBroker} (silent : s.Silent later) (spans : SpanRecorder) :
    s.Silent { later with spans } := ⟨silent.ledger, silent.register⟩

end Shared.Silent

/-! ## Publish calls -/

namespace Publishing

variable {a : MemoryAdapter} {settings : BackendSettings}

theorem prepare_plain {ε ρ σ κ : Type} (a : Adapter ε ρ σ κ) (e : Envelope) : Event.Plain (prepare a e).2 := by
  have headers : Event.Plain (withoutHeaders a e).2 := by
    unfold withoutHeaders
    split
    · exact .nil
    · split
      · exact .nil
      · split <;> simp [Event.isConnection]
  have size (e : Envelope) : Event.Plain (sizeWarning a e) := by
    unfold sizeWarning
    split
    · exact .nil
    · split <;> simp [Event.isConnection]
  exact Event.Plain.append_iff.2 ⟨headers, size _⟩

theorem conclude_silent (a : MemoryAdapter) (s : Shared MemoryBroker) (destination : Destination) (span : Nat)
    (result : Except BrokerError Receipt) : s.Silent (conclude a s destination span result).shared := by
  have counted (counter : Counter) (other : counter.connections = 0) (spans : SpanRecorder) {events : List Event}
      (plain : Event.Plain events) : s.Silent ({ s.count a.key counter with spans }.report events) :=
    ((Shared.Silent.count s a.key other).spans spans).trans (.report _ plain)
  cases result with
  | ok receipt => exact counted .published rfl _ .nil
  | error error =>
      refine counted .failed rfl _ ?_
      cases error.isCancelled <;> simp [Event.isConnection]

theorem abandoned_silent (a : MemoryAdapter) (s : Shared MemoryBroker) (span : Nat) :
    s.Silent (abandoned a s span).2 :=
  Shared.Silent.spans (.count s a.key (rfl : Counter.failed.connections = 0)) _

theorem conclusion_dealing (wired : a.OnMemory settings) (s : Shared MemoryBroker) (now : Instant)
    (destination : Destination) (span : Nat) (lease : Lease MemoryHandle) (result : Except BrokerError Receipt) :
    let next := conclusion a s now destination span lease result
    a.Dealing s (Lease.held lease) next.adapter next.shared 0 := by
  have adapter := (conclude_frame (a.release s now lease).1 (a.release s now lease).2 destination span result).2.1
  have dealing := (wired.release_dealing s now lease).silent (conclude_silent (a.release s now lease).1 _ destination
    span result)
  rw [← adapter] at dealing
  exact dealing

/-- The handle that waits for its confirmation. -/
def awaiting {ρ κ : Type} : Publishing ρ κ → Multiset ρ
  | .leasing _ acquisition => acquisition.held TransportCall.held
  | _ => 0

theorem step_dealing (wired : a.OnMemory settings) (kind : a.pool.connect.kind = .connect) (s : Shared MemoryBroker)
    (message : Outgoing) (now : Instant) (cancelled : Bool) (progress : Publishing MemoryHandle MemoryCall) :
    let next := progress.step a s message now cancelled
    a.Dealing s progress.held next.adapter next.shared (next.turn.held Publishing.held (fun _ => 0) progress) ∧
      (progress.awaiting = 0 ∨ ∃ after, next.turn = .moved after) := by
  cases progress with
  | fresh =>
      refine ⟨?_, .inl rfl⟩
      simp only [step]
      split <;> exact .still 0 rfl rfl rfl ⟨rfl, rfl⟩
  | limiting span =>
      refine ⟨?_, .inl rfl⟩
      simp only [step]
      split
      · exact .still 0 rfl rfl rfl (.refl s)
      · split
        · exact .still 0 rfl rfl rfl (conclude_silent a s message.destination span _)
        · exact .still 0 rfl rfl rfl (.refl s)
        · exact .still 0 rfl rfl rfl (.refl s)
  | leasing span acquisition =>
      obtain ⟨dealing, arrives⟩ := wired.stepLease_dealing kind s now cancelled acquisition
      simp only [step]
      generalize a.stepLease s now cancelled acquisition = outcome at dealing arrives ⊢
      obtain ⟨turn, next, later⟩ := outcome
      dsimp only at dealing arrives
      cases turn with
      | finished result =>
          cases result with
          | ok lease => exact ⟨dealing, .inr ⟨_, rfl⟩⟩
          | error failure =>
              exact ⟨dealing.silent (conclude_silent next later message.destination span _),
                .inl (arrives.resolve_right (by simp))⟩
      | moved acquisition => exact ⟨dealing, .inr ⟨_, rfl⟩⟩
      | blocked | overflowed => exact ⟨dealing, .inl (arrives.resolve_right (by simp))⟩
  | preparing span lease =>
      refine ⟨?_, .inl rfl⟩
      simp only [step]
      split
      · exact conclusion_dealing wired s now message.destination span lease _
      · exact .still (Lease.held lease) rfl rfl rfl (.report s (prepare_plain a _))
  | sending span lease envelope execution =>
      refine ⟨?_, .inl rfl⟩
      have sent := Shared.Silent.execution (.sendOperation (wired.traceless.send lease.resource envelope)) a.publish
        now cancelled a.publishBreaker s execution
      simp only [step]
      generalize execution.step a.publish (sendOperation a lease envelope) now cancelled a.publishBreaker
        s.surroundings = next at sent ⊢
      have held : a.Dealing s (Lease.held lease) { a with publishBreaker := next.breaker } _ (Lease.held lease) :=
        .still _ rfl rfl rfl sent
      have wired : Adapter.OnMemory { a with publishBreaker := next.breaker } settings := wired
      split
      · exact held.trans (conclusion_dealing wired _ now message.destination span lease _)
      · exact held.trans (conclusion_dealing wired _ now message.destination span lease _)
      · exact held
      · exact held
      · exact held

theorem abandon_dealing (wired : a.OnMemory settings) (s : Shared MemoryBroker) (now : Instant)
    {progress : Publishing MemoryHandle MemoryCall} (none : progress.awaiting = 0) :
    a.Dealing s progress.held (progress.abandon a s now).1 (progress.abandon a s now).2 0 := by
  cases progress with
  | fresh => exact .still 0 rfl rfl rfl (.refl s)
  | limiting span => exact .still 0 rfl rfl rfl (abandoned_silent a s span)
  | leasing span acquisition => exact (wired.abandonLease_dealing s none).silent (abandoned_silent _ _ span)
  | preparing span lease => exact (wired.release_dealing s now lease).silent (abandoned_silent _ _ span)
  | sending span lease envelope execution =>
      have kept := (Operation.Keeps.sendOperation (wired.traceless.send lease.resource envelope)).execution_abandon
        a.publishBreaker s.surroundings execution
      simp only [abandon]
      generalize execution.abandon (sendOperation a lease envelope) a.publishBreaker s.surroundings = next at kept ⊢
      obtain ⟨publishBreaker, surroundings⟩ := next
      have held : a.Dealing s (Lease.held lease) { a with publishBreaker } { s with surroundings } (Lease.held lease) :=
        .still _ rfl rfl rfl (.of_trace kept)
      have wired : Adapter.OnMemory { a with publishBreaker } settings := wired
      exact (held.trans (wired.release_dealing _ now lease)).silent (abandoned_silent _ _ span)

end Publishing

/-! ## Health checks -/

namespace Checking

variable {a : MemoryAdapter} {settings : BackendSettings}

def awaiting {ρ κ : Type} : Checking ρ κ → Multiset ρ
  | .leasing acquisition => acquisition.held TransportCall.held
  | .pinging _ => 0

theorem step_dealing (wired : a.OnMemory settings) (kind : a.pool.connect.kind = .connect) (s : Shared MemoryBroker)
    (now : Instant) (cancelled : Bool) (progress : Checking MemoryHandle MemoryCall) :
    let next := progress.step a s now cancelled
    a.Dealing s progress.held next.adapter next.shared (next.turn.held Checking.held (fun _ => 0) progress) ∧
      (progress.awaiting = 0 ∨ ∃ after, next.turn = .moved after) := by
  cases progress with
  | leasing acquisition =>
      obtain ⟨dealing, arrives⟩ := wired.stepLease_dealing kind s now cancelled acquisition
      simp only [step]
      generalize a.stepLease s now cancelled acquisition = outcome at dealing arrives ⊢
      obtain ⟨turn, next, later⟩ := outcome
      dsimp only at dealing arrives
      cases turn with
      | finished result =>
          cases result with
          | ok lease => exact ⟨dealing, .inr ⟨_, rfl⟩⟩
          | error failure => exact ⟨dealing, .inl (arrives.resolve_right (by simp))⟩
      | moved acquisition => exact ⟨dealing, .inr ⟨_, rfl⟩⟩
      | blocked | overflowed => exact ⟨dealing, .inl (arrives.resolve_right (by simp))⟩
  | pinging lease => exact ⟨wired.release_dealing s now lease, .inl rfl⟩

theorem abandon_dealing (wired : a.OnMemory settings) (s : Shared MemoryBroker) (now : Instant)
    {progress : Checking MemoryHandle MemoryCall} (none : progress.awaiting = 0) :
    a.Dealing s progress.held (progress.abandon a s now).1 (progress.abandon a s now).2 0 := by
  cases progress with
  | leasing acquisition => exact wired.abandonLease_dealing s none
  | pinging lease => exact wired.release_dealing s now lease

end Checking

/-! ## Consumers -/

namespace Consuming

variable {η : Type} {a : MemoryAdapter} {handler : Handler MemoryBroker η}

theorem settlement_trace (traceless : a.transport.Traceless) (subscription : Nat) (accepted : Bool) :
    (settlement a subscription accepted).Keeps Surroundings.trace := by
  cases accepted with
  | true => exact traceless.ack subscription
  | false => exact traceless.nack subscription

theorem event_plain (a : MemoryAdapter) (source : String) (level : Level) {message : String}
    (fields : List (String × String)) (other : message ≠ "connection opened" ∧ message ≠ "connection closed") :
    Event.Plain [event a source level message fields] := by
  simp [event, Event.isConnection, other]

theorem finish_silent (traceless : a.transport.Traceless) (s : Shared MemoryBroker) (source : String)
    (subscription : Nat) (summary : ConsumeSummary) {reason : String}
    (other : reason ≠ "connection opened" ∧ reason ≠ "connection closed") :
    s.Silent (finish (η := η) a s source subscription summary reason).shared := by
  have plain := Event.Plain.append_iff.2 ⟨event_plain a source .debug [] other,
    event_plain a source .info [("received", toString summary.received), ("rejected", toString summary.rejected)]
      (by simp : "subscription closed" ≠ "connection opened" ∧ "subscription closed" ≠ "connection closed")⟩
  exact (Shared.Silent.report s plain).trans (.update (traceless.leave subscription _))

theorem step_silent (traceless : a.transport.Traceless) (tactful : handler.Spares MemoryBroker.register)
    (s : Shared MemoryBroker) (source : String) (now : Instant) (cancelled : Bool)
    (progress : Consuming MemoryHandle Nat MemoryCall η) :
    s.Silent (progress.step a s source handler now cancelled).shared := by
  have left (s : Shared MemoryBroker) (subscription : Nat) : s.Silent (s.update (a.transport.leave subscription)) :=
    .update (traceless.leave subscription _)
  cases progress with
  | opening execution =>
      have subscribed := Shared.Silent.execution (.subscribeOperation (traceless.subscribe source)) a.pool.connect
        now cancelled a.connectBreaker s execution
      simp only [step]
      split
      · exact subscribed.trans (.report _ (event_plain _ source .info [] (by simp)))
      · exact subscribed
      · exact subscribed
      · exact subscribed
      · exact subscribed
  | receiving subscription summary call =>
      have received := Shared.Silent.of_trace ((traceless.next subscription).step now s.surroundings call)
      simp only [step]
      split
      · have given := Shared.Silent.of_trace ((traceless.next subscription).abandon s.surroundings call)
        exact given.trans (finish_silent traceless _ source subscription summary (by simp))
      · split
        · exact received
        · exact received.trans (finish_silent traceless _ source subscription summary (by simp))
        · exact received.trans (left _ subscription)
        · exact received
        · exact received
        · exact received
  | handling subscription summary delivery call =>
      have handled : s.Silent (s.update fun _ => ((handler delivery).step now s.surroundings.outside call).2) :=
        .update ((tactful delivery).step now s.surroundings.outside call)
      simp only [step]
      split
      · exact handled
      · exact handled.trans (.report _ (event_plain a source .warn _ (by simp)))
      · exact handled
      · exact handled
      · exact handled
  | settling subscription summary accepted call =>
      have settled := Shared.Silent.of_trace
        ((settlement_trace traceless subscription accepted).step now s.surroundings call)
      simp only [step]
      split
      · exact settled
      · exact settled.trans (left _ subscription)
      · exact settled
      · exact settled
      · exact settled

theorem abandon_silent (traceless : a.transport.Traceless) (tactful : handler.Spares MemoryBroker.register)
    (s : Shared MemoryBroker) (source : String) (progress : Consuming MemoryHandle Nat MemoryCall η) :
    s.Silent (progress.abandon a s source handler).2 := by
  have left (s : Shared MemoryBroker) (subscription : Nat) : s.Silent (s.update (a.transport.leave subscription)) :=
    .update (traceless.leave subscription _)
  cases progress with
  | opening execution =>
      exact .of_trace ((Operation.Keeps.subscribeOperation (traceless.subscribe source)).execution_abandon
        a.connectBreaker s.surroundings execution)
  | receiving subscription summary call =>
      exact (Shared.Silent.of_trace ((traceless.next subscription).abandon s.surroundings call)).trans
        (left _ subscription)
  | handling subscription summary delivery call =>
      exact (Shared.Silent.update ((tactful delivery).abandon s.surroundings.outside call)).trans
        (left _ subscription)
  | settling subscription summary accepted call =>
      exact (Shared.Silent.of_trace
        ((settlement_trace traceless subscription accepted).abandon s.surroundings call)).trans (left _ subscription)

theorem step_dealing {settings : BackendSettings} (wired : a.OnMemory settings)
    (tactful : handler.Spares MemoryBroker.register) (s : Shared MemoryBroker) (source : String) (now : Instant)
    (cancelled : Bool) (progress : Consuming MemoryHandle Nat MemoryCall η) :
    let next := progress.step a s source handler now cancelled
    a.Dealing s 0 next.adapter next.shared 0 := by
  obtain ⟨connectBreaker, adapter⟩ := progress.step_adapter a s source handler now cancelled
  have silent := progress.step_silent wired.traceless tactful s source now cancelled
  dsimp only
  rw [adapter]
  exact .still 0 rfl rfl rfl silent

theorem abandon_dealing {settings : BackendSettings} (wired : a.OnMemory settings)
    (tactful : handler.Spares MemoryBroker.register) (s : Shared MemoryBroker) (source : String)
    (progress : Consuming MemoryHandle Nat MemoryCall η) :
    a.Dealing s 0 (progress.abandon a s source handler).1 (progress.abandon a s source handler).2 0 := by
  have silent := progress.abandon_silent wired.traceless tactful s source
  cases progress <;> exact .still 0 rfl rfl rfl silent

end Consuming

/-! ## Parts -/

namespace Part

variable {η : Type} {a next : MemoryAdapter} {settings : BackendSettings} {s later : Shared MemoryBroker}
  {now : Instant} {part : MemoryPart η} {prompt : Prompt} {fate : Part.Fate MemoryBroker MemoryHandle Nat MemoryCall η}

def awaiting {ε ρ σ κ : Type} : Part ε ρ σ κ η → Multiset ρ
  | .publishing _ progress => progress.awaiting
  | .checking progress => progress.awaiting
  | .consuming _ _ _ => 0

def Tactful : MemoryPart η → Prop
  | .consuming _ handler _ => handler.Spares MemoryBroker.register
  | _ => True

theorem step_dealing (wired : a.OnMemory settings) (kind : a.pool.connect.kind = .connect) (s : Shared MemoryBroker)
    (now : Instant) (cancelled : Bool) (tactful : part.Tactful) :
    let next := part.step a s now cancelled
    a.Dealing s part.held next.adapter next.shared (next.turn.held Part.held (fun _ => 0) part) := by
  cases part with
  | publishing message progress =>
      obtain ⟨dealing, -⟩ := progress.step_dealing wired kind s message now cancelled
      simp only [step]
      generalize progress.step a s message now cancelled = outcome at dealing ⊢
      obtain ⟨turn, next, later⟩ := outcome
      cases turn <;> exact dealing
  | checking progress =>
      obtain ⟨dealing, -⟩ := progress.step_dealing wired kind s now cancelled
      simp only [step]
      generalize progress.step a s now cancelled = outcome at dealing ⊢
      obtain ⟨turn, next, later⟩ := outcome
      cases turn <;> exact dealing
  | consuming source handler progress =>
      have dealing := progress.step_dealing wired tactful s source now cancelled
      simp only [step]
      generalize progress.step a s source handler now cancelled = outcome at dealing ⊢
      obtain ⟨turn, next, later⟩ := outcome
      cases turn <;> exact dealing

theorem awaiting_moves (wired : a.OnMemory settings) (kind : a.pool.connect.kind = .connect) (s : Shared MemoryBroker)
    (now : Instant) (cancelled : Bool) (part : MemoryPart η) :
    part.awaiting = 0 ∨ ∃ after, (part.step a s now cancelled).turn = .moved after := by
  cases part with
  | publishing message progress =>
      refine (progress.step_dealing wired kind s message now cancelled).2.imp id ?_
      rintro ⟨after, turn⟩
      refine ⟨.publishing message after, ?_⟩
      simp only [step, turn, Turn.lift]
  | checking progress =>
      refine (progress.step_dealing wired kind s now cancelled).2.imp id ?_
      rintro ⟨after, turn⟩
      refine ⟨.checking after, ?_⟩
      simp only [step, turn, Turn.lift]
  | consuming => exact .inl rfl

theorem abandon_dealing (wired : a.OnMemory settings) (s : Shared MemoryBroker) (now : Instant)
    (tactful : part.Tactful) (none : part.awaiting = 0) :
    a.Dealing s part.held (part.abandon a s now).1 (part.abandon a s now).2 0 := by
  cases part with
  | publishing message progress => exact progress.abandon_dealing wired s now none
  | checking progress => exact progress.abandon_dealing wired s now none
  | consuming source handler progress => exact progress.abandon_dealing wired tactful s source

theorem Deed.dealing (deed : part.Deed now a s prompt fate next later) (wired : a.OnMemory settings)
    (kind : a.pool.connect.kind = .connect) (tactful : part.Tactful)
    (unasked : prompt = .giveUp → part.awaiting = 0) : a.Dealing s part.held next later fate.held := by
  cases deed with
  | @moved cancelled after turn | @waited cancelled wake turn | @finished cancelled reply turn =>
      have dealing := step_dealing wired kind s now cancelled tactful
      dsimp only at dealing
      rw [turn] at dealing
      exact dealing
  | @broke cancelled next later turn left =>
      have dealing := step_dealing wired kind s now cancelled tactful
      have none := (part.awaiting_moves wired kind s now cancelled).resolve_right fun ⟨after, onward⟩ => by
        rw [turn] at onward
        cases onward
      have again : (part.step a s now cancelled).adapter.OnMemory settings :=
        (part.step_wiring a s now cancelled).2.trans wired
      have gone := abandon_dealing again (part.step a s now cancelled).shared now tactful none
      dsimp only at dealing
      rw [turn] at dealing
      rw [left] at gone
      exact dealing.trans gone
  | gaveUp left =>
      have gone := abandon_dealing wired s now tactful (unasked rfl)
      rw [left] at gone
      exact gone

theorem Deed.tactful {after : MemoryPart η} (deed : part.Deed now a s prompt (.goesOn after) next later)
    (tactful : part.Tactful) : after.Tactful := by
  cases deed with
  | waited => exact tactful
  | @moved cancelled after turn =>
      cases part with
      | publishing message progress =>
          obtain ⟨later, -, rfl⟩ := Turn.of_lift_moved turn
          trivial
      | checking progress =>
          obtain ⟨later, -, rfl⟩ := Turn.of_lift_moved turn
          trivial
      | consuming source handler progress =>
          obtain ⟨later, -, rfl⟩ := Turn.of_lift_moved turn
          exact tactful

end Part

end Dispatch
