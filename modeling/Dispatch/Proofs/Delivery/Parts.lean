import Dispatch.Proofs.Delivery.Handles

set_option autoImplicit false

namespace Dispatch

section Frames

variable {ε ρ σ κ β : Type} {a : Adapter ε ρ σ κ}

def Adapter.stock (a : Adapter ε ρ σ κ) : Multiset ρ := a.pool.stock

theorem Adapter.release_stock (a : Adapter ε ρ σ κ) (s : Shared ε) (now : Instant) (lease : Lease ρ) :
    (a.release s now lease).1.stock ≤ a.stock + Lease.held lease :=
  a.pool.takeBack_stock (a.isUsable s) false now lease

theorem Adapter.Tended.stock {s later : Shared ε} {next : Adapter ε ρ σ κ} (tended : a.Tended s next later) :
    next.stock ≤ a.stock := by
  cases tended with
  | closeIdle | shutdown => exact Multiset.zero_le _
  | reset => exact le_refl _

namespace Publishing

theorem conclusion_frame (s : Shared ε) (now : Instant) (destination : Destination) (span : Nat) (lease : Lease ρ)
    (result : Except BrokerError Receipt) :
    let next := conclusion a s now destination span lease result
    next.turn = .finished result ∧ next.adapter.stock ≤ a.stock + Lease.held lease ∧
      ∀ {β : Type} {view : ε → β}, a.transport.Spares view → next.shared.reading view = s.reading view := by
  obtain ⟨turn, adapter, -⟩ := conclude_frame (a.release s now lease).1 (a.release s now lease).2 destination span
    result
  refine ⟨turn, ?_, fun spares => ?_⟩
  · have stock := a.release_stock s now lease
    rwa [← adapter] at stock
  · exact spares.conclusion s now destination span lease result

end Publishing

end Frames

/-! ## Adapters of a memory broker -/

abbrev MemoryAdapter := Adapter MemoryBroker MemoryHandle Nat MemoryCall

def Adapter.OnMemory (a : MemoryAdapter) (settings : BackendSettings) : Prop :=
  a.transport = .ofSettings MemoryBroker.connector settings

def Frame.ofSend (settings : BackendSettings) (lease : Lease MemoryHandle) (e : Envelope) : Frame :=
  .ofWire lease.resource.backend lease.resource.number (Transport.wireOf settings e)

namespace Adapter.OnMemory

variable {a : MemoryAdapter} {settings : BackendSettings}

theorem backend (wired : a.OnMemory settings) : settings.backend = a.backend :=
  (congrArg Transport.kind wired).symm

theorem spares (wired : a.OnMemory settings) : a.transport.Spares MemoryBroker.desk := by
  rw [wired]
  exact MemoryBroker.spares_desk settings

theorem spares_air (wired : a.OnMemory settings) : a.transport.Spares MemoryBroker.air := wired.spares.comp Prod.fst

theorem spares_connects (wired : a.OnMemory settings) : a.transport.Spares MemoryBroker.connects :=
  wired.spares.comp Prod.snd

theorem create_opens (wired : a.OnMemory settings) :
    a.supply.create.Opens a.backend (·.outside.connects) TransportCall.held (TransportCall.Asks a.backend) := by
  have opens := MemoryBroker.connectVia_opens settings
  rw [wired.backend] at opens
  have same : a.transport.connect = Transport.connectVia MemoryBroker.connector settings := by rw [wired]; rfl
  rw [← same] at opens
  refine ⟨opens.start, fun now s call asks => ?_, fun now s call next asks moved => ?_, opens.abandon⟩
  · have supplies := opens.step now s call asks
    obtain ⟨turn, outside⟩ := a.supply_step now s call
    rw [turn, outside]
    cases stepped : (a.transport.connect.step now s call).1 with
    | finished result =>
        rw [stepped] at supplies
        cases result <;> exact supplies
    | moved | blocked | overflowed =>
        rw [stepped] at supplies
        exact supplies
  · rw [(a.supply_step now s call).1] at moved
    cases stepped : (a.transport.connect.step now s call).1 with
    | moved after =>
        rw [stepped] at moved
        cases moved
        exact opens.asks now s call after asks stepped
    | finished | blocked | overflowed =>
        rw [stepped] at moved
        cases moved

theorem create_air (wired : a.OnMemory settings) : a.supply.create.Keeps (·.outside.air) := by
  have keeps : (Transport.connectVia MemoryBroker.connector settings).Keeps (·.outside.air) :=
    .connectVia MemoryBroker.openHandle_air MemoryBroker.confirmSelect_air
      (fun handle b => congrArg Prod.fst (b.close_desk handle))
      (fun handle b => congrArg Prod.fst (b.close_desk handle)) settings
  have same : a.transport.connect = Transport.connectVia MemoryBroker.connector settings := by rw [wired]; rfl
  rw [← same] at keeps
  exact ⟨fun now s call => (congrArg MemoryBroker.air (a.supply_step now s call).2).trans (keeps.step now s call),
    keeps.abandon⟩

theorem sends (wired : a.OnMemory settings) (lease : Lease MemoryHandle) (e : Envelope) :
    (Publishing.sendOperation a lease e).Flies (·.outside.air) (TransportCall.flies MemoryCall.flies)
      lease.resource.number (.ofSend settings lease e) := by
  refine Operation.Flies.sendOperation ?_
  rw [wired]
  exact Operation.Flies.sendVia (MemoryBroker.send_flies lease.resource _)

theorem send_connects (wired : a.OnMemory settings) (lease : Lease MemoryHandle) (e : Envelope) :
    (Publishing.sendOperation a lease e).Keeps (·.outside.connects) := by
  refine Operation.Keeps.sendOperation ?_
  rw [wired]
  exact Operation.Keeps.sendVia (MemoryBroker.send_connects lease.resource _)

end Adapter.OnMemory

/-! ## Handles -/

section Held

variable {ε ρ σ κ η : Type}

def Publishing.held : Publishing ρ κ → Multiset ρ
  | .leasing _ acquisition => acquisition.held TransportCall.held
  | .preparing _ lease | .sending _ lease _ _ => Lease.held lease
  | .fresh | .limiting _ => 0

def Checking.held : Checking ρ κ → Multiset ρ
  | .leasing acquisition => acquisition.held TransportCall.held
  | .pinging lease => Lease.held lease

def Part.held : Part ε ρ σ κ η → Multiset ρ
  | .publishing _ progress => progress.held
  | .checking progress => progress.held
  | .consuming _ _ _ => 0

theorem Part.held_fresh {part : Part ε ρ σ κ η} (fresh : part.isFresh) : part.held = 0 := by
  rcases fresh_cases fresh with ⟨message, rfl⟩ | rfl | ⟨source, handler, rfl⟩ <;> rfl

def Part.Fate.held : Part.Fate ε ρ σ κ η → Multiset ρ
  | .goesOn part => part.held
  | .settled _ => 0

theorem Part.Fate.share_held (fate : Part.Fate ε ρ σ κ η) (place : Nat) :
    fate.share (fun _ part => part.held) place = fate.held := by
  cases fate <;> rfl

def Publishing.Asks (backend : Backend) : Publishing ρ κ → Prop
  | .leasing _ acquisition => acquisition.Asks (TransportCall.Asks backend)
  | _ => True

def Checking.Asks (backend : Backend) : Checking ρ κ → Prop
  | .leasing acquisition => acquisition.Asks (TransportCall.Asks backend)
  | .pinging _ => True

def Part.Asks (backend : Backend) : Part ε ρ σ κ η → Prop
  | .publishing _ progress => progress.Asks backend
  | .checking progress => progress.Asks backend
  | .consuming _ _ _ => True

end Held

abbrev Shared.connects (s : Shared MemoryBroker) : Nat := s.reading MemoryBroker.connects

namespace Adapter.OnMemory

variable {a : MemoryAdapter} {settings : BackendSettings}

theorem stepLease_supplies (wired : a.OnMemory settings) (s : Shared MemoryBroker) (now : Instant)
    (cancelled : Bool) {leasing : Adapter.Leasing MemoryHandle MemoryCall}
    (asks : leasing.Asks (TransportCall.Asks a.backend)) :
    let next := a.stepLease s now cancelled leasing
    Supplies a.backend s.connects (a.stock + leasing.held TransportCall.held)
        (next.2.1.stock + next.1.held (Acquisition.held TransportCall.held) (Except.held Lease.held) leasing)
        next.2.2.connects ∧
      ∀ after, next.1 = .moved after → after.Asks (TransportCall.Asks a.backend) := by
  obtain ⟨supplies, onward⟩ := Acquisition.step_supplies wired.create_opens now cancelled a.pool a.connectBreaker
    s.surroundings asks
  refine ⟨?_, onward⟩
  have kept := wired.spares_connects.absorb
    { s with surroundings := (leasing.step a.supply now cancelled a.pool a.connectBreaker s.surroundings).environment }
    (leasing.step a.supply now cancelled a.pool a.connectBreaker s.surroundings).events
  dsimp only [Shared.connects, Adapter.stepLease]
  rw [kept]
  exact supplies

theorem abandonLease_connects (wired : a.OnMemory settings) (s : Shared MemoryBroker)
    (leasing : Adapter.Leasing MemoryHandle MemoryCall) :
    (a.abandonLease s leasing).1.stock = a.stock ∧ (a.abandonLease s leasing).2.connects = s.connects := by
  refine ⟨Acquisition.abandon_stock a.pool a.connectBreaker s.surroundings leasing, ?_⟩
  cases leasing with
  | connecting execution => exact wired.create_opens.execution_abandon a.connectBreaker s.surroundings execution
  | arriving | queued | seated => rfl

end Adapter.OnMemory

namespace Publishing

variable {a : MemoryAdapter} {settings : BackendSettings}

theorem step_supplies (wired : a.OnMemory settings) (s : Shared MemoryBroker) (message : Outgoing) (now : Instant)
    (cancelled : Bool) {progress : Publishing MemoryHandle MemoryCall} (asks : progress.Asks a.backend) :
    let next := progress.step a s message now cancelled
    Supplies a.backend s.connects (a.stock + progress.held)
        (next.adapter.stock + next.turn.held Publishing.held (fun _ => 0) progress) next.shared.connects ∧
      ∀ after, next.turn = .moved after → after.Asks a.backend := by
  have still : Supplies a.backend s.connects (a.stock + 0) (a.stock + 0) s.connects := .kept (le_refl _)
  have concluded {span : Nat} {lease : Lease MemoryHandle} (before : Publishing MemoryHandle MemoryCall)
      (b : MemoryAdapter) (later : Shared MemoryBroker) (result : Except BrokerError Receipt)
      (transport : b.transport = a.transport) (stock : b.stock = a.stock) (connects : later.connects = s.connects) :
      let next := conclusion b later now message.destination span lease result
      Supplies a.backend s.connects (a.stock + Lease.held lease)
          (next.adapter.stock + next.turn.held Publishing.held (fun _ => 0) before) next.shared.connects ∧
        ∀ after, next.turn = .moved after → after.Asks a.backend := by
    obtain ⟨turn, fewer, reading⟩ := conclusion_frame (a := b) later now message.destination span lease result
    have same := (reading (transport ▸ wired.spares_connects)).trans connects
    dsimp only [Shared.connects] at same ⊢
    rw [turn, same, Turn.held, add_zero]
    exact ⟨.kept (stock ▸ fewer), fun after moved => by cases moved⟩
  cases progress with
  | fresh =>
      simp only [step]
      cases a.bucket.isSome with
      | true => exact ⟨still, fun after moved => by cases moved; trivial⟩
      | false => exact ⟨still, fun after moved => by cases moved; trivial⟩
  | limiting span =>
      simp only [step]
      split
      · exact ⟨still, fun after moved => by cases moved; trivial⟩
      · split
        · exact ⟨still, fun after moved => by cases moved⟩
        · exact ⟨still, fun after moved => by cases moved⟩
        · exact ⟨still, fun after moved => by cases moved; trivial⟩
  | leasing span acquisition =>
      obtain ⟨supplies, onward⟩ := wired.stepLease_supplies s now cancelled asks
      have wiring : (a.stepLease s now cancelled acquisition).2.1.transport = a.transport := rfl
      simp only [step]
      generalize a.stepLease s now cancelled acquisition = outcome at supplies onward wiring ⊢
      obtain ⟨turn, next, later⟩ := outcome
      cases turn with
      | finished result =>
          cases result with
          | ok lease => exact ⟨supplies, fun after moved => by cases moved; trivial⟩
          | error failure =>
              refine ⟨?_, fun after moved => by cases moved⟩
              exact supplies
      | moved acquisition =>
          refine ⟨supplies, ?_⟩
          intro after moved
          cases moved
          exact onward acquisition rfl
      | blocked | overflowed => exact ⟨supplies, fun after moved => by cases moved⟩
  | preparing span lease =>
      simp only [step]
      split
      · exact concluded _ a s _ rfl rfl rfl
      · exact ⟨.kept (le_refl _), fun after moved => by cases moved; trivial⟩
  | sending span lease envelope execution =>
      have kept := (wired.send_connects lease envelope).execution_step a.publish now cancelled a.publishBreaker
        s.surroundings execution
      simp only [step]
      generalize execution.step a.publish (sendOperation a lease envelope) now cancelled a.publishBreaker
        s.surroundings = next at kept ⊢
      have held : Supplies a.backend s.connects (a.stock + Lease.held lease) (a.stock + Lease.held lease)
          next.environment.outside.connects := by
        rw [kept]
        exact .kept (le_refl _)
      split
      · exact concluded _ _ _ _ rfl rfl kept
      · exact concluded _ _ _ _ rfl rfl kept
      · exact ⟨held, fun after moved => by cases moved; trivial⟩
      · exact ⟨held, fun after moved => by cases moved⟩
      · exact ⟨held, fun after moved => by cases moved⟩

theorem abandon_connects (wired : a.OnMemory settings) (s : Shared MemoryBroker) (now : Instant)
    (progress : Publishing MemoryHandle MemoryCall) :
    (progress.abandon a s now).1.stock ≤ a.stock + progress.held ∧
      (progress.abandon a s now).2.connects = s.connects := by
  cases progress with
  | fresh | limiting => exact ⟨Multiset.le_add_right _ _, rfl⟩
  | leasing span acquisition =>
      obtain ⟨stock, connects⟩ := wired.abandonLease_connects s acquisition
      exact ⟨(le_of_eq stock).trans (Multiset.le_add_right _ _), connects⟩
  | preparing span lease => exact ⟨a.release_stock s now lease, wired.spares_connects.release s now lease⟩
  | sending span lease envelope execution =>
      have kept := (wired.send_connects lease envelope).execution_abandon a.publishBreaker s.surroundings execution
      simp only [abandon]
      generalize execution.abandon (sendOperation a lease envelope) a.publishBreaker s.surroundings = next at kept ⊢
      obtain ⟨publishBreaker, surroundings⟩ := next
      refine ⟨Adapter.release_stock _ _ now lease, ?_⟩
      refine Eq.trans ?_ kept
      exact Transport.Spares.release (a := { a with publishBreaker }) wired.spares_connects
        { s with surroundings } now lease

end Publishing

namespace Checking

variable {a : MemoryAdapter} {settings : BackendSettings}

theorem step_supplies (wired : a.OnMemory settings) (s : Shared MemoryBroker) (now : Instant)
    (cancelled : Bool) {progress : Checking MemoryHandle MemoryCall} (asks : progress.Asks a.backend) :
    let next := progress.step a s now cancelled
    Supplies a.backend s.connects (a.stock + progress.held)
        (next.adapter.stock + next.turn.held Checking.held (fun _ => 0) progress) next.shared.connects ∧
      ∀ after, next.turn = .moved after → after.Asks a.backend := by
  cases progress with
  | leasing acquisition =>
      obtain ⟨supplies, onward⟩ := wired.stepLease_supplies s now cancelled asks
      simp only [step]
      generalize a.stepLease s now cancelled acquisition = outcome at supplies onward ⊢
      obtain ⟨turn, next, later⟩ := outcome
      cases turn with
      | finished result =>
          cases result with
          | ok lease => exact ⟨supplies, fun after moved => by cases moved; trivial⟩
          | error failure => exact ⟨supplies, fun after moved => by cases moved⟩
      | moved acquisition =>
          refine ⟨supplies, ?_⟩
          intro after moved
          cases moved
          exact onward acquisition rfl
      | blocked | overflowed => exact ⟨supplies, fun after moved => by cases moved⟩
  | pinging lease =>
      have same : (a.release s now lease).2.connects = s.connects := wired.spares_connects.release s now lease
      simp only [step]
      refine ⟨?_, fun after moved => by cases moved⟩
      rw [same, Turn.held, add_zero]
      exact .kept (a.release_stock s now lease)

theorem abandon_connects (wired : a.OnMemory settings) (s : Shared MemoryBroker) (now : Instant)
    (progress : Checking MemoryHandle MemoryCall) :
    (progress.abandon a s now).1.stock ≤ a.stock + progress.held ∧
      (progress.abandon a s now).2.connects = s.connects := by
  cases progress with
  | leasing acquisition =>
      obtain ⟨stock, connects⟩ := wired.abandonLease_connects s acquisition
      exact ⟨(le_of_eq stock).trans (Multiset.le_add_right _ _), connects⟩
  | pinging lease => exact ⟨a.release_stock s now lease, wired.spares_connects.release s now lease⟩

end Checking

namespace Consuming

variable {ε ρ σ κ η : Type}

theorem step_adapter (a : Adapter ε ρ σ κ) (s : Shared ε) (source : String) (handler : Handler ε η) (now : Instant)
    (cancelled : Bool) (progress : Consuming ρ σ κ η) :
    ∃ connectBreaker, (progress.step a s source handler now cancelled).adapter = { a with connectBreaker } := by
  cases progress with
  | opening execution =>
      simp only [step]
      split <;> exact ⟨_, rfl⟩
  | receiving subscription summary call =>
      refine ⟨a.connectBreaker, ?_⟩
      simp only [step]
      split
      · rfl
      · split <;> rfl
  | handling subscription summary delivery call =>
      refine ⟨a.connectBreaker, ?_⟩
      simp only [step]
      split <;> rfl
  | settling subscription summary accepted call =>
      refine ⟨a.connectBreaker, ?_⟩
      simp only [step]
      split <;> rfl

theorem step_pool (a : Adapter ε ρ σ κ) (s : Shared ε) (source : String) (handler : Handler ε η) (now : Instant)
    (cancelled : Bool) (progress : Consuming ρ σ κ η) :
    (progress.step a s source handler now cancelled).adapter.pool = a.pool := by
  obtain ⟨connectBreaker, same⟩ := progress.step_adapter a s source handler now cancelled
  rw [same]

theorem abandon_pool (a : Adapter ε ρ σ κ) (s : Shared ε) (source : String) (handler : Handler ε η)
    (progress : Consuming ρ σ κ η) : (progress.abandon a s source handler).1.pool = a.pool := by
  cases progress <;> rfl

end Consuming

abbrev MemoryPart (η : Type) := Part MemoryBroker MemoryHandle Nat MemoryCall η

def Part.Quiet {η : Type} : MemoryPart η → Prop
  | .consuming _ handler _ => handler.Spares MemoryBroker.desk
  | _ => True

namespace Part

variable {η : Type} {a next : MemoryAdapter} {settings : BackendSettings} {s later : Shared MemoryBroker}
  {now : Instant} {part : MemoryPart η} {prompt : Prompt} {fate : Part.Fate MemoryBroker MemoryHandle Nat MemoryCall η}

theorem step_supplies (wired : a.OnMemory settings) (s : Shared MemoryBroker) (now : Instant) (cancelled : Bool)
    (quiet : part.Quiet) (asks : part.Asks a.backend) :
    let next := part.step a s now cancelled
    Supplies a.backend s.connects (a.stock + part.held)
        (next.adapter.stock + next.turn.held Part.held (fun _ => 0) part) next.shared.connects ∧
      ∀ after, next.turn = .moved after → after.Asks a.backend ∧ after.Quiet := by
  cases part with
  | publishing message progress =>
      obtain ⟨supplies, onward⟩ := progress.step_supplies wired s message now cancelled asks
      simp only [step]
      generalize progress.step a s message now cancelled = outcome at supplies onward ⊢
      obtain ⟨turn, next, later⟩ := outcome
      cases turn with
      | moved after =>
          refine ⟨supplies, ?_⟩
          intro after moved
          cases moved
          exact ⟨onward _ rfl, trivial⟩
      | finished | blocked | overflowed => exact ⟨supplies, fun after moved => by cases moved⟩
  | checking progress =>
      obtain ⟨supplies, onward⟩ := progress.step_supplies wired s now cancelled asks
      simp only [step]
      generalize progress.step a s now cancelled = outcome at supplies onward ⊢
      obtain ⟨turn, next, later⟩ := outcome
      cases turn with
      | moved after =>
          refine ⟨supplies, ?_⟩
          intro after moved
          cases moved
          exact ⟨onward _ rfl, trivial⟩
      | finished | blocked | overflowed => exact ⟨supplies, fun after moved => by cases moved⟩
  | consuming source handler progress =>
      have connects : handler.Spares MemoryBroker.connects := fun delivery => (quiet delivery).comp Prod.snd
      have kept := wired.spares_connects.consume connects s source now cancelled progress
      have stock : (progress.step a s source handler now cancelled).adapter.stock = a.stock :=
        congrArg Pool.stock (progress.step_pool a s source handler now cancelled)
      simp only [step, Shared.connects, kept, stock]
      cases (progress.step a s source handler now cancelled).turn with
      | moved after =>
          refine ⟨.kept (le_refl _), ?_⟩
          intro after moved
          cases moved
          exact ⟨trivial, quiet⟩
      | finished | blocked | overflowed => exact ⟨.kept (le_refl _), fun after moved => by cases moved⟩

theorem abandon_connects (wired : a.OnMemory settings) (s : Shared MemoryBroker) (now : Instant)
    (quiet : part.Quiet) :
    (part.abandon a s now).1.stock ≤ a.stock + part.held ∧ (part.abandon a s now).2.connects = s.connects := by
  cases part with
  | publishing message progress => exact progress.abandon_connects wired s now
  | checking progress => exact progress.abandon_connects wired s now
  | consuming source handler progress =>
      have connects : handler.Spares MemoryBroker.connects := fun delivery => (quiet delivery).comp Prod.snd
      refine ⟨?_, wired.spares_connects.stopConsuming connects s source progress⟩
      have stock : (progress.abandon a s source handler).1.stock = a.stock :=
        congrArg Pool.stock (progress.abandon_pool a s source handler)
      exact (le_of_eq stock).trans (Multiset.le_add_right _ _)

theorem Deed.supplies (wired : a.OnMemory settings) (quiet : part.Quiet) (asks : part.Asks a.backend)
    (deed : part.Deed now a s prompt fate next later) :
    Supplies a.backend s.connects (a.stock + part.held) (next.stock + fate.held) later.connects ∧
      ∀ after, fate = .goesOn after → after.Asks a.backend ∧ after.Quiet := by
  cases deed with
  | @moved cancelled after turn =>
      obtain ⟨supplies, onward⟩ := step_supplies wired s now cancelled quiet asks
      rw [turn] at supplies
      refine ⟨supplies, ?_⟩
      intro after same
      cases same
      exact onward _ turn
  | @waited cancelled wake turn =>
      obtain ⟨supplies, -⟩ := step_supplies wired s now cancelled quiet asks
      rw [turn] at supplies
      refine ⟨supplies, ?_⟩
      intro after same
      cases same
      exact ⟨asks, quiet⟩
  | @finished cancelled reply turn =>
      obtain ⟨supplies, -⟩ := step_supplies wired s now cancelled quiet asks
      rw [turn] at supplies
      exact ⟨supplies, fun after same => by cases same⟩
  | @broke cancelled next later turn left =>
      obtain ⟨supplies, -⟩ := step_supplies wired s now cancelled quiet asks
      have again : (part.step a s now cancelled).adapter.OnMemory settings :=
        (part.step_wiring a s now cancelled).2.trans wired
      obtain ⟨fewer, same⟩ := abandon_connects again (part.step a s now cancelled).shared now quiet
      rw [turn] at supplies
      rw [left] at fewer same
      rw [same]
      refine ⟨supplies.fewer ?_, fun after same => by cases same⟩
      rw [Fate.held, add_zero]
      exact fewer
  | gaveUp left =>
      obtain ⟨fewer, same⟩ := abandon_connects wired s now quiet
      rw [left] at fewer same
      rw [same, Fate.held, add_zero]
      exact ⟨.kept fewer, fun after same => by cases same⟩

end Part

end Dispatch
