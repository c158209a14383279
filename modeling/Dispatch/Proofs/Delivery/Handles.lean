import Dispatch.Proofs.Delivery.Sends
import Mathlib.Data.Multiset.AddSub

set_option autoImplicit false

namespace Dispatch

/-- What a step does to the handles of its owners, where `connects` were opened so far. -/
inductive Supplies (backend : Backend) (connects : Nat) (before : Multiset MemoryHandle) :
    Multiset MemoryHandle → Nat → Prop
  | kept {after : Multiset MemoryHandle} (fewer : after ≤ before) : Supplies backend connects before after connects
  | opened {after : Multiset MemoryHandle} {handle : MemoryHandle} (number : handle.number = connects + 1)
      (kind : handle.backend = backend) (fewer : after ≤ handle ::ₘ before) :
      Supplies backend connects before after (connects + 1)

namespace Supplies

variable {backend : Backend} {connects later : Nat} {before after last : Multiset MemoryHandle}

theorem fewer (supplies : Supplies backend connects before after later) (fewer : last ≤ after) :
    Supplies backend connects before last later := by
  cases supplies with
  | kept less => exact .kept (fewer.trans less)
  | opened number kind less => exact .opened number kind (fewer.trans less)

theorem stay (supplies : Supplies backend connects before after later) :
    Supplies backend connects before before later := by
  cases supplies with
  | kept => exact .kept (le_refl _)
  | opened number kind => exact .opened number kind (Multiset.le_cons_self _ _)

theorem frame (supplies : Supplies backend connects before after later) (others : Multiset MemoryHandle) :
    Supplies backend connects (others + before) (others + after) later := by
  cases supplies with
  | kept less => exact .kept (add_le_add_right less others)
  | opened number kind less =>
      refine .opened number kind ((add_le_add_right less others).trans ?_)
      rw [Multiset.add_cons]

end Supplies

def Turn.held {κ α ρ : Type} (own : κ → Multiset ρ) (given : α → Multiset ρ) (call : κ) :
    Turn κ α → Multiset ρ
  | .finished result => given result
  | .moved next => own next
  | .blocked _ | .overflowed => own call

def Except.held {φ α ρ : Type} (given : α → Multiset ρ) : Except φ α → Multiset ρ
  | .ok value => given value
  | .error _ => 0

structure Operation.Opens {ε κ φ : Type} (op : Operation ε κ (Except φ MemoryHandle)) (backend : Backend)
    (connects : ε → Nat) (held : κ → Multiset MemoryHandle) (asks : κ → Prop) : Prop where
  start : held op.start = 0 ∧ asks op.start
  step : ∀ now environment call, asks call →
    Supplies backend (connects environment) (held call)
      ((op.step now environment call).1.held held (Except.held fun handle => {handle}) call)
      (connects (op.step now environment call).2)
  asks : ∀ now environment call next, asks call → (op.step now environment call).1 = .moved next → asks next
  abandon : ∀ environment call, connects (op.abandon environment call) = connects environment

def TransportCall.held {ρ κ : Type} : TransportCall ρ κ → Multiset ρ
  | .confirming handle _ => {handle}
  | _ => 0

def TransportCall.Asks {ρ κ : Type} (backend : Backend) : TransportCall ρ κ → Prop
  | .opening request _ => request.backend = backend
  | _ => True

theorem Transport.openingOf_backend {ε : Type} (settings : BackendSettings) (s : Surroundings ε) :
    (openingOf settings s).1.backend = settings.backend := by
  cases settings <;> rfl

theorem Transport.connectVia_opening {ε ρ σ κ : Type} (c : Connector ε ρ σ κ) (settings : BackendSettings)
    (now : Instant) (s : Surroundings ε) (request : Opening) (call : κ) :
    (connectVia c settings).step now s (.opening request call) =
      (((c.openHandle request).stepPart now s call).1.lift (.opening request) fun
        | .error error => .finished (.error error)
        | .ok handle =>
          if confirms settings then .moved (.confirming handle (c.confirmSelect handle).start)
          else .finished (.ok handle), ((c.openHandle request).stepPart now s call).2) := rfl

namespace MemoryBroker

theorem attempt_connects (request : Opening) (now : Instant) (b : MemoryBroker) (call : MemoryCall) :
    let next := (attempt (admitHandle request)).step now b call
    (∃ handle : MemoryHandle, next.1 = .finished (.ok handle) ∧ handle.number = b.connects + 1 ∧
        handle.backend = request.backend ∧ next.2.connects = b.connects + 1) ∨
      (∀ handle, next.1 ≠ .finished (.ok handle)) ∧ next.2.connects = b.connects := by
  unfold attempt
  cases call with
  | connecting until_ =>
      dsimp only
      split
      · exact .inr ⟨by simp, rfl⟩
      · split
        · exact .inr ⟨by simp, rfl⟩
        · exact .inl ⟨_, rfl, rfl, rfl, rfl⟩
  | fresh | sending | hanging => exact .inr ⟨by simp, rfl⟩

theorem connectVia_opens (settings : BackendSettings) :
    (Transport.connectVia connector settings).Opens settings.backend (connects ·.outside) TransportCall.held
      (TransportCall.Asks settings.backend) where
  start := ⟨rfl, trivial⟩
  step now s call asks := by
    cases call with
    | fresh => cases settings <;> exact .kept (le_refl _)
    | opening request call =>
        change request.backend = settings.backend at asks
        have attempted := attempt_connects request now s.outside call
        dsimp only at attempted
        rw [Transport.connectVia_opening]
        change Supplies _ _ 0
          (Turn.held _ _ _ (((attempt (admitHandle request)).step now s.outside call).1.lift _ _))
          ((attempt (admitHandle request)).step now s.outside call).2.connects
        generalize (attempt (admitHandle request)).step now s.outside call = outcome at attempted ⊢
        obtain ⟨turn, b⟩ := outcome
        rcases attempted with ⟨handle, rfl, number, kind, more⟩ | ⟨unopened, same⟩
        · rw [more]
          refine .opened number (kind.trans asks) ?_
          simp only [Turn.lift]
          split <;> exact le_refl _
        · rw [same]
          refine .kept ?_
          cases turn with
          | finished result =>
              cases result with
              | ok handle => exact absurd rfl (unopened handle)
              | error error => exact le_refl _
          | moved | blocked | overflowed => exact le_refl _
    | confirming handle call => exact .kept (le_refl _)
    | sending | listening | plain => exact .kept (le_refl _)
  asks now s call next asks moved := by
    cases call with
    | fresh =>
        cases moved
        exact Transport.openingOf_backend settings s
    | opening request call =>
        rw [Transport.connectVia_opening] at moved
        generalize (connector.openHandle request).stepPart now s call = outcome at moved
        obtain ⟨turn, later⟩ := outcome
        cases turn with
        | finished result =>
            cases result with
            | ok handle =>
                simp only [Turn.lift] at moved
                split at moved
                · cases moved
                  trivial
                · cases moved
            | error error => cases moved
        | moved call =>
            cases moved
            exact asks
        | blocked | overflowed => cases moved
    | confirming | sending | listening | plain => cases moved
  abandon s call := by
    cases call with
    | confirming handle call => exact congrArg Prod.snd (close_desk handle s.outside)
    | fresh | opening | sending | listening | plain => rfl

end MemoryBroker

/-! ## Opening a handle under a pipeline -/

section Composition

variable {ε σ κ : Type} {backend : Backend} {connects : ε → Nat} {own : κ → Multiset MemoryHandle}
  {asks : κ → Prop}

def Execution.held {ρ : Type} (own : κ → Multiset ρ) : Execution κ → Multiset ρ
  | .trying _ _ call => own call
  | .ready _ | .resting _ _ => 0

def Execution.Asks (asks : κ → Prop) : Execution κ → Prop
  | .trying _ _ call => asks call
  | .ready _ | .resting _ _ => True

theorem Execution.conclude_failed {ρ : Type} (own : κ → Multiset ρ) (asks : κ → Prop) (p : Pipeline) (now : Instant)
    (attempt : Nat) (failure : Failure) (permit : Permit) (call : κ) :
    let turn := (conclude (α := ρ) p now attempt (.error failure)).1
    turn.held (Execution.held own) (Except.held fun handle => {handle}) (.trying attempt permit call) ≤ own call ∧
      ∀ after, turn = .moved after → after.Asks asks := by
  have concludes := conclude_concludes (κ := κ) (α := ρ) p now attempt (.error failure)
  dsimp only
  generalize (conclude (κ := κ) (α := ρ) p now attempt (.error failure)).1 = turn at concludes
  cases concludes with
  | fatal | exhausted => exact ⟨Multiset.zero_le _, fun after moved => by cases moved⟩
  | again =>
      refine ⟨Multiset.zero_le _, ?_⟩
      intro after moved
      cases moved
      trivial
  | endless => exact ⟨le_refl _, fun after moved => by cases moved⟩

theorem Operation.Opens.execution {op : Operation ε κ (Except Failure MemoryHandle)}
    (opens : op.Opens backend connects own asks) (p : Pipeline) (now : Instant) (cancelled : Bool)
    (breaker : Breaker) (environment : ε) {execution : Execution κ} (known : execution.Asks asks) :
    let next := execution.step p op now cancelled breaker environment
    Supplies backend (connects environment) (execution.held own)
        (next.turn.held (Execution.held own) (Except.held fun handle => {handle}) execution)
        (connects next.environment) ∧
      ∀ after, next.turn = .moved after → after.Asks asks := by
  cases execution with
  | ready made =>
      simp only [Execution.step]
      split
      · exact ⟨.kept (le_refl _), fun after moved => by cases moved⟩
      · split
        · refine ⟨.kept (le_of_eq opens.start.1), ?_⟩
          intro after moved
          cases moved
          exact opens.start.2
        · exact ⟨.kept (le_refl _), fun after moved => by cases moved⟩
  | trying attempt permit call =>
      simp only [Execution.step]
      split
      · obtain ⟨fewer, resting⟩ := Execution.conclude_failed own asks p now attempt .cancelled permit call
        rw [Execution.settled, opens.abandon]
        exact ⟨.kept fewer, resting⟩
      · have supplies := opens.step now environment call known
        have onward := opens.asks now environment call
        generalize op.step now environment call = outcome at supplies onward ⊢
        obtain ⟨turn, later⟩ := outcome
        cases turn with
        | finished result =>
            cases result with
            | ok handle => exact ⟨supplies, fun after moved => by cases moved⟩
            | error failure =>
                obtain ⟨fewer, resting⟩ := Execution.conclude_failed own asks p now attempt failure permit call
                exact ⟨supplies.stay.fewer fewer, resting⟩
        | moved next =>
            refine ⟨supplies, ?_⟩
            intro after moved
            cases moved
            exact onward next known rfl
        | blocked | overflowed => exact ⟨supplies, fun after moved => by cases moved⟩
  | resting attempt resumeAt =>
      simp only [Execution.step, RetryPolicy.rest]
      split
      · exact ⟨.kept (le_refl _), fun after moved => by cases moved⟩
      · split
        · refine ⟨.kept (le_refl _), ?_⟩
          intro after moved
          cases moved
          trivial
        · exact ⟨.kept (le_refl _), fun after moved => by cases moved⟩

theorem Operation.Opens.execution_abandon {op : Operation ε κ (Except Failure MemoryHandle)}
    (opens : op.Opens backend connects own asks) (breaker : Breaker) (environment : ε) (execution : Execution κ) :
    connects (execution.abandon op breaker environment).2 = connects environment := by
  cases execution with
  | trying attempt permit call => exact opens.abandon environment call
  | ready | resting => rfl

end Composition

/-! ## Leases -/

def Pool.stock {ρ : Type} (pool : Pool ρ) : Multiset ρ := (pool.idle.map Pooled.resource : List ρ)

theorem Pool.takeBack_stock {ρ : Type} (pool : Pool ρ) (healthy : ρ → Bool) (discard : Bool) (now : Instant)
    (lease : Lease ρ) :
    (pool.takeBack healthy discard now lease).1.stock ≤ pool.stock + {lease.resource} := by
  cases keeps : pool.keeps (!discard && healthy lease.resource) now lease with
  | true =>
      obtain ⟨next, outcome, rfl⟩ := Pool.takeBack_kept keeps
      rw [outcome, add_comm]
      exact le_refl _
  | false =>
      obtain ⟨next, event, outcome, rfl⟩ := Pool.takeBack_closed keeps
      rw [outcome]
      exact Multiset.le_add_right _ _

section Leasing

variable {ε σ κ : Type} {backend : Backend} {connects : ε → Nat} {own : κ → Multiset MemoryHandle}
  {asks : κ → Prop}

def Acquisition.held {ρ : Type} (own : κ → Multiset ρ) : Acquisition κ → Multiset ρ
  | .connecting execution => execution.held own
  | .arriving | .queued _ _ | .seated => 0

def Acquisition.Asks (asks : κ → Prop) : Acquisition κ → Prop
  | .connecting execution => execution.Asks asks
  | .arriving | .queued _ _ | .seated => True

def Lease.held {ρ : Type} (lease : Lease ρ) : Multiset ρ := {lease.resource}

theorem Acquisition.step_unseated_held {ρ : Type} (supply : Supply ε ρ κ) (now : Instant) (cancelled : Bool)
    (pool : Pool ρ) (breaker : Breaker) (environment : ε) (own : κ → Multiset ρ) (asks : κ → Prop)
    (call : Acquisition κ) (unseated : (call.standing : Standing ρ).hasSlot = false) :
    let next := call.step supply now cancelled pool breaker environment
    call.held own = 0 ∧ next.turn.held (Acquisition.held own) (Except.held Lease.held) call = 0 ∧
      ∀ after, next.turn = .moved after → after.Asks asks := by
  cases call with
  | arriving =>
      refine ⟨rfl, ?_⟩
      simp only [step]
      split
      · exact ⟨rfl, fun after moved => by cases moved⟩
      · split
        · exact ⟨rfl, fun after moved => by cases moved⟩
        · split
          · exact ⟨rfl, fun after moved => by cases moved; trivial⟩
          · split <;> exact ⟨rfl, fun after moved => by cases moved; trivial⟩
  | queued ticket deadline =>
      refine ⟨rfl, ?_⟩
      simp only [step]
      split
      · exact ⟨rfl, fun after moved => by cases moved⟩
      · split
        · exact ⟨rfl, fun after moved => by cases moved⟩
        · split
          · exact ⟨rfl, fun after moved => by cases moved⟩
          · split
            · exact ⟨rfl, fun after moved => by cases moved; trivial⟩
            · split <;> exact ⟨rfl, fun after moved => by cases moved⟩
  | seated | connecting => cases unseated

theorem Acquisition.step_supplies {supply : Supply ε MemoryHandle κ}
    (opens : supply.create.Opens backend connects own asks) (now : Instant) (cancelled : Bool)
    (pool : Pool MemoryHandle) (breaker : Breaker) (environment : ε) {acquisition : Acquisition κ}
    (known : acquisition.Asks asks) :
    let next := acquisition.step supply now cancelled pool breaker environment
    Supplies backend (connects environment) (pool.stock + acquisition.held own)
        (next.pool.stock + next.turn.held (Acquisition.held own) (Except.held Lease.held) acquisition)
        (connects next.environment) ∧
      ∀ after, next.turn = .moved after → after.Asks asks := by
  by_cases unseated : (acquisition.standing : Standing MemoryHandle).hasSlot = false
  · obtain ⟨⟨slots, same⟩, -, -, world, -⟩ :=
      step_unseated supply now cancelled pool breaker environment acquisition unseated
    obtain ⟨before, after, onward⟩ :=
      acquisition.step_unseated_held supply now cancelled pool breaker environment own asks unseated
    refine ⟨?_, onward⟩
    rw [before, after, same, world]
    exact .kept (le_refl _)
  cases acquisition with
  | arriving | queued => exact absurd rfl unseated
  | seated =>
      simp only [step]
      split
      · rename_i lease next events taken
        obtain ⟨unusable, rest, stack, -, -, rfl, -⟩ := Pool.takeIdle_some taken
        refine ⟨.kept ?_, fun after moved => by cases moved⟩
        simp only [Pool.stock, stack, Turn.held, Except.held, Lease.held, Acquisition.held, List.map_append,
          List.map_cons, ← Multiset.coe_add, ← Multiset.cons_coe, add_zero]
        rw [← Multiset.singleton_add, add_comm]
        exact Multiset.le_add_left _ _
      · rename_i next events missed
        obtain ⟨-, rfl, -⟩ := Pool.takeIdle_none missed
        exact ⟨.kept (Multiset.zero_le _), fun after moved => by cases moved; trivial⟩
  | connecting execution =>
      obtain ⟨supplies, onward⟩ := opens.execution pool.connect now cancelled breaker environment known
      simp only [step]
      generalize execution.step pool.connect supply.create now cancelled breaker environment = next
        at supplies onward ⊢
      obtain ⟨turn, later, after, events⟩ := next
      have framed := supplies.frame pool.stock
      cases turn with
      | moved execution =>
          refine ⟨framed, ?_⟩
          intro after moved
          cases moved
          exact onward execution rfl
      | blocked | overflowed => exact ⟨framed, fun after moved => by cases moved⟩
      | finished result => cases result <;> exact ⟨framed, fun after moved => by cases moved⟩

theorem Acquisition.abandon_stock {ρ : Type} {supply : Supply ε ρ κ} (pool : Pool ρ) (breaker : Breaker)
    (environment : ε) (acquisition : Acquisition κ) :
    (acquisition.abandon supply pool breaker environment).1.stock = pool.stock := by
  cases acquisition <;> rfl

end Leasing

end Dispatch
