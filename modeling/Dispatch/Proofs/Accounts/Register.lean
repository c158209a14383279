import Dispatch.Proofs.Accounts.Ledger
import Dispatch.Proofs.Delivery.Parts

/-!
# The register of a memory broker

A broker numbers the handles that it gives out. `Accounts` says of some handles that they are all that were given
out and not closed, each of them once: so a handle that is among them is closed for the first time. A connect
fetches a handle: from the broker to its caller or to where it waits for its confirmation, and on from there
(`Fetch`). No call waits for that confirmation, so no handle is lost there (`Operation.Fetches.arrives`).
-/

set_option autoImplicit false

namespace Dispatch

namespace MemoryBroker

/-- The handles that the broker saw closed, `closed` in number, and these handles are together all that it gave
out, each of them once. -/
structure Accounts (b : MemoryBroker) (closed : Nat) (handles : Multiset MemoryHandle) : Prop where
  count : b.closedHandles.length = closed
  numbers : (b.closedHandles : Multiset Nat) + handles.map MemoryHandle.number = (List.range' 1 b.connects : List Nat)

namespace Accounts

variable {b later : MemoryBroker} {closed : Nat} {handles others : Multiset MemoryHandle} {handle : MemoryHandle}

theorem of_register (accounts : b.Accounts closed handles) (same : later.register = b.register) :
    later.Accounts closed handles := by
  have connects : later.connects = b.connects := congrArg Prod.fst same
  have closed : later.closedHandles = b.closedHandles := congrArg Prod.snd same
  exact ⟨by rw [closed, accounts.count], by rw [closed, connects, accounts.numbers]⟩

theorem opened (accounts : b.Accounts closed others) (number : handle.number = b.connects + 1)
    (same : later.register = (b.connects + 1, b.closedHandles)) : later.Accounts closed (handle ::ₘ others) := by
  have connects : later.connects = b.connects + 1 := congrArg Prod.fst same
  have closed : later.closedHandles = b.closedHandles := congrArg Prod.snd same
  refine ⟨by rw [closed, accounts.count], ?_⟩
  rw [closed, connects, Multiset.map_cons, Multiset.add_cons, accounts.numbers, number, List.range'_1_concat,
    ← Multiset.coe_add, Multiset.coe_singleton, add_comm _ ({_} : Multiset Nat), Multiset.singleton_add, add_comm 1]

theorem close (accounts : b.Accounts closed (handle ::ₘ others)) : (b.close handle).Accounts (closed + 1) others := by
  obtain ⟨count, numbers⟩ := accounts
  rw [Multiset.map_cons, Multiset.add_cons] at numbers
  have once : (handle.number ::ₘ ((b.closedHandles : Multiset Nat) + others.map MemoryHandle.number)).Nodup := by
    rw [numbers, Multiset.coe_nodup]
    exact List.nodup_range'
  have fresh : handle.number ∉ b.closedHandles := fun member =>
    (Multiset.nodup_cons.1 once).1 (Multiset.mem_add.2 (.inl (Multiset.mem_coe.2 member)))
  have closing : b.close handle = { b with closedHandles := handle.number :: b.closedHandles } := by
    simp [MemoryBroker.close, fresh]
  rw [closing]
  refine ⟨by rw [List.length_cons, count], ?_⟩
  rw [← Multiset.cons_coe, Multiset.cons_add, numbers]

theorem closeAll {disposed : List MemoryHandle} (accounts : b.Accounts closed (others + disposed)) :
    (disposed.foldl (fun b handle => b.close handle) b).Accounts (closed + disposed.length) others := by
  induction disposed generalizing b closed with
  | nil => simpa using accounts
  | cons handle disposed ih =>
      rw [← Multiset.cons_coe, Multiset.add_cons] at accounts
      have rest := ih accounts.close
      rwa [add_assoc, add_comm 1] at rest

end Accounts

theorem attempt_fetches (request : Opening) (now : Instant) (b : MemoryBroker) (call : MemoryCall) :
    let next := (attempt (admitHandle request)).step now b call
    (∃ handle : MemoryHandle, next.1 = .finished (.ok handle) ∧
        ∀ closed others, b.Accounts closed others → next.2.Accounts closed (handle ::ₘ others)) ∨
      (∀ handle, next.1 ≠ .finished (.ok handle)) ∧ next.2.register = b.register := by
  have kept : ((attempt (admitHandle request)).step now b call).2.closedHandles = b.closedHandles := by
    unfold attempt
    cases call with
    | connecting until_ =>
        dsimp only
        split
        · rfl
        · split <;> rfl
    | fresh | sending | hanging => rfl
  rcases attempt_connects request now b call with ⟨handle, turn, number, -, more⟩ | ⟨unopened, same⟩
  · exact .inl ⟨handle, turn, fun _ _ accounts => accounts.opened number (Prod.ext more kept)⟩
  · exact .inr ⟨unopened, Prod.ext same kept⟩

end MemoryBroker

def Surroundings.trace (s : Surroundings MemoryBroker) : (Nat × List Nat) × Multiset Event :=
  (s.outside.register, s.notes)

/-- From `before` to `after` handles came from the broker or went back there, and this was written in the log. -/
structure Fetch (written : Multiset Event) (s later : Surroundings MemoryBroker)
    (before after : Multiset MemoryHandle) : Prop where
  notes : later.notes = s.notes + written
  handles : ∀ closed others, s.outside.Accounts closed (others + before) →
    later.outside.Accounts closed (others + after)

theorem Fetch.of_trace {s later : Surroundings MemoryBroker} (same : later.trace = s.trace)
    (held : Multiset MemoryHandle) : Fetch 0 s later held held where
  notes := (congrArg Prod.snd same).trans (Multiset.add_zero _).symm
  handles _ _ accounts := accounts.of_register (congrArg Prod.fst same)

def Turn.written {κ φ ρ : Type} (note : Multiset Event) : Turn κ (Except φ ρ) → Multiset Event
  | .finished (.ok _) => note
  | _ => 0

structure Operation.Fetches {κ φ : Type} (op : Operation (Surroundings MemoryBroker) κ (Except φ MemoryHandle))
    (held : κ → Multiset MemoryHandle) (note : Multiset Event) : Prop where
  start : held op.start = 0
  step : ∀ now s call, Fetch ((op.step now s call).1.written note) s (op.step now s call).2 (held call)
    ((op.step now s call).1.held held (Except.held fun handle => {handle}) call)
  arrives : ∀ now s call, held call = 0 ∨ ∃ handle, (op.step now s call).1 = .finished (.ok handle)
  abandon : ∀ s call, held call = 0 → (op.abandon s call).trace = s.trace

theorem MemoryBroker.connectVia_fetches (settings : BackendSettings) :
    (Transport.connectVia connector settings).Fetches TransportCall.held 0 where
  start := rfl
  step now s call := by
    cases call with
    | fresh => cases settings <;> exact .of_trace (by rfl) 0
    | confirming handle call => exact .of_trace (by rfl) {handle}
    | sending | listening | plain => exact .of_trace (by rfl) 0
    | opening request call =>
        have attempted := attempt_fetches request now s.outside call
        dsimp only at attempted
        rw [Transport.connectVia_opening]
        change Fetch (Turn.written 0 (((attempt (admitHandle request)).step now s.outside call).1.lift _ _)) s
          { s with outside := ((attempt (admitHandle request)).step now s.outside call).2 } 0
          (Turn.held _ _ _ (((attempt (admitHandle request)).step now s.outside call).1.lift _ _))
        generalize (attempt (admitHandle request)).step now s.outside call = outcome at attempted ⊢
        obtain ⟨turn, b⟩ := outcome
        rcases attempted with ⟨handle, rfl, accounts⟩ | ⟨unopened, same⟩
        · have arrived : Fetch 0 s { s with outside := b } 0 {handle} := by
            refine ⟨(Multiset.add_zero _).symm, fun closed others before => ?_⟩
            rw [add_zero] at before
            rw [add_comm, Multiset.singleton_add]
            exact accounts closed others before
          simp only [Turn.lift]
          split <;> exact arrived
        · have trace : Surroundings.trace { s with outside := b } = s.trace := Prod.ext same rfl
          cases turn with
          | finished result =>
              cases result with
              | ok handle => exact absurd rfl (unopened handle)
              | error error => exact .of_trace trace 0
          | moved | blocked | overflowed => exact .of_trace trace 0
  arrives now s call := by
    cases call with
    | confirming handle call => exact .inr ⟨handle, rfl⟩
    | fresh | opening | sending | listening | plain => exact .inl rfl
  abandon s call none := by
    cases call with
    | confirming handle call => exact absurd none (Multiset.singleton_ne_zero handle)
    | fresh | opening | sending | listening | plain => rfl

theorem Adapter.OnMemory.create_fetches {a : MemoryAdapter} {settings : BackendSettings} (wired : a.OnMemory settings) :
    a.supply.create.Fetches TransportCall.held {a.connectionEvent "connection opened"} := by
  have fetches := MemoryBroker.connectVia_fetches settings
  have same : a.transport.connect = Transport.connectVia MemoryBroker.connector settings := by rw [wired]; rfl
  rw [← same] at fetches
  constructor
  case start => exact fetches.start
  case abandon => exact fetches.abandon
  case step =>
    intro now s call
    have fetch := fetches.step now s call
    unfold supply
    generalize a.transport.connect.step = stepping at fetch ⊢
    revert fetch
    dsimp only
    rcases stepping now s call with ⟨turn, later⟩
    intro fetch
    cases turn with
    | moved | blocked | overflowed => exact fetch
    | finished result =>
        cases result with
        | error error => exact fetch
        | ok handle =>
            refine ⟨?_, fetch.handles⟩
            refine (Surroundings.notes_report _ _).trans ?_
            rw [a.connectionEvent_noted (.inl rfl), fetch.notes]
            exact congrArg (· + _) (Multiset.add_zero _)
  case arrives =>
    intro now s call
    rcases fetches.arrives now s call with none | ⟨handle, turn⟩
    · exact .inl none
    · refine .inr ⟨handle, ?_⟩
      rw [(a.supply_step now s call).1, turn]
      rfl

section Pipelines

variable {κ : Type} {held : κ → Multiset MemoryHandle} {note : Multiset Event}
  {op : Operation (Surroundings MemoryBroker) κ (Except Failure MemoryHandle)}

theorem Execution.conclude_fetch {s later : Surroundings MemoryBroker} (fetch : Fetch 0 s later 0 0) (p : Pipeline)
    (now : Instant) (attempt : Nat) (failure : Failure) (permit : Permit) {call : κ} (none : held call = 0) :
    let turn := (conclude (κ := κ) (α := MemoryHandle) p now attempt (.error failure)).1
    Fetch (turn.written note) s later 0
      (turn.held (Execution.held held) (Except.held fun handle => {handle}) (.trying attempt permit call)) := by
  have concludes := conclude_concludes (κ := κ) (α := MemoryHandle) p now attempt (.error failure)
  dsimp only
  generalize (conclude (κ := κ) (α := MemoryHandle) p now attempt (.error failure)).1 = turn at concludes
  cases concludes with
  | fatal | exhausted | again => exact fetch
  | endless =>
      refine ⟨fetch.notes, ?_⟩
      rw [Turn.held, Execution.held, none]
      exact fetch.handles

theorem Operation.Fetches.execution (fetches : op.Fetches held note) {p : Pipeline} (kind : p.kind = .connect)
    (now : Instant) (cancelled : Bool) (breaker : Breaker) (s : Surroundings MemoryBroker) (execution : Execution κ) :
    let next := execution.step p op now cancelled breaker s
    Fetch (next.turn.written note) s next.environment (execution.held held)
        (next.turn.held (Execution.held held) (Except.held fun handle => {handle}) execution) ∧
      (execution.held held = 0 ∨ ∃ handle, next.turn = .finished (.ok handle)) := by
  have still : Fetch 0 s s 0 0 := .of_trace rfl 0
  cases execution with
  | ready made =>
      refine ⟨?_, .inl rfl⟩
      simp only [Execution.step]
      split
      · exact still
      · split
        · rw [Turn.held, Execution.held, fetches.start]
          exact still
        · exact still
  | resting attempt resumeAt =>
      refine ⟨?_, .inl rfl⟩
      simp only [Execution.step, RetryPolicy.rest]
      split
      · exact still
      · split <;> exact still
  | trying attempt permit call =>
      have uncut : ¬(cancelled ∧ p.kind.abortsInFlight) := by simp [kind, OperationKind.abortsInFlight]
      have fetch := fetches.step now s call
      simp only [Execution.step, if_neg uncut, Execution.held]
      rcases fetches.arrives now s call with none | ⟨handle, arrived⟩
      · refine ⟨?_, .inl none⟩
        rw [none] at fetch ⊢
        generalize op.step now s call = outcome at fetch ⊢
        obtain ⟨turn, later⟩ := outcome
        cases turn with
        | moved | blocked | overflowed => exact fetch
        | finished result =>
            cases result with
            | ok handle => exact fetch
            | error failure => exact Execution.conclude_fetch fetch p now attempt failure permit none
      · generalize op.step now s call = outcome at fetch arrived ⊢
        obtain ⟨turn, later⟩ := outcome
        obtain rfl : turn = _ := arrived
        exact ⟨fetch, .inr ⟨handle, rfl⟩⟩

theorem Operation.Fetches.execution_abandon (fetches : op.Fetches held note) (breaker : Breaker)
    (s : Surroundings MemoryBroker) {execution : Execution κ} (none : execution.held held = 0) :
    (execution.abandon op breaker s).2.trace = s.trace := by
  cases execution with
  | trying attempt permit call => exact fetches.abandon s call none
  | ready | resting => rfl

end Pipelines

end Dispatch
