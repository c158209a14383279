import Dispatch.Proofs.Accounts.Register
import Dispatch.Proofs.Delivery.Custody
import Dispatch.Proofs.Pool.Shutdown

set_option autoImplicit false

namespace Dispatch

abbrev Shared.register (s : Shared MemoryBroker) : Nat × List Nat := s.reading MemoryBroker.register

structure Shared.Silent (s later : Shared MemoryBroker) : Prop where
  ledger : later.ledger = s.ledger
  register : later.register = s.register

namespace Shared.Silent

variable {s later last : Shared MemoryBroker}

theorem refl (s : Shared MemoryBroker) : s.Silent s := ⟨rfl, rfl⟩

theorem trans (first : s.Silent later) (second : later.Silent last) : s.Silent last :=
  ⟨second.ledger.trans first.ledger, second.register.trans first.register⟩

theorem of_trace {surroundings : Surroundings MemoryBroker} (same : surroundings.trace = s.surroundings.trace) :
    s.Silent { s with surroundings } where
  ledger := congrArg (Ledger.mk _) (congrArg Prod.snd same)
  register := congrArg Prod.fst same

theorem report (s : Shared MemoryBroker) {events : List Event} (plain : Event.Plain events) :
    s.Silent (s.report events) := ⟨s.report_ledger plain, rfl⟩

theorem update {change : MemoryBroker → MemoryBroker}
    (kept : (change s.surroundings.outside).register = s.surroundings.outside.register) :
    s.Silent (s.update change) := ⟨rfl, kept⟩

end Shared.Silent

/-- What a step makes of the connections of an adapter, where its caller has `own` in hand before and `left`
after. -/
structure Adapter.Dealing (a : MemoryAdapter) (s : Shared MemoryBroker) (own : Multiset MemoryHandle)
    (next : MemoryAdapter) (later : Shared MemoryBroker) (left : Multiset MemoryHandle) : Prop where
  transport : next.transport = a.transport
  logLevel : next.logLevel = a.logLevel
  connect : next.pool.connect = a.pool.connect
  shut : a.pool.Shut → next.pool.Shut
  booked : ∃ counts, next.pool.counts = a.pool.counts + counts ∧ later.ledger = s.ledger.book a counts
  handles : ∀ closed others, s.surroundings.outside.Accounts (closed + a.pool.closed) (others + (a.stock + own)) →
    later.surroundings.outside.Accounts (closed + next.pool.closed) (others + (next.stock + left))

namespace Adapter.Dealing

variable {a next last : MemoryAdapter} {s later final : Shared MemoryBroker} {own left end_ : Multiset MemoryHandle}

theorem still (own : Multiset MemoryHandle) (transport : next.transport = a.transport)
    (logLevel : next.logLevel = a.logLevel) (pool : next.pool = a.pool) (silent : s.Silent later) :
    a.Dealing s own next later own where
  transport := transport
  logLevel := logLevel
  connect := congrArg Pool.connect pool
  shut := by
    rw [pool]
    exact id
  booked := ⟨0, by rw [pool, add_zero], by rw [silent.ledger, Ledger.book_zero]⟩
  handles closed others accounts := by
    rw [Adapter.stock, pool]
    exact accounts.of_register silent.register

theorem trans (first : a.Dealing s own next later left) (second : next.Dealing later left last final end_) :
    a.Dealing s own last final end_ where
  transport := second.transport.trans first.transport
  logLevel := second.logLevel.trans first.logLevel
  connect := second.connect.trans first.connect
  shut := second.shut ∘ first.shut
  booked := by
    obtain ⟨counts, counted, booked⟩ := first.booked
    obtain ⟨more, counted', booked'⟩ := second.booked
    refine ⟨counts + more, by rw [counted', counted, add_assoc], ?_⟩
    have same : later.ledger.book next more = later.ledger.book a more := by
      simp only [Ledger.book, Adapter.notes, Adapter.connectionEvent, Adapter.backend, first.transport, first.logLevel]
    rw [booked', same, booked, Ledger.book_book]
  handles closed others accounts := second.handles closed others (first.handles closed others accounts)

theorem silent (dealing : a.Dealing s own next later left) (silent : later.Silent final) :
    a.Dealing s own next final left :=
  dealing.trans (.still left rfl rfl rfl silent)

end Adapter.Dealing

namespace Adapter.OnMemory

variable {a : MemoryAdapter} {settings : BackendSettings} {s : Shared MemoryBroker} {now : Instant}

theorem deal (wired : a.OnMemory settings) (next : MemoryAdapter) (rest : Multiset MemoryHandle)
    {surroundings : Surroundings MemoryBroker} {held given own : Multiset MemoryHandle}
    {events : List (PoolEvent MemoryHandle)}
    (turnover : Turnover a.pool next.pool held given events) (regular : PoolEvent.Regular events)
    (fetch : Fetch (.replicate (PoolEvent.openings events).length (a.connectionEvent "connection opened"))
      s.surroundings surroundings own ((PoolEvent.openings events : Multiset MemoryHandle) + rest))
    (transport : next.transport = a.transport) (logLevel : next.logLevel = a.logLevel)
    (connect : next.pool.connect = a.pool.connect) (shut : a.pool.Shut → next.pool.Shut) :
    a.Dealing s (held + own) next (a.absorb { s with surroundings } events) (given + rest) where
  transport := transport
  logLevel := logLevel
  connect := connect
  shut := shut
  booked := by
    refine ⟨((PoolEvent.openings events).length, (PoolEvent.disposals events).length),
      Prod.ext turnover.created turnover.closed, a.absorb_book regular ?_⟩
    ext1
    · funext name
      exact congrFun (congrArg Ledger.tally (s.ledger.add_zero a.backend.name).symm) name
    · exact fetch.notes
  handles closed others accounts := by
    have close : a.transport.close = MemoryBroker.close := by rw [wired]; rfl
    have places : next.stock + given + (PoolEvent.disposals events : Multiset MemoryHandle) =
      a.stock + held + (PoolEvent.openings events : Multiset MemoryHandle) := turnover.places
    rw [show others + (a.stock + (held + own)) = others + (a.stock + held) + own by abel] at accounts
    have fetched := fetch.handles _ _ accounts
    rw [show others + (a.stock + held) + ((PoolEvent.openings events : Multiset MemoryHandle) + rest) =
      others + rest + (a.stock + held + (PoolEvent.openings events : Multiset MemoryHandle)) by abel, ← places,
      ← add_assoc] at fetched
    have closed := fetched.closeAll
    rw [a.absorb_outside, close, turnover.closed, ← add_assoc]
    rwa [show others + rest + (next.stock + given) = others + (next.stock + (given + rest)) by abel] at closed

theorem pass (wired : a.OnMemory settings) (next : MemoryAdapter) (rest : Multiset MemoryHandle)
    {before after : Standing MemoryHandle} {surroundings : Surroundings MemoryBroker} {own : Multiset MemoryHandle}
    {events : List (PoolEvent MemoryHandle)} (passage : Passage now a.pool before after next.pool events)
    (regular : PoolEvent.Regular events)
    (fetch : Fetch (.replicate (PoolEvent.openings events).length (a.connectionEvent "connection opened"))
      s.surroundings surroundings own ((PoolEvent.openings events : Multiset MemoryHandle) + rest))
    (transport : next.transport = a.transport) (logLevel : next.logLevel = a.logLevel) :
    a.Dealing s (before.held + own) next (a.absorb { s with surroundings } events) (after.held + rest) :=
  wired.deal next rest passage.turnover regular fetch transport logLevel passage.settings.2.1
    (Hall.Step.pass 0 [] passage).stays_shut

end Adapter.OnMemory

theorem Acquisition.standing_held {ρ κ : Type} (call : Acquisition κ) : (call.standing : Standing ρ).held = 0 := by
  cases call <;> rfl

theorem Acquisition.standingAfter_held {ρ κ : Type} {turn : Turn (Acquisition κ) (Except Failure (Lease ρ))}
    (unleased : ∀ lease, turn ≠ .finished (.ok lease)) (before : Acquisition κ) :
    (standingAfter turn before).held = 0 := by
  cases turn with
  | finished result =>
      cases result with
      | ok lease => exact absurd rfl (unleased lease)
      | error failure => rfl
  | moved after => exact after.standing_held
  | blocked | overflowed => exact before.standing_held

theorem Acquisition.step_fetch {κ : Type} {supply : Supply (Surroundings MemoryBroker) MemoryHandle κ}
    {held : κ → Multiset MemoryHandle} {note : Event} (fetches : supply.create.Fetches held {note})
    (now : Instant) (cancelled : Bool) {pool : Pool MemoryHandle} (kind : pool.connect.kind = .connect)
    (breaker : Breaker) (s : Surroundings MemoryBroker) (acquisition : Acquisition κ) :
    let next := acquisition.step supply now cancelled pool breaker s
    (∃ rest, Fetch (.replicate (PoolEvent.openings next.events).length note) s next.environment
        (acquisition.held held) ((PoolEvent.openings next.events : Multiset MemoryHandle) + rest) ∧
      next.turn.held (Acquisition.held held) (Except.held Lease.held) acquisition =
        (standingAfter next.turn acquisition).held + rest) ∧
      (acquisition.held held = 0 ∨ ∃ lease, next.turn = .finished (.ok lease)) := by
  have still : Fetch 0 s s 0 (0 + 0) := .of_trace rfl 0
  by_cases unseated : (acquisition.standing : Standing MemoryHandle).hasSlot = false
  · obtain ⟨-, silent, -, same, unleased⟩ := step_unseated supply now cancelled pool breaker s acquisition unseated
    obtain ⟨before, after, -⟩ :=
      acquisition.step_unseated_held supply now cancelled pool breaker s held (fun _ => True) unseated
    refine ⟨⟨0, ?_, ?_⟩, .inl before⟩
    · rw [silent, same, before]
      exact still
    · rw [after, standingAfter_held unleased acquisition, add_zero]
  cases acquisition with
  | arriving | queued => exact absurd rfl unseated
  | seated =>
      refine ⟨⟨0, ?_⟩, .inl rfl⟩
      simp only [step]
      split
      · rename_i lease next events taken
        obtain ⟨unusable, rest, -, -, -, -, rfl⟩ := Pool.takeIdle_some taken
        have unopened : PoolEvent.openings (next.resized :: Pool.farewell unusable) = [] := by
          simp [Pool.resized, PoolEvent.opened?]
        rw [unopened]
        exact ⟨still, rfl⟩
      · rename_i next events missed
        obtain ⟨-, -, rfl⟩ := Pool.takeIdle_none missed
        rw [Pool.openings_farewell]
        exact ⟨still, rfl⟩
  | connecting execution =>
      obtain ⟨fetch, arrives⟩ := fetches.execution kind now cancelled breaker s execution
      simp only [step]
      generalize execution.step pool.connect supply.create now cancelled breaker s = next at fetch arrives ⊢
      obtain ⟨turn, later, environment, events⟩ := next
      dsimp only at fetch arrives ⊢
      have pending {left : Multiset MemoryHandle} (fetch : Fetch 0 s environment (execution.held held) left) :
          Fetch (.replicate (PoolEvent.openings (events.map .reported : List (PoolEvent MemoryHandle))).length note)
            s environment (execution.held held)
            (↑(PoolEvent.openings (events.map .reported : List (PoolEvent MemoryHandle))) + left) := by
        rw [PoolEvent.openings_reported, List.length_nil, Multiset.replicate_zero, Multiset.coe_nil, zero_add]
        exact fetch
      cases turn with
      | finished result =>
          cases result with
          | error failure =>
              exact ⟨⟨0, pending fetch, (zero_add _).symm⟩, .inl (arrives.resolve_right (by simp))⟩
          | ok handle =>
              have opened : PoolEvent.openings
                  (events.map .reported ++ (pool.addCreated handle now).2.2 : List (PoolEvent MemoryHandle)) =
                  [handle] := by
                simp [Pool.addCreated, Pool.resized, Pool.report, PoolEvent.opened?]
              refine ⟨⟨0, ?_, rfl⟩, .inr ⟨_, rfl⟩⟩
              dsimp only
              rw [opened, add_zero]
              exact fetch
      | moved after =>
          exact ⟨⟨after.held held, pending fetch, (zero_add _).symm⟩,
            .inl (arrives.resolve_right (by simp))⟩
      | blocked | overflowed =>
          exact ⟨⟨execution.held held, pending fetch, (zero_add _).symm⟩,
            .inl (arrives.resolve_right (by simp))⟩

namespace Adapter.OnMemory

variable {a : MemoryAdapter} {settings : BackendSettings}

theorem stepLease_dealing (wired : a.OnMemory settings) (kind : a.pool.connect.kind = .connect)
    (s : Shared MemoryBroker) (now : Instant) (cancelled : Bool) (leasing : Adapter.Leasing MemoryHandle MemoryCall) :
    let next := a.stepLease s now cancelled leasing
    a.Dealing s (leasing.held TransportCall.held) next.2.1 next.2.2
        (next.1.held (Acquisition.held TransportCall.held) (Except.held Lease.held) leasing) ∧
      (leasing.held TransportCall.held = 0 ∨ ∃ lease, next.1 = .finished (.ok lease)) := by
  obtain ⟨⟨rest, fetch, left⟩, arrives⟩ := Acquisition.step_fetch wired.create_fetches now cancelled kind
    a.connectBreaker s.surroundings leasing
  have passage := leasing.step_passage a.supply now cancelled a.pool a.connectBreaker s.surroundings
  have regular := leasing.step_regular a.supply now cancelled a.pool a.connectBreaker s.surroundings
  refine ⟨?_, arrives⟩
  have dealing := wired.pass (a.stepLease s now cancelled leasing).2.1 rest passage regular fetch rfl rfl
  rw [leasing.standing_held, zero_add, ← left] at dealing
  exact dealing

theorem abandonLease_dealing (wired : a.OnMemory settings) (s : Shared MemoryBroker)
    {leasing : Adapter.Leasing MemoryHandle MemoryCall} (none : leasing.held TransportCall.held = 0) :
    a.Dealing s (leasing.held TransportCall.held) (a.abandonLease s leasing).1 (a.abandonLease s leasing).2 0 := by
  have passage := leasing.abandon_passage a.supply 0 a.pool a.connectBreaker s.surroundings
  have trace : (leasing.abandon a.supply a.pool a.connectBreaker s.surroundings).2.2.trace = s.surroundings.trace := by
    cases leasing with
    | connecting execution =>
        exact wired.create_fetches.execution_abandon a.connectBreaker s.surroundings none
    | arriving | queued | seated => rfl
  have dealing := wired.pass (a.abandonLease s leasing).1 0 passage .nil (.of_trace trace 0) rfl rfl
  rw [leasing.standing_held] at dealing
  rw [none]
  exact dealing

theorem release_dealing (wired : a.OnMemory settings) (s : Shared MemoryBroker) (now : Instant)
    (lease : Lease MemoryHandle) :
    a.Dealing s (Lease.held lease) (a.release s now lease).1 (a.release s now lease).2 0 := by
  have back : Passage now a.pool (.holding lease) .leaving _ _ := .finish (a.isUsable s) false lease
  have free : Passage now (a.pool.takeBack (a.isUsable s) false now lease).1 .leaving .outside _ _ := .free [] rfl rfl
  have regular := a.pool.takeBack_regular (a.isUsable s) false now lease
  have unopened := a.pool.openings_takeBack (a.isUsable s) false now lease
  have still (s : Surroundings MemoryBroker) : Fetch 0 s s 0 (0 + 0) := .of_trace rfl 0
  have returned := wired.pass { a with pool := (a.pool.takeBack (a.isUsable s) false now lease).1 } 0 back regular
    (by rw [unopened]; exact still s.surroundings) rfl rfl
  have between : Adapter.OnMemory { a with pool := (a.pool.takeBack (a.isUsable s) false now lease).1 } settings :=
    wired
  exact returned.trans (between.pass (a.release s now lease).1 0 free .nil (still _) rfl rfl)

theorem tended_dealing (wired : a.OnMemory settings) {s later : Shared MemoryBroker} {next : MemoryAdapter}
    (tended : a.Tended s next later) : a.Dealing s 0 next later 0 := by
  have unopened {events : List (PoolEvent MemoryHandle)} (unopened : PoolEvent.openings events = []) :
      Fetch (.replicate (PoolEvent.openings events).length (a.connectionEvent "connection opened")) s.surroundings
        s.surroundings 0 (PoolEvent.openings events + 0) := by
    rw [unopened]
    exact .of_trace rfl 0
  cases tended with
  | reset => exact .still 0 rfl rfl rfl (.refl s)
  | closeIdle =>
      exact wired.deal (a.closeIdle s).1 0 (.closeIdle a.pool 0) a.pool.closeIdle_regular
        (unopened a.pool.openings_closeIdle) rfl rfl rfl fun shut => Pool.shut_closeIdle shut.toBarred
  | shutdown =>
      exact wired.deal (a.shutdown s).1 0 (.shutdown a.pool 0) a.pool.shutdown_regular
        (unopened a.pool.openings_shutdown) rfl rfl rfl fun _ => Pool.shut_shutdown a.pool

end Adapter.OnMemory

end Dispatch
