import Dispatch.Proofs.Pool.Capacity

set_option autoImplicit false

namespace Dispatch

namespace Slots

@[simp] theorem give_closed (s : Slots) : s.give.closed = s.closed := by
  unfold give
  split <;> rfl

theorem claim?_closed {s next : Slots} {ticket : Ticket} (claimed : s.claim? ticket = some next) :
    next.closed = s.closed := by
  unfold claim? at claimed
  split at claimed
  · cases claimed
    rfl
  · cases claimed

@[simp] theorem leave_closed (s : Slots) (ticket : Ticket) : (s.leave ticket).closed = s.closed := by
  unfold leave
  split
  · rename_i claimed
    rw [give_closed, claim?_closed claimed]
  · rfl

end Slots

namespace Pool

variable {ρ : Type}

def slotsClosed (pool : Pool ρ) : Bool := pool.slots.all Slots.closed

structure Barred (pool : Pool ρ) : Prop where
  refuses : pool.shutDown = true
  closed : pool.slotsClosed = true

structure Shut (pool : Pool ρ) : Prop extends Barred pool where
  empty : pool.idle = []

theorem barred_closeSlots {pool : Pool ρ} (refuses : pool.shutDown = true) : pool.closeSlots.Barred := by
  refine ⟨refuses, ?_⟩
  cases capped : pool.slots <;> simp [slotsClosed, closeSlots, Slots.close, capped]

theorem shut_closeIdle {pool : Pool ρ} (barred : pool.Barred) : pool.closeIdle.1.Shut :=
  ⟨⟨barred.refuses, barred.closed⟩, rfl⟩

theorem shut_shutdown (pool : Pool ρ) : pool.shutdown.1.Shut := shut_closeIdle (barred_closeSlots rfl)

theorem keeps_refused {pool : Pool ρ} (refuses : pool.shutDown = true) (healthy : Bool) (now : Instant)
    (lease : Lease ρ) : pool.keeps healthy now lease = false := by
  simp [keeps, refuses]

end Pool

namespace Passage

variable {ρ : Type} {now : Instant} {pool next : Pool ρ} {before after : Standing ρ}
  {events : List (PoolEvent ρ)}

theorem shutDown_eq (passage : Passage now pool before after next events) :
    next.shutDown = pool.shutDown := by
  cases passage with
  | stay | enter | sit | queue | claim | giveUp | connect | free => rfl
  | take taken =>
      obtain ⟨unusable, rest, -, -, -, rfl, -⟩ := Pool.takeIdle_some taken
      rfl
  | miss missed =>
      obtain ⟨-, rfl, -⟩ := Pool.takeIdle_none missed
      rfl
  | finish healthy discard lease =>
      unfold Pool.takeBack
      dsimp only
      split <;> rfl

theorem slotsClosed_eq (passage : Passage now pool before after next events) :
    next.slotsClosed = pool.slotsClosed := by
  cases passage with
  | stay | enter | connect => rfl
  | sit capped taken =>
      unfold Slots.take? at taken
      split at taken
      · cases taken
      · cases taken
        simp [Pool.slotsClosed, capped]
  | queue capped => simp [Pool.slotsClosed, capped, Slots.join]
  | claim capped claimed => simp [Pool.slotsClosed, capped, Slots.claim?_closed claimed]
  | giveUp ticket => cases capped : pool.slots <;> simp [Pool.slotsClosed, Acquisition.leaveLine, capped]
  | take taken =>
      obtain ⟨unusable, rest, -, -, -, rfl, -⟩ := Pool.takeIdle_some taken
      rfl
  | miss missed =>
      obtain ⟨-, rfl, -⟩ := Pool.takeIdle_none missed
      rfl
  | finish healthy discard lease =>
      unfold Pool.takeBack
      dsimp only
      split <;> rfl
  | free => cases capped : pool.slots <;> simp [Pool.slotsClosed, Pool.freeSlot, capped]

theorem stays_empty (passage : Passage now pool before after next events)
    (refuses : pool.shutDown = true) (empty : pool.idle = []) : next.idle = [] := by
  cases passage with
  | stay | enter | sit | queue | claim | giveUp | connect | free => exact empty
  | take taken =>
      obtain ⟨unusable, rest, stack, -⟩ := Pool.takeIdle_some taken
      simp [empty] at stack
  | miss missed =>
      obtain ⟨-, rfl, -⟩ := Pool.takeIdle_none missed
      rfl
  | finish healthy discard lease =>
      -- a lease that ends after the pool refuses callers never finds room
      have refused := Pool.keeps_refused refuses (!discard && healthy lease.resource) now lease
      obtain ⟨next, event, outcome, rfl⟩ := Pool.takeBack_closed refused
      rw [outcome]
      exact empty

end Passage

namespace Hall.Step

variable {ρ : Type} {now : Instant} {before after : Hall ρ}

theorem stays_refusing (step : Step now before after) (refuses : before.pool.shutDown = true) :
    after.pool.shutDown = true := by
  cases step with
  | join | drain | closeSlots | announce => exact refuses
  | refuse => rfl
  | pass others log passage => exact passage.shutDown_eq.trans refuses

theorem stays_barred (step : Step now before after) (barred : before.pool.Barred) : after.pool.Barred := by
  refine ⟨step.stays_refusing barred.refuses, ?_⟩
  cases step with
  | join | drain | refuse | announce => exact barred.closed
  | closeSlots => exact (Pool.barred_closeSlots barred.refuses).closed
  | pass others log passage => exact passage.slotsClosed_eq.trans barred.closed

theorem stays_shut (step : Step now before after) (shut : before.pool.Shut) : after.pool.Shut := by
  refine ⟨step.stays_barred shut.toBarred, ?_⟩
  cases step with
  | join | refuse | closeSlots | announce => exact shut.empty
  | drain => rfl
  | pass others log passage => exact passage.stays_empty shut.refuses shut.empty

end Hall.Step

theorem Passage.unlined {ρ : Type} {now : Instant} {pool next : Pool ρ} {before after : Standing ρ}
    {events : List (PoolEvent ρ)} (passage : Passage now pool before after next events)
    (unlimited : pool.slots = none) (unqueued : before.ticket? = none) : after.ticket? = none := by
  cases passage with
  | stay => exact unqueued
  | queue capped => rw [unlimited] at capped; cases capped
  | enter | sit | claim | giveUp | take | miss | connect | finish | free => rfl

theorem Hall.Reached.unlined {ρ : Type} {policy : PoolPolicy} {connect : Pipeline} {hall : Hall ρ}
    (reached : Reached policy connect hall) (unlimited : hall.pool.slots = none) :
    ∀ standing ∈ hall.standings, standing.ticket? = none := by
  induction reached with
  | start => exact fun standing member => (Multiset.notMem_zero standing member).elim
  | step _ step ih =>
      cases step with
      | join pool standings log =>
          intro standing member
          rcases Multiset.mem_cons.1 member with rfl | member
          · rfl
          · exact ih unlimited standing member
      | drain | refuse | announce => exact ih unlimited
      | closeSlots => exact ih (Option.map_eq_none_iff.1 unlimited)
      | @pass pool next before after events others log passage =>
          have none : pool.slots = none := by
            have same := passage.settings.2.2
            rw [show next.slots = none from unlimited] at same
            simpa using same.symm
          intro standing member
          rcases Multiset.mem_cons.1 member with rfl | member
          · exact passage.unlined none (ih none _ (Multiset.mem_cons_self _ _))
          · exact ih none standing (Multiset.mem_cons_of_mem member)

namespace Traffic

variable {ε ρ κ : Type} (supply : Supply ε ρ κ)

theorem run_keeps {P : Pool (Numbered ρ) → Prop}
    (step : ∀ {now : Instant} {before after : Hall (Numbered ρ)}, Hall.Step now before after →
      P before.pool → P after.pool)
    (moves : List (Move ε)) {t : Traffic ε ρ κ} (start : P t.pool) : P (t.run supply moves).pool := by
  have steps {now : Instant} {hall later : Hall (Numbered ρ)}
      (path : Relation.ReflTransGen (Hall.Step now) hall later) (before : P hall.pool) : P later.pool := by
    induction path with
    | refl => exact before
    | tail _ last ih => exact step last ih
  exact run_induction supply (P := fun t => P t.pool) (fun t next change => steps change.steps) moves t start

/-- A run in which the pool is shut down. Callers may act at any time, also between the three changes. -/
def shuttingDown (before between further after : List (Move ε)) : List (Move ε) :=
  before ++ .refuse :: (between ++ .closeSlots :: (further ++ .drain :: after))

theorem run_shut (t : Traffic ε ρ κ) (before between further after : List (Move ε)) :
    (t.run supply (shuttingDown before between further after)).pool.Shut := by
  have split (t : Traffic ε ρ κ) (first : List (Move ε)) (move : Move ε) (rest : List (Move ε)) :
      t.run supply (first ++ move :: rest) = ((t.run supply first).perform supply move).run supply rest := by
    simp [run]
  rw [shuttingDown, split, split, split]
  have refusing : (((t.run supply before).perform supply .refuse).run supply between).pool.shutDown = true :=
    run_keeps supply (P := (·.shutDown = true)) Hall.Step.stays_refusing between rfl
  have barred := run_keeps supply (P := Pool.Barred) Hall.Step.stays_barred further
    (t := (((t.run supply before).perform supply .refuse).run supply between).perform supply .closeSlots)
    (Pool.barred_closeSlots refusing)
  exact run_keeps supply (P := Pool.Shut) Hall.Step.stays_shut after (Pool.shut_closeIdle barred)

structure ShutDown (t : Traffic ε ρ κ) : Prop where
  empty : t.pool.stats.idle = 0
  sentAway : ∀ (caller : Nat) (lent cancelled : Bool) (call : Acquisition κ),
    t.callers[caller]? = some (.acquiring lent call) →
    (call.standing : Standing (Numbered ρ)).hasSlot = false →
    (call.step supply.numbered t.now cancelled t.pool t.breaker t.world).turn =
        .finished (.error (if cancelled then .cancelled else .poolClosed)) ∧
      ∃ slots, t.perform supply (.step caller cancelled) =
        { t.setCaller caller .away with pool := { t.pool with slots } }
  closes : ∀ (caller : Nat) (lent : Bool) (lease : Lease (Numbered ρ)),
    t.callers[caller]? = some (.holding lent lease) →
    ∀ move ∈ [Move.finish caller false, .finish caller true, .abandon caller],
      PoolEvent.disposals (t.perform supply move).log = PoolEvent.disposals t.log ++ [lease.resource]
  once : t.disposedNumbers.Nodup
  again : ∀ move ∈ [Move.refuse, .closeSlots, .drain],
    (t.perform supply move).pool.stats = t.pool.stats ∧
      PoolEvent.disposals (t.perform supply move).log = PoolEvent.disposals t.log
  settled : (∀ user ∈ t.callers, user.standing.lease? = none) →
    t.pool.stats.closed = t.pool.stats.created ∧ t.disposedNumbers.Perm (List.range t.births.length)

theorem after_unseated (t : Traffic ε ρ κ) (cancelled : Bool) {call : Acquisition κ}
    (unseated : (call.standing : Standing (Numbered ρ)).hasSlot = false) :
    ∃ slots, t.after supply cancelled call = { t with pool := { t.pool with slots } } := by
  obtain ⟨⟨slots, pool⟩, silent, breaker, world, -⟩ :=
    call.step_unseated supply.numbered t.now cancelled t.pool t.breaker t.world unseated
  have unmissed : t.missed supply call = 0 := by
    cases call with
    | arriving | queued => rfl
    | seated | connecting => cases unseated
  have unmade : t.world.2 - t.births.length = 0 := Nat.sub_self _
  have same : t.world.1 = t.environment := rfl
  refine ⟨slots, ?_⟩
  simp [after, become, pool, silent, breaker, world, unmissed, unmade, same]

theorem turn_shut {t : Traffic ε ρ κ} (shut : t.pool.Shut) {call : Acquisition κ}
    (unseated : (call.standing : Standing (Numbered ρ)).hasSlot = false)
    (unlined : t.pool.slots = none → (call.standing : Standing (Numbered ρ)).ticket? = none)
    (cancelled : Bool) :
    (call.step supply.numbered t.now cancelled t.pool t.breaker t.world).turn =
      .finished (.error (if cancelled then .cancelled else .poolClosed)) := by
  have closed := shut.closed
  cases call with
  | arriving => cases cancelled <;> simp [Acquisition.step, shut.refuses]
  | queued ticket deadline =>
      cases capped : t.pool.slots with
      | none => cases unlined capped
      | some slots =>
          simp only [Pool.slotsClosed, capped, Option.all_some] at closed
          cases cancelled <;> simp [Acquisition.step, capped, closed]
  | seated | connecting => cases unseated

theorem conclude_shut {t : Traffic ε ρ κ} (shut : t.pool.Shut) (caller : Nat) (discard : Bool)
    (lease : Lease (Numbered ρ)) :
    PoolEvent.disposals (t.conclude supply caller discard lease).log =
      PoolEvent.disposals t.log ++ [lease.resource] := by
  have refused := Pool.keeps_refused shut.refuses
    (!discard && supply.numbered.healthy t.world lease.resource) t.now lease
  obtain ⟨event, outcome⟩ := conclude_closed caller refused
  rw [outcome]
  simp [PoolEvent.disposed?]

/-- Whatever happens before, between and after the three changes of a shutdown: from then on nothing is
idle, callers without a slot are turned away, and resources that come back are closed, each of them once. -/
theorem shutdown_is_final (policy : PoolPolicy) (connect : Pipeline)
    (breaker : Breaker) (environment : ε) (before between further after : List (Move ε)) :
    ((start policy connect breaker environment : Traffic ε ρ κ).run supply
      (shuttingDown before between further after)).ShutDown supply := by
  have shut := run_shut supply (start policy connect breaker environment : Traffic ε ρ κ)
    before between further after
  have reached := @run_reached ε ρ κ supply policy connect breaker environment
    (shuttingDown before between further after)
  have ordered : Ordered _ := run_induction supply (P := Ordered)
    (fun _ _ change ordered => ordered.change change) (shuttingDown before between further after)
    (start policy connect breaker environment : Traffic ε ρ κ) rfl
  generalize (start policy connect breaker environment : Traffic ε ρ κ).run supply _ = t
    at shut reached ordered
  have whole := numbers_perm reached.balanced ordered
  have idle : t.idleNumbers = [] := List.map_eq_nil_iff.2 shut.empty
  rw [idle, List.nil_append] at whole
  constructor
  case empty => exact congrArg List.length shut.empty
  case sentAway =>
    intro caller lent cancelled call found unseated
    have unlined (unlimited : t.pool.slots = none) :
        (call.standing : Standing (Numbered ρ)).ticket? = none := by
      have standing : (Caller.acquiring lent call : Caller (Numbered ρ) κ).standing ∈ t.hall.standings :=
        List.mem_map_of_mem (List.mem_of_getElem? found)
      exact reached.unlined unlimited _ standing
    have turn := turn_shut supply shut unseated unlined cancelled
    obtain ⟨slots, same⟩ := after_unseated supply t cancelled unseated
    refine ⟨turn, slots, ?_⟩
    simp only [perform, found, advance, turn, same]
    rfl
  case closes =>
    intro caller lent lease found move ends
    simp only [List.mem_cons, List.not_mem_nil, or_false] at ends
    rcases ends with rfl | rfl | rfl
    · simp only [perform, found]
      exact conclude_shut supply shut caller _ lease
    · simp only [perform, found]
      exact conclude_shut supply shut caller _ lease
    · simp only [perform, found]
      exact conclude_shut supply shut caller _ lease
  case once => exact (whole.nodup_iff.2 List.nodup_range).of_append_right
  case again =>
    intro move again
    simp only [List.mem_cons, List.not_mem_nil, or_false] at again
    rcases again with rfl | rfl | rfl
    · simp [perform, become, Pool.refuse, Pool.stats]
    · simp [perform, become, Pool.closeSlots, Pool.stats]
    · simp [perform, become, Pool.closeIdle, Pool.stats, shut.empty, Pool.resized, PoolEvent.disposed?,
        Pool.closing]
  case settled =>
    intro unleased
    have held : t.heldNumbers = [] := by
      apply List.filterMap_eq_nil_iff.2
      intro user member
      rw [Caller.number?, unleased user member, Option.map_none]
    rw [held, List.nil_append] at whole
    have created : t.pool.created = t.births.length := by
      have made := congrArg List.length ordered
      rw [List.length_map, List.length_range] at made
      exact reached.balanced.created.trans made
    have closed : t.pool.closed = t.disposedNumbers.length :=
      reached.balanced.closed.trans (List.length_map _).symm
    refine ⟨?_, whole⟩
    calc t.pool.closed = t.disposedNumbers.length := closed
      _ = t.births.length := by rw [whole.length_eq, List.length_range]
      _ = t.pool.created := created.symm

end Traffic

end Dispatch
