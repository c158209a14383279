import Dispatch.Proofs.Pool.Traffic
import Mathlib.Algebra.BigOperators.Group.Multiset.Basic
import Mathlib.Tactic.Abel

/-!
# Who owns a resource

`Balanced` is the invariant: the resources that are idle, held and disposed of are together those that
were opened, and the counts of the pool say how many there are of each. The `Turnover` of every passage is
even, so it holds in every hall, whatever the resources are and even if they cannot be told apart. In a
traffic they can be, and the invariant says where each one is: at one `Place`, and at no other.
-/

set_option autoImplicit false

namespace Dispatch

/-! ## The balance of a hall -/

def Standing.held {ρ : Type} (standing : Standing ρ) : Multiset ρ :=
  (standing.lease?.map Pooled.resource).toList

structure Balanced {ρ : Type} (pool : Pool ρ) (held : Multiset ρ) (log : List (PoolEvent ρ)) :
    Prop where
  places : (pool.idle.map Pooled.resource : Multiset ρ) + held + (PoolEvent.disposals log : Multiset ρ) =
    (PoolEvent.openings log : Multiset ρ)
  leased : pool.leased = held.card
  created : pool.created = (PoolEvent.openings log).length
  closed : pool.closed = (PoolEvent.disposals log).length

/-- What one act does to the resources of a pool and to its counts, where the caller has `held` in hand
before and `given` after. -/
structure Turnover {ρ : Type} (pool next : Pool ρ) (held given : Multiset ρ) (events : List (PoolEvent ρ)) :
    Prop where
  places : (next.idle.map Pooled.resource : Multiset ρ) + given + (PoolEvent.disposals events : Multiset ρ) =
    (pool.idle.map Pooled.resource : Multiset ρ) + held + (PoolEvent.openings events : Multiset ρ)
  leased : held.card ≤ pool.leased → next.leased + held.card = pool.leased + given.card
  created : next.created = pool.created + (PoolEvent.openings events).length
  closed : next.closed = pool.closed + (PoolEvent.disposals events).length

namespace Pool

variable {ρ : Type} (pool : Pool ρ)

theorem openings_closeIdle : PoolEvent.openings pool.closeIdle.2 = [] := by
  simp [closeIdle, resized, PoolEvent.opened?]

theorem openings_shutdown : PoolEvent.openings pool.shutdown.2 = [] := by
  rw [shutdown, PoolEvent.openings_append, openings_closeIdle]
  rfl

theorem disposals_closeIdle :
    (PoolEvent.disposals pool.closeIdle.2 : Multiset ρ) = (pool.idle.map Pooled.resource : List ρ) := by
  simp only [closeIdle, resized, PoolEvent.disposals_cons, PoolEvent.disposed?, Option.toList_none, List.nil_append,
    disposals_closing, List.map_reverse, Multiset.coe_reverse]

end Pool

namespace Turnover

variable {ρ : Type} {pool next : Pool ρ} {held given : Multiset ρ} {log events : List (PoolEvent ρ)}

theorem balanced (turnover : Turnover pool next held given events) {others : Multiset ρ}
    (balanced : Balanced pool (held + others) log) : Balanced next (given + others) (log ++ events) := by
  have bound : held.card ≤ pool.leased := by rw [balanced.leased, Multiset.card_add]; omega
  have leased := turnover.leased bound
  rw [balanced.leased, Multiset.card_add] at leased
  constructor
  case places =>
    rw [PoolEvent.openings_append, PoolEvent.disposals_append, ← Multiset.coe_add, ← Multiset.coe_add,
      ← balanced.places]
    calc (next.idle.map Pooled.resource : Multiset ρ) + (given + others) +
          ((PoolEvent.disposals log : Multiset ρ) + (PoolEvent.disposals events : Multiset ρ))
        = ((next.idle.map Pooled.resource : Multiset ρ) + given + (PoolEvent.disposals events : Multiset ρ)) +
            (others + (PoolEvent.disposals log : Multiset ρ)) := by abel
      _ = _ := by rw [turnover.places]; abel
  case leased =>
    rw [Multiset.card_add]
    omega
  case created => rw [turnover.created, balanced.created, PoolEvent.openings_append, List.length_append]
  case closed => rw [turnover.closed, balanced.closed, PoolEvent.disposals_append, List.length_append]

theorem quiet (held : Multiset ρ) (idle : next.idle = pool.idle) (leased : next.leased = pool.leased)
    (created : next.created = pool.created) (closed : next.closed = pool.closed)
    (unopened : PoolEvent.openings events = []) (undisposed : PoolEvent.disposals events = []) :
    Turnover pool next held held events where
  places := by rw [idle, unopened, undisposed]
  leased _ := by rw [leased]
  created := by rw [created, unopened, List.length_nil, Nat.add_zero]
  closed := by rw [closed, undisposed, List.length_nil, Nat.add_zero]

theorem cleared (held : Multiset ρ) (idle : next.idle = []) (leased : next.leased = pool.leased)
    (created : next.created = pool.created) (closed : next.closed = pool.closed + pool.idle.length)
    (unopened : PoolEvent.openings events = [])
    (disposed : (PoolEvent.disposals events : Multiset ρ) = (pool.idle.map Pooled.resource : List ρ)) :
    Turnover pool next held held events where
  places := by
    rw [idle, unopened, disposed, List.map_nil]
    simp only [Multiset.coe_nil, zero_add, add_zero, add_comm]
  leased _ := by rw [leased]
  created := by rw [created, unopened, List.length_nil, Nat.add_zero]
  closed := by
    have count : (PoolEvent.disposals events).length = pool.idle.length := by
      simpa using congrArg Multiset.card disposed
    rw [closed, count]

theorem takeBack (pool : Pool ρ) (healthy : ρ → Bool) (discard : Bool) (now : Instant) (lease : Lease ρ) :
    Turnover pool (pool.takeBack healthy discard now lease).1 {lease.resource} 0
      (pool.takeBack healthy discard now lease).2 := by
  have leased (bound : ({lease.resource} : Multiset ρ).card ≤ pool.leased) :
      pool.leased - 1 + ({lease.resource} : Multiset ρ).card = pool.leased + (0 : Multiset ρ).card := by
    rw [Multiset.card_singleton] at bound ⊢
    rw [Multiset.card_zero]
    omega
  cases keeps : pool.keeps (!discard && healthy lease.resource) now lease with
  | true =>
      obtain ⟨next, outcome, rfl⟩ := Pool.takeBack_kept keeps
      rw [outcome]
      refine ⟨?_, leased, rfl, rfl⟩
      simp only [Pool.resized, PoolEvent.openings_cons, PoolEvent.openings_nil, PoolEvent.disposals_cons,
        PoolEvent.disposals_nil, PoolEvent.opened?, PoolEvent.disposed?, Option.toList_none, List.append_nil,
        List.map_cons, ← Multiset.cons_coe, ← Multiset.singleton_add]
      abel
  | false =>
      obtain ⟨next, event, outcome, rfl⟩ := Pool.takeBack_closed keeps
      rw [outcome]
      refine ⟨?_, leased, ?_, ?_⟩
      · simp only [Pool.resized, PoolEvent.openings_cons, Pool.openings_closing, PoolEvent.disposals_cons,
          Pool.disposals_closing, PoolEvent.opened?, PoolEvent.disposed?, Option.toList_none, List.append_nil,
          List.nil_append, List.map_cons, List.map_nil, Multiset.coe_singleton, Multiset.coe_nil]
        abel
      · simp [Pool.resized, PoolEvent.opened?]
      · simp [Pool.resized, PoolEvent.disposed?]

theorem closeIdle (pool : Pool ρ) (held : Multiset ρ) :
    Turnover pool pool.closeIdle.1 held held pool.closeIdle.2 :=
  .cleared held rfl rfl rfl (by simp [Pool.closeIdle]) (Pool.openings_closeIdle pool) (Pool.disposals_closeIdle pool)

theorem shutdown (pool : Pool ρ) (held : Multiset ρ) :
    Turnover pool pool.shutdown.1 held held pool.shutdown.2 := by
  have disposed := Pool.disposals_closeIdle pool.refuse.closeSlots
  refine .cleared held rfl rfl rfl ?_ (Pool.openings_shutdown pool) ?_
  · simp [Pool.shutdown, Pool.closeIdle, Pool.closeSlots, Pool.refuse]
  · rw [Pool.shutdown, PoolEvent.disposals_append, ← Multiset.coe_add, disposed]
    exact Multiset.add_zero _

end Turnover

theorem Passage.turnover {ρ : Type} {now : Instant} {pool next : Pool ρ} {before after : Standing ρ}
    {events : List (PoolEvent ρ)} (passage : Passage now pool before after next events) :
    Turnover pool next before.held after.held events := by
  cases passage with
  | stay standing reports => exact .quiet _ rfl rfl rfl rfl (by simp) (by simp)
  | enter | sit | queue | claim | giveUp => exact .quiet 0 rfl rfl rfl rfl rfl rfl
  | @take healthy lease next events taken =>
      obtain ⟨unusable, rest, stack, -, -, rfl, rfl⟩ := Pool.takeIdle_some taken
      refine ⟨?_, fun _ => rfl, ?_, ?_⟩
      · simp only [stack, Pool.resized, PoolEvent.openings_cons, PoolEvent.disposals_cons, Pool.openings_farewell,
          Pool.disposals_farewell, PoolEvent.opened?, PoolEvent.disposed?, Option.toList_none, List.nil_append,
          List.map_append, List.map_cons, ← Multiset.coe_add, ← Multiset.cons_coe, ← Multiset.singleton_add,
          Standing.held, Standing.lease?, Option.map_some, Option.map_none, Option.toList_some, Multiset.coe_nil]
        abel
      · simp [Pool.resized, PoolEvent.opened?]
      · simp [Pool.resized, PoolEvent.disposed?]
  | miss missed =>
      obtain ⟨-, rfl, rfl⟩ := Pool.takeIdle_none missed
      exact .cleared 0 rfl rfl rfl rfl (by simp) (by simp)
  | connect resource reports =>
      refine ⟨?_, fun _ => rfl, ?_, ?_⟩
      · simp [Pool.addCreated, Pool.resized, Pool.report, PoolEvent.opened?, PoolEvent.disposed?, Standing.held,
          Standing.lease?, add_comm]
      · simp [Pool.addCreated, Pool.resized, Pool.report, PoolEvent.opened?]
      · simp [Pool.addCreated, Pool.resized, Pool.report, PoolEvent.disposed?]
  | finish healthy discard lease => exact .takeBack pool healthy discard now lease
  | free reports seated unleased =>
      have nobody : before.held = 0 := by simp [Standing.held, unleased]
      rw [nobody]
      exact .quiet 0 rfl rfl rfl rfl (by simp) (by simp)

namespace Hall

variable {ρ : Type}

def held (hall : Hall ρ) : Multiset ρ := (hall.standings.map Standing.held).sum

theorem Step.balanced {now : Instant} {before after : Hall ρ} (step : Step now before after)
    (balanced : Balanced before.pool before.held before.log) :
    Balanced after.pool after.held after.log := by
  have alone {next : Pool ρ} {events : List (PoolEvent ρ)}
      (turnover : Turnover before.pool next before.held before.held events) :
      Balanced next before.held (before.log ++ events) := by
    rw [← add_zero before.held] at balanced
    simpa using turnover.balanced balanced
  cases step with
  | join pool standings log =>
      simpa [held, Standing.held, Standing.lease?] using balanced
  | pass others log passage =>
      simp only [held, Multiset.map_cons, Multiset.sum_cons] at balanced ⊢
      exact passage.turnover.balanced balanced
  | drain => exact alone (.closeIdle _ _)
  | refuse => exact ⟨balanced.places, balanced.leased, balanced.created, balanced.closed⟩
  | closeSlots => exact ⟨balanced.places, balanced.leased, balanced.created, balanced.closed⟩
  | announce reports => exact alone (.quiet _ rfl rfl rfl rfl (by simp) (by simp))

theorem Reached.balanced {policy : PoolPolicy} {connect : Pipeline} {hall : Hall ρ}
    (reached : Reached policy connect hall) : Balanced hall.pool hall.held hall.log := by
  induction reached with
  | start => exact ⟨rfl, rfl, rfl, rfl⟩
  | step _ step ih => exact step.balanced ih

end Hall

/-! ## The places of a traffic -/

def Caller.number? {ρ κ : Type} (caller : Caller (Numbered ρ) κ) : Option Nat :=
  caller.standing.lease?.map (·.resource.number)

namespace Traffic

variable {ε ρ κ : Type} {supply : Supply ε ρ κ}

inductive Place where
  | idle (position : Nat)
  | held (caller : Nat)
  | disposed (position : Nat)

def idleNumbers (t : Traffic ε ρ κ) : List Nat := t.pool.idle.map (·.resource.number)

def heldNumbers (t : Traffic ε ρ κ) : List Nat := t.callers.filterMap Caller.number?

def disposedNumbers (t : Traffic ε ρ κ) : List Nat :=
  (PoolEvent.disposals t.log).map Numbered.number

def numberAt (t : Traffic ε ρ κ) : Place → Option Nat
  | .idle position => t.idleNumbers[position]?
  | .held caller => t.callers[caller]?.bind Caller.number?
  | .disposed position => t.disposedNumbers[position]?

def Ordered (t : Traffic ε ρ κ) : Prop :=
  (PoolEvent.openings t.log).map Numbered.number = List.range t.births.length

theorem Ordered.become {t : Traffic ε ρ κ} (ordered : t.Ordered) (pool : Pool (Numbered ρ))
    {events : List (PoolEvent (Numbered ρ))} (unopened : PoolEvent.openings events = []) :
    (t.become pool events).Ordered := by
  simpa [Ordered, Traffic.become, unopened] using ordered

theorem Ordered.giveUp {t : Traffic ε ρ κ} (ordered : t.Ordered) (number : Nat)
    (call : Acquisition κ) : (t.giveUp supply number call).Ordered :=
  ordered.become (call.abandon supply.numbered t.pool t.breaker t.world).1 rfl

theorem Ordered.conclude {t : Traffic ε ρ κ} (ordered : t.Ordered) (number : Nat) (discard : Bool)
    (lease : Lease (Numbered ρ)) : (t.conclude supply number discard lease).Ordered :=
  ordered.become (t.pool.takeBack (supply.numbered.healthy t.world) discard t.now lease).1
    (Pool.openings_takeBack _ _ _ _ _)

theorem Ordered.after {t : Traffic ε ρ κ} (ordered : t.Ordered) (supply : Supply ε ρ κ)
    (cancelled : Bool)
    (call : Acquisition κ) : (t.after supply cancelled call).Ordered := by
  have step := call.step_numbered supply t.now t.environment t.births.length cancelled t.breaker t.pool
  dsimp only at step
  unfold Ordered at ordered
  simp only [Ordered, Traffic.after, Traffic.become, world, PoolEvent.openings_append, List.map_append,
    List.length_append, List.length_replicate]
  rcases step with ⟨resource, -, opened, count⟩ | ⟨unopened, count⟩
  · rw [opened, count, Nat.add_sub_cancel_left, List.range_succ, ordered]
    rfl
  · rw [unopened, count, Nat.sub_self, List.map_nil, List.append_nil]
    exact ordered

theorem Ordered.change {t next : Traffic ε ρ κ} (ordered : t.Ordered) (change : t.Change supply next) :
    next.Ordered := by
  cases change with
  | nothing | join | arrive | world => exact ordered
  | @advance number lent call cancelled found =>
      have after := ordered.after supply cancelled call
      rcases t.advance_cases supply number cancelled lent call with ⟨caller, same⟩ | same | same
      · rw [same]
        exact after
      · rw [same]
        exact after
      · rw [same]
        exact after.giveUp number call
  | giveUp found => exact ordered.giveUp _ _
  | conclude discard found => exact ordered.conclude _ discard _
  | leave found => exact ordered.become t.pool.freeSlot rfl
  | drain => exact ordered.become _ (by simp [Pool.closeIdle, Pool.resized, PoolEvent.opened?])
  | refuse | closeSlots => exact ordered.become _ rfl

end Traffic

/-! ## One place for each resource -/

theorem List.index_unique {α β : Type} {f : α → Option β} {entries : List α}
    (distinct : (entries.filterMap f).Nodup) {i j : Nat} {value : β}
    (here : entries[i]?.bind f = some value) (there : entries[j]?.bind f = some value) : i = j := by
  obtain ⟨a, atI, found⟩ := Option.bind_eq_some_iff.1 here
  obtain ⟨b, atJ, found'⟩ := Option.bind_eq_some_iff.1 there
  obtain ⟨boundI, rfl⟩ := List.getElem?_eq_some_iff.1 atI
  obtain ⟨boundJ, rfl⟩ := List.getElem?_eq_some_iff.1 atJ
  have apart := List.pairwise_iff_getElem.1 (List.pairwise_filterMap.1 distinct)
  rcases Nat.lt_trichotomy i j with less | same | more
  · exact absurd rfl (apart i j boundI boundJ less value found value found')
  · exact same
  · exact absurd rfl (apart j i boundJ boundI more value found' value found)

namespace Traffic

variable {ε ρ κ : Type} {supply : Supply ε ρ κ} {t : Traffic ε ρ κ} {number : Nat}

theorem mem_idleNumbers :
    number ∈ t.idleNumbers ↔ ∃ position, t.numberAt (.idle position) = some number :=
  List.mem_iff_getElem?

theorem mem_heldNumbers :
    number ∈ t.heldNumbers ↔ ∃ caller, t.numberAt (.held caller) = some number := by
  constructor
  · intro member
    obtain ⟨user, present, carries⟩ := List.mem_filterMap.1 member
    obtain ⟨caller, here⟩ := List.getElem?_of_mem present
    exact ⟨caller, Option.bind_eq_some_iff.2 ⟨user, here, carries⟩⟩
  · rintro ⟨caller, here⟩
    obtain ⟨user, present, carries⟩ := Option.bind_eq_some_iff.1 here
    exact List.mem_filterMap.2 ⟨user, List.mem_of_getElem? present, carries⟩

theorem mem_disposedNumbers :
    number ∈ t.disposedNumbers ↔ ∃ position, t.numberAt (.disposed position) = some number :=
  List.mem_iff_getElem?

theorem mem_numbers :
    number ∈ t.idleNumbers ++ t.heldNumbers ++ t.disposedNumbers ↔
      ∃ place, t.numberAt place = some number := by
  rw [List.mem_append, List.mem_append, mem_idleNumbers, mem_heldNumbers, mem_disposedNumbers]
  constructor
  · rintro ((⟨position, here⟩ | ⟨caller, here⟩) | ⟨position, here⟩)
    · exact ⟨_, here⟩
    · exact ⟨_, here⟩
    · exact ⟨_, here⟩
  · rintro ⟨place, here⟩
    cases place with
    | idle position => exact Or.inl (Or.inl ⟨position, here⟩)
    | held caller => exact Or.inl (Or.inr ⟨caller, here⟩)
    | disposed position => exact Or.inr ⟨position, here⟩

theorem numberAt_unique (distinct : (t.idleNumbers ++ t.heldNumbers ++ t.disposedNumbers).Nodup)
    {here there : Place} (atHere : t.numberAt here = some number)
    (atThere : t.numberAt there = some number) : here = there := by
  obtain ⟨front, disposed, apart⟩ := List.nodup_append.1 distinct
  obtain ⟨idle, held, apart'⟩ := List.nodup_append.1 front
  have idle_held {i j : Nat} (idle : t.numberAt (.idle i) = some number)
      (held : t.numberAt (.held j) = some number) : False :=
    apart' _ (mem_idleNumbers.2 ⟨i, idle⟩) _ (mem_heldNumbers.2 ⟨j, held⟩) rfl
  have idle_disposed {i j : Nat} (idle : t.numberAt (.idle i) = some number)
      (disposed : t.numberAt (.disposed j) = some number) : False :=
    apart _ (List.mem_append_left _ (mem_idleNumbers.2 ⟨i, idle⟩)) _
      (mem_disposedNumbers.2 ⟨j, disposed⟩) rfl
  have held_disposed {i j : Nat} (held : t.numberAt (.held i) = some number)
      (disposed : t.numberAt (.disposed j) = some number) : False :=
    apart _ (List.mem_append_right _ (mem_heldNumbers.2 ⟨i, held⟩)) _
      (mem_disposedNumbers.2 ⟨j, disposed⟩) rfl
  -- among the idle and among the disposed ones the number itself tells the position
  have position {numbers : List Nat} (once : numbers.Nodup) {i j : Nat}
      (atI : numbers[i]? = some number) (atJ : numbers[j]? = some number) : i = j :=
    (List.getElem?_inj (List.getElem?_eq_some_iff.1 atI).1 once).1 (atI.trans atJ.symm)
  cases here with
  | idle i =>
      cases there with
      | idle j => rw [position idle atHere atThere]
      | held j => exact (idle_held atHere atThere).elim
      | disposed j => exact (idle_disposed atHere atThere).elim
  | held i =>
      cases there with
      | idle j => exact (idle_held atThere atHere).elim
      | held j => rw [List.index_unique held atHere atThere]
      | disposed j => exact (held_disposed atHere atThere).elim
  | disposed i =>
      cases there with
      | idle j => exact (idle_disposed atThere atHere).elim
      | held j => exact (held_disposed atThere atHere).elim
      | disposed j => rw [position disposed atHere atThere]

theorem held_numbers (callers : List (Caller (Numbered ρ) κ)) :
    ((callers.map Caller.standing).map Standing.held).sum.map Numbered.number =
      (callers.filterMap Caller.number? : Multiset Nat) := by
  induction callers with
  | nil => rfl
  | cons caller callers ih =>
      rw [List.map_cons, List.map_cons, List.sum_cons, Multiset.map_add, ih, List.filterMap_cons,
        Caller.number?, Standing.held]
      cases caller.standing.lease? <;> simp

theorem numbers_perm (balanced : Balanced t.hall.pool t.hall.held t.hall.log) (ordered : t.Ordered) :
    (t.idleNumbers ++ t.heldNumbers ++ t.disposedNumbers).Perm (List.range t.births.length) := by
  have places := congrArg (Multiset.map Numbered.number) balanced.places
  have held : t.hall.held.map Numbered.number = (t.heldNumbers : Multiset Nat) :=
    held_numbers t.callers
  rw [Multiset.map_add, Multiset.map_add, held, Multiset.map_coe, Multiset.map_coe, Multiset.map_coe,
    List.map_map, Multiset.coe_add, Multiset.coe_add] at places
  rw [← ordered]
  exact Multiset.coe_eq_coe.1 places

/-- Whoever uses a pool, and in whatever order things happen: every resource that was ever made is idle,
held by one caller or disposed of once, and never two of these; and the counts of the pool count just
that, so a lease that ends always finds itself counted. -/
theorem each_resource_has_one_place (supply : Supply ε ρ κ) (policy : PoolPolicy)
    (connect : Pipeline) (breaker : Breaker) (environment : ε) (moves : List (Move ε)) :
    let t := (start policy connect breaker environment : Traffic ε ρ κ).run supply moves
    (∀ number < t.births.length, ∃! place, t.numberAt place = some number) ∧
      (∀ place number, t.numberAt place = some number → number < t.births.length) ∧
      t.pool.stats.leased = t.heldNumbers.length ∧
      t.pool.stats.closed = t.disposedNumbers.length ∧
      t.pool.stats.created = t.births.length ∧
      t.pool.stats.created = t.pool.stats.closed + t.pool.stats.idle + t.pool.stats.leased ∧
      (∀ (caller : Nat) lent lease,
        t.callers[caller]? = some (.holding lent lease) → t.pool.leased - 1 + 1 = t.pool.leased) := by
  intro t
  have balanced : Balanced t.hall.pool t.hall.held t.hall.log :=
    (run_reached policy connect breaker environment moves).balanced
  have ordered : t.Ordered :=
    run_induction supply (P := Ordered) (fun _ _ change ordered => ordered.change change) moves _ rfl
  have whole := numbers_perm balanced ordered
  have distinct := whole.nodup_iff.2 List.nodup_range
  have held : t.pool.leased = t.heldNumbers.length := by
    have count := congrArg Multiset.card (held_numbers t.callers)
    rw [Multiset.card_map, Multiset.coe_card] at count
    exact balanced.leased.trans count
  have made : t.pool.created = t.births.length := by
    have count := congrArg List.length ordered
    rw [List.length_map, List.length_range] at count
    exact balanced.created.trans count
  have closed : t.pool.closed = t.disposedNumbers.length :=
    balanced.closed.trans (List.length_map _).symm
  refine ⟨?_, ?_, held, closed, made, ?_, ?_⟩
  · intro number bound
    obtain ⟨place, here⟩ := mem_numbers.1 (whole.mem_iff.2 (List.mem_range.2 bound))
    exact ⟨place, here, fun other there => numberAt_unique distinct there here⟩
  · intro place number here
    exact List.mem_range.1 (whole.mem_iff.1 (mem_numbers.2 ⟨place, here⟩))
  · have count := whole.length_eq
    rw [List.length_append, List.length_append, List.length_range, ← held, ← closed, ← made] at count
    have idle : t.idleNumbers.length = t.pool.idle.length := List.length_map _
    simp only [Pool.stats]
    omega
  · intro caller lent lease holding
    have member : lease.resource.number ∈ t.heldNumbers :=
      mem_heldNumbers.2 ⟨caller, by simp [numberAt, holding, Caller.number?, Caller.standing,
        Standing.lease?]⟩
    -- whoever gives a lease back is counted, so the count does not stop at zero
    have positive := List.length_pos_of_mem member
    omega

end Traffic

end Dispatch
