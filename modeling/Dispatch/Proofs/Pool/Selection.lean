import Dispatch.Proofs.Pool.Reuse

set_option autoImplicit false

namespace Dispatch

/-! ## One step -/

structure Pooled.Fit {ρ : Type} (entry : Pooled ρ) (healthy : ρ → Bool) (policy : PoolPolicy)
    (now : Instant) : Prop where
  healthy : healthy entry.resource = true
  rested : ∀ limit ∈ policy.idleTimeout, now - entry.lastUsed ≤ limit
  young : ∀ limit ∈ policy.maxLifetime, now - entry.createdAt ≤ limit

def PoolEvent.isClosing {ρ : Type} : PoolEvent ρ → Bool
  | .closed => true
  | _ => false

namespace Pool

variable {ρ : Type}

theorem isUsable_iff {pool : Pool ρ} {healthy : ρ → Bool} {now : Instant} {entry : Pooled ρ} :
    isUsable healthy pool now entry = true ↔ entry.Fit healthy pool.policy now := by
  rw [isUsable, Pooled.isExpired_eq, Bool.not_not, Bool.and_eq_true, Bool.and_eq_true, Option.all_eq_true,
    Option.all_eq_true]
  simp only [decide_eq_true_eq]
  constructor
  · rintro ⟨⟨rested, young⟩, healthy⟩
    exact ⟨healthy, rested, young⟩
  · rintro ⟨healthy, rested, young⟩
    exact ⟨⟨rested, young⟩, healthy⟩

theorem isUsable_false_iff {pool : Pool ρ} {healthy : ρ → Bool} {now : Instant} {entry : Pooled ρ} :
    isUsable healthy pool now entry = false ↔ ¬entry.Fit healthy pool.policy now := by
  rw [← Bool.not_eq_true, isUsable_iff]

theorem countP_farewell (entries : List (Pooled ρ)) :
    (farewell entries).countP PoolEvent.isClosing = entries.length := by
  have each : (closing entries).countP PoolEvent.isClosing = entries.length := by
    induction entries with
    | nil => rfl
    | cons entry entries ih => simpa [closing, PoolEvent.isClosing, List.countP_cons] using ih
  unfold farewell
  split
  · rename_i empty
    rw [List.isEmpty_iff.1 empty]
    rfl
  · exact each

end Pool

namespace Acquisition

variable {ε ρ κ : Type}

structure Closes (events : List (PoolEvent ρ)) (entries : List (Pooled ρ)) : Prop where
  disposed : PoolEvent.disposals events = entries.map Pooled.resource
  told : events.countP PoolEvent.isClosing = entries.length
  opened : PoolEvent.openings events = []

/-- What an acquire that has its slot does with the stack that it finds. -/
inductive Selection (healthy : ρ → Bool) (now : Instant) (pool : Pool ρ) :
    Turn (Acquisition κ) (Except Failure (Lease ρ)) → Pool ρ → List (PoolEvent ρ) → Prop
  | take {above below : List (Pooled ρ)} {lease : Lease ρ} {events : List (PoolEvent ρ)}
      (stack : pool.idle = above ++ lease :: below)
      (passed : ∀ entry ∈ above, ¬entry.Fit healthy pool.policy now)
      (fit : lease.Fit healthy pool.policy now) (closes : Closes events above) :
      Selection healthy now pool (.finished (.ok lease))
        { pool with idle := below, leased := pool.leased + 1, closed := pool.closed + above.length } events
  | connect {events : List (PoolEvent ρ)} (passed : ∀ entry ∈ pool.idle, ¬entry.Fit healthy pool.policy now)
      (closes : Closes events pool.idle) :
      Selection healthy now pool (.moved (.connecting (.ready 0)))
        { pool with idle := [], closed := pool.closed + pool.idle.length } events

theorem seated_selection (supply : Supply ε ρ κ) (now : Instant) (pool : Pool ρ) (environment : ε) :
    ∃ turn next events, Selection (supply.healthy environment) now pool turn next events ∧
      ∀ create cancelled breaker,
        (seated : Acquisition κ).step { supply with create } now cancelled pool breaker environment =
          { turn, pool := next, breaker, environment, events } := by
  cases outcome : pool.takeIdle (supply.healthy environment) now with
  | mk taken rest =>
      obtain ⟨next, events⟩ := rest
      cases taken with
      | some lease =>
          refine ⟨_, next, events, ?_, fun create cancelled breaker => by simp only [step, outcome]; rfl⟩
          obtain ⟨above, below, stack, passed, fit, rfl, rfl⟩ := Pool.takeIdle_some outcome
          refine .take stack (fun entry member => Pool.isUsable_false_iff.1 (passed entry member))
            (Pool.isUsable_iff.1 fit) ⟨?_, ?_, ?_⟩
          · simp [Pool.resized, PoolEvent.disposed?]
          · simp [Pool.resized, PoolEvent.isClosing, Pool.countP_farewell]
          · simp [Pool.resized, PoolEvent.opened?]
      | none =>
          refine ⟨_, next, events, ?_, fun create cancelled breaker => by simp only [step, outcome]; rfl⟩
          obtain ⟨passed, rfl, rfl⟩ := Pool.takeIdle_none outcome
          refine .connect (fun entry member => Pool.isUsable_false_iff.1 (passed entry member)) ⟨?_, ?_, ?_⟩
          · exact Pool.disposals_farewell pool.idle
          · exact Pool.countP_farewell pool.idle
          · exact Pool.openings_farewell pool.idle

theorem connecting_begins (supply : Supply ε ρ κ) (now : Instant) (cancelled : Bool) (pool : Pool ρ)
    (breaker : Breaker) (environment : ε) {call : Acquisition κ}
    (before : ∀ execution, call ≠ .connecting execution) :
    let next := call.step supply now cancelled pool breaker environment
    next.breaker = breaker ∧ next.environment = environment ∧
      ∀ execution, next.turn = .moved (.connecting execution) →
        call = .seated ∧ execution = .ready 0 ∧
          ∀ entry ∈ pool.idle, ¬entry.Fit (supply.healthy environment) pool.policy now := by
  intro next
  -- a call without a slot would have to take one first
  have unseated (slotless : (call.standing : Standing ρ).hasSlot = false) :
      next.breaker = breaker ∧ next.environment = environment ∧
        ∀ execution, next.turn ≠ .moved (.connecting execution) := by
    obtain ⟨-, -, breaker', environment', -⟩ :=
      call.step_unseated supply now cancelled pool breaker environment slotless
    refine ⟨breaker', environment', fun execution connects => ?_⟩
    have passage := call.step_passage supply now cancelled pool breaker environment
    change Passage now pool call.standing (standingAfter next.turn call) next.pool next.events at passage
    rw [connects] at passage
    cases call with
    | arriving | queued => cases passage
    | seated | connecting => cases slotless
  cases call with
  | arriving | queued =>
      obtain ⟨breaker', environment', never⟩ := unseated rfl
      exact ⟨breaker', environment', fun execution connects => absurd connects (never execution)⟩
  | seated =>
      obtain ⟨turn, rest, events, selection, outcome⟩ := seated_selection supply now pool environment
      have same : next = _ := outcome supply.create cancelled breaker
      rw [same]
      refine ⟨rfl, rfl, fun execution connects => ?_⟩
      cases selection with
      | take => cases connects
      | connect passed closes =>
          cases connects
          exact ⟨rfl, rfl, passed⟩
  | connecting execution => exact absurd rfl (before execution)

end Acquisition

structure Acquisition.Selects {ε ρ κ : Type} (supply : Supply ε ρ κ) (now : Instant) (pool : Pool ρ)
    (environment : ε) : Prop where
  selects : ∃ turn next events, Selection (supply.healthy environment) now pool turn next events ∧
    ∀ create cancelled breaker,
      (seated : Acquisition κ).step { supply with create } now cancelled pool breaker environment =
        { turn, pool := next, breaker, environment, events }
  connects : ∀ (cancelled : Bool) (breaker : Breaker) (call : Acquisition κ),
    (∀ execution, call ≠ .connecting execution) →
    let next := call.step supply now cancelled pool breaker environment
    next.breaker = breaker ∧ next.environment = environment ∧
      ∀ execution, next.turn = .moved (.connecting execution) →
        call = .seated ∧ execution = .ready 0 ∧
          ∀ entry ∈ pool.idle, ¬entry.Fit (supply.healthy environment) pool.policy now

theorem List.mem_of_before_first {α : Type} {P : α → Prop} {above below front back : List α} {value first : α}
    (same : above ++ value :: below = front ++ first :: back) (passed : ∀ entry ∈ above, ¬P entry)
    (unfit : ¬P value) (fit : P first) : value ∈ front := by
  rcases List.append_eq_append_iff.1 same with ⟨between, rfl, rest⟩ | ⟨between, rfl, rest⟩
  · cases between with
    | nil =>
        obtain ⟨rfl, -⟩ := List.cons.inj rest
        exact absurd fit unfit
    | cons entry between =>
        obtain ⟨rfl, -⟩ := List.cons.inj rest
        simp
  · cases between with
    | nil =>
        obtain ⟨rfl, -⟩ := List.cons.inj rest
        exact absurd fit unfit
    | cons entry between =>
        obtain ⟨rfl, -⟩ := List.cons.inj rest
        exact absurd fit (passed first (by simp))

/-! ## The stack of a traffic -/

theorem Passage.stack {ρ : Type} {now : Instant} {pool next : Pool ρ} {before after : Standing ρ}
    {events : List (PoolEvent ρ)} (passage : Passage now pool before after next events) :
    next.idle <:+ pool.idle ∨
      ∃ lease, before = .holding lease ∧ next.idle = { lease with lastUsed := now } :: pool.idle := by
  cases passage with
  | stay | enter | sit | queue | claim | giveUp | connect | free => exact Or.inl (List.suffix_refl _)
  | take taken =>
      obtain ⟨above, below, stack, -, -, rfl, -⟩ := Pool.takeIdle_some taken
      rw [stack]
      exact Or.inl ((List.suffix_cons _ _).trans (List.suffix_append _ _))
  | miss missed =>
      obtain ⟨-, rfl, -⟩ := Pool.takeIdle_none missed
      exact Or.inl (List.nil_suffix)
  | finish healthy discard lease =>
      cases keeps : pool.keeps (!discard && healthy lease.resource) now lease with
      | true =>
          obtain ⟨next, outcome, rfl⟩ := Pool.takeBack_kept keeps
          rw [outcome]
          exact Or.inr ⟨lease, rfl, rfl⟩
      | false =>
          obtain ⟨next, event, outcome, rfl⟩ := Pool.takeBack_closed keeps
          rw [outcome]
          exact Or.inl (List.suffix_refl _)

namespace Traffic

variable {ε ρ κ : Type} {supply : Supply ε ρ κ} {t next : Traffic ε ρ κ}

structure Retired (t : Traffic ε ρ κ) (number : Nat) : Prop where
  closed : t.disposedNumbers.count number = 1
  away : number ∉ t.idleNumbers
  unheld : number ∉ t.heldNumbers

theorem Change.stack (change : t.Change supply next) :
    next.pool.idle <:+ t.pool.idle ∨
      ∃ (caller : Nat) (lent : Bool) (lease : Lease (Numbered ρ)),
        t.callers[caller]? = some (.holding lent lease) ∧ next.callers[caller]? = some .leaving ∧
          next.pool.idle = { lease with lastUsed := t.now } :: t.pool.idle := by
  have dropped (u : Traffic ε ρ κ) (number : Nat) (call : Acquisition κ) :
      (u.giveUp supply number call).pool.idle <:+ u.pool.idle := by
    have passage := call.abandon_passage supply.numbered u.now u.pool u.breaker u.world
    apply passage.stack.resolve_right
    rintro ⟨lease, holding, -⟩
    exact call.not_holding lease holding
  cases change with
  | nothing | join | arrive | leave | refuse | closeSlots | world => exact Or.inl (List.suffix_refl _)
  | drain => exact Or.inl List.nil_suffix
  | giveUp found => exact Or.inl (dropped _ _ _)
  | @advance number lent call cancelled found =>
      have passage := call.step_passage supply.numbered t.now cancelled t.pool t.breaker t.world
      have below : (t.after supply cancelled call).pool.idle <:+ t.pool.idle := by
        apply passage.stack.resolve_right
        rintro ⟨lease, holding, -⟩
        exact call.not_holding lease holding
      apply Or.inl
      rcases t.advance_cases supply number cancelled lent call with ⟨caller, same⟩ | same | same
      · rw [same]
        exact below
      · rw [same]
        exact below
      · rw [same]
        exact (dropped _ number call).trans below
  | @conclude number lent lease discard found =>
      obtain ⟨bound, -⟩ := List.getElem?_eq_some_iff.1 found
      have passage : Passage t.now t.pool (.holding lease) .leaving
          (t.conclude supply number discard lease).pool _ :=
        .finish (supply.numbered.healthy t.world) discard lease
      rcases passage.stack with below | ⟨_, ⟨⟩, pushed⟩
      · exact Or.inl below
      · exact Or.inr ⟨number, lent, lease, found, List.getElem?_set_self bound, pushed⟩

theorem perform_log (supply : Supply ε ρ κ) (t : Traffic ε ρ κ) (move : Move ε) :
    t.log <+: (t.perform supply move).log := by
  have change := t.perform_change supply move
  generalize t.perform supply move = next at change
  cases change with
  | nothing | join | arrive | world => exact List.prefix_rfl
  | @advance number lent call cancelled found =>
      rw [advance_log]
      exact List.prefix_append _ _
  | giveUp | conclude | leave | drain | refuse | closeSlots => exact List.prefix_append _ _

theorem disposed_stays {number : Nat} (disposed : number ∈ t.disposedNumbers) (moves : List (Move ε)) :
    number ∈ (t.run supply moves).disposedNumbers := by
  induction moves generalizing t with
  | nil => exact disposed
  | cons move moves ih =>
      apply ih
      obtain ⟨events, log⟩ := t.perform_log supply move
      rw [disposedNumbers, ← log, PoolEvent.disposals_append, List.map_append]
      exact List.mem_append_left _ disposed

theorem Retired.of_disposed {number : Nat}
    (distinct : (t.idleNumbers ++ t.heldNumbers ++ t.disposedNumbers).Nodup)
    (disposed : number ∈ t.disposedNumbers) : t.Retired number := by
  obtain ⟨-, once, apart⟩ := List.nodup_append.1 distinct
  refine ⟨List.count_eq_one_of_mem once disposed, fun idle => ?_, fun held => ?_⟩
  · exact apart number (List.mem_append_left _ idle) number disposed rfl
  · exact apart number (List.mem_append_right _ held) number disposed rfl

theorem conclude_broken {caller : Nat} {lease : Lease (Numbered ρ)} (discard : Bool)
    (broken : supply.healthy t.environment lease.resource.resource = false) :
    lease.resource.number ∈ (t.conclude supply caller discard lease).disposedNumbers := by
  have broken' : supply.numbered.healthy t.world lease.resource = false := broken
  have refused : t.pool.keeps (!discard && supply.numbered.healthy t.world lease.resource) t.now lease =
      false := by
    simp [Pool.keeps, broken']
  obtain ⟨event, outcome⟩ := conclude_closed caller refused
  rw [outcome]
  simp [disposedNumbers, PoolEvent.disposed?]

theorem seated_unfit {caller : Nat} {lent : Bool} (found : t.callers[caller]? = some (.acquiring lent .seated))
    (cancelled : Bool) {above below : List (Pooled (Numbered ρ))} {entry : Pooled (Numbered ρ)}
    (stack : t.pool.idle = above ++ entry :: below)
    (passed : ∀ other ∈ above, ¬other.Fit (supply.numbered.healthy t.world) t.pool.policy t.now)
    (unfit : ¬entry.Fit (supply.numbered.healthy t.world) t.pool.policy t.now) :
    entry.resource.number ∈ (t.perform supply (.step caller cancelled)).disposedNumbers := by
  obtain ⟨turn, rest, events, selection, outcome⟩ :=
    Acquisition.seated_selection supply.numbered t.now t.pool t.world
  have log : (t.perform supply (.step caller cancelled)).log = t.log ++ events := by
    simp only [perform, found]
    rw [advance_log, outcome]
  rw [disposedNumbers, log, PoolEvent.disposals_append, List.map_append]
  apply List.mem_append_right
  cases selection with
  | take stack' passed' fit closes =>
      rw [closes.disposed, List.map_map]
      exact List.mem_map_of_mem (List.mem_of_before_first (stack.symm.trans stack') passed unfit fit)
  | connect passed' closes =>
      rw [closes.disposed, List.map_map, stack]
      exact List.mem_map_of_mem (by simp)

structure ReusesInOrder (supply : Supply ε ρ κ) (t : Traffic ε ρ κ) : Prop where
  newest : t.pool.idle.Pairwise fun above below => below.lastUsed ≤ above.lastUsed
  stacked : ∀ move, (t.perform supply move).pool.idle <:+ t.pool.idle ∨
    ∃ (caller : Nat) (lent : Bool) (lease : Lease (Numbered ρ)),
      t.callers[caller]? = some (.holding lent lease) ∧
        (t.perform supply move).callers[caller]? = some .leaving ∧
        (t.perform supply move).pool.idle = { lease with lastUsed := t.now } :: t.pool.idle
  released : ∀ (caller : Nat) (lent : Bool) (lease : Lease (Numbered ρ)),
    t.callers[caller]? = some (.holding lent lease) →
    supply.healthy t.environment lease.resource.resource = false →
    ∀ move ∈ [Move.finish caller false, .finish caller true, .abandon caller], ∀ later,
      ((t.perform supply move).run supply later).Retired lease.resource.number
  examined : ∀ (caller : Nat) (lent cancelled : Bool),
    t.callers[caller]? = some (.acquiring lent .seated) →
    ∀ above entry below, t.pool.idle = above ++ entry :: below →
      (∀ other ∈ above, ¬other.Fit (fun made => supply.healthy t.environment made.resource)
        t.pool.policy t.now) →
      supply.healthy t.environment entry.resource.resource = false → ∀ later,
        ((t.perform supply (.step caller cancelled)).run supply later).Retired entry.resource.number

theorem run_distinct (supply : Supply ε ρ κ) (policy : PoolPolicy) (connect : Pipeline) (breaker : Breaker)
    (environment : ε) (moves : List (Move ε)) :
    let t := (start policy connect breaker environment : Traffic ε ρ κ).run supply moves
    (t.idleNumbers ++ t.heldNumbers ++ t.disposedNumbers).Nodup := by
  intro t
  have balanced : Balanced t.hall.pool t.hall.held t.hall.log :=
    (run_reached policy connect breaker environment moves).balanced
  have ordered : t.Ordered :=
    run_induction supply (P := Ordered) (fun _ _ change ordered => ordered.change change) moves _ rfl
  exact (numbers_perm balanced ordered).nodup_iff.2 List.nodup_range

theorem run_newest (supply : Supply ε ρ κ) (policy : PoolPolicy) (connect : Pipeline) (breaker : Breaker)
    (environment : ε) (moves : List (Move ε)) :
    ((start policy connect breaker environment : Traffic ε ρ κ).run supply moves).pool.idle.Pairwise
      fun above below => below.lastUsed ≤ above.lastUsed := by
  induction moves using List.reverseRecOn with
  | nil => exact List.Pairwise.nil
  | append_singleton moves move ih =>
      have stamped := run_stamped supply policy connect breaker environment moves
      rw [run_append]
      rcases (perform_change supply _ move).stack with below | ⟨caller, lent, lease, -, -, pushed⟩
      · exact ih.sublist below.sublist
      · change List.Pairwise _ (perform supply _ move).pool.idle
        rw [pushed]
        exact List.pairwise_cons.2 ⟨fun entry member => (stamped.idle entry member).past, ih⟩

theorem run_retired (supply : Supply ε ρ κ) (policy : PoolPolicy) (connect : Pipeline) (breaker : Breaker)
    (environment : ε) (moves : List (Move ε)) (move : Move ε) (later : List (Move ε)) {number : Nat} :
    let t := (start policy connect breaker environment : Traffic ε ρ κ).run supply moves
    number ∈ (t.perform supply move).disposedNumbers →
      ((t.perform supply move).run supply later).Retired number := by
  intro t disposed
  have distinct := run_distinct supply policy connect breaker environment (moves ++ move :: later)
  rw [run_append] at distinct
  exact .of_disposed distinct (disposed_stays disposed later)

/-- An acquire that has its slot hands out the resource that was returned last among those that are fit. It
closes what lies above, leaves what lies below, and asks neither the supply nor the breaker; it comes to
connect only when nothing idle is fit. A resource that was broken when it came back or when it was looked at
is closed and stays so. -/
theorem newest_fit_is_handed_out (supply : Supply ε ρ κ) :
    (∀ now pool environment, Acquisition.Selects supply now pool environment) ∧
      ∀ policy connect breaker environment moves,
        ((start policy connect breaker environment : Traffic ε ρ κ).run supply moves).ReusesInOrder supply := by
  constructor
  · intro now pool environment
    refine ⟨Acquisition.seated_selection supply now pool environment, fun cancelled breaker call before => ?_⟩
    exact Acquisition.connecting_begins supply now cancelled pool breaker environment before
  · intro policy connect breaker environment moves
    have newest := run_newest supply policy connect breaker environment moves
    have retired := @run_retired ε ρ κ supply policy connect breaker environment moves
    dsimp only at retired
    generalize (start policy connect breaker environment : Traffic ε ρ κ).run supply moves = t at newest retired
    refine ⟨newest, fun move => (t.perform_change supply move).stack, ?_, ?_⟩
    · intro caller lent lease found broken move ends later
      apply retired
      simp only [List.mem_cons, List.not_mem_nil, or_false] at ends
      rcases ends with rfl | rfl | rfl
      · simp only [perform, found]
        exact conclude_broken _ broken
      · simp only [perform, found]
        exact conclude_broken _ broken
      · simp only [perform, found]
        exact conclude_broken _ broken
    · intro caller lent cancelled found above entry below stack passed broken later
      apply retired
      refine seated_unfit found cancelled stack passed fun fit => ?_
      have healthy : supply.healthy t.environment entry.resource.resource = true := fit.healthy
      rw [broken] at healthy
      cases healthy

end Traffic

end Dispatch
