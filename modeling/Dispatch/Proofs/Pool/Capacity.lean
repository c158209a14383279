import Dispatch.Proofs.Pool.Ownership

set_option autoImplicit false

namespace Dispatch

namespace Standing

variable {ρ : Type}

/-- A slot in hand, and no resource that goes with it: one is about to be taken, or was put back. -/
def isBetween : Standing ρ → Bool
  | .seated | .leaving => true
  | _ => false

def isConnecting : Standing ρ → Bool
  | .connecting => true
  | _ => false

def occupies (slots : Slots) (standing : Standing ρ) : Bool :=
  standing.hasSlot || standing.ticket?.any (· ∈ slots.granted)

end Standing

theorem Multiset.countP_cons_toNat {α : Type} (test : α → Bool) (value : α) (values : Multiset α) :
    (value ::ₘ values).countP (test ·) = values.countP (test ·) + (test value).toNat := by
  rw [Multiset.countP_cons]
  cases test value <;> rfl

structure Seats {ρ : Type} (slots : Slots) (idle : Nat) (standings : Multiset (Standing ρ))
    (capacity : Nat) : Prop where
  whole : slots.available + standings.countP (·.hasSlot) = capacity
  serves : slots.Serves (standings.filterMap Standing.ticket?)
  room : idle ≤ slots.available + standings.countP (·.isBetween)

namespace Seats

variable {ρ : Type} {slots next : Slots} {idle idle' capacity : Nat} {before after : Standing ρ}
  {others : Multiset (Standing ρ)}

theorem move (seats : Seats slots idle (before ::ₘ others) capacity)
    (serves : slots.Serves ((before ::ₘ others).filterMap Standing.ticket?) →
      next.Serves ((after ::ₘ others).filterMap Standing.ticket?))
    (slot : next.available + after.hasSlot.toNat = slots.available + before.hasSlot.toNat)
    (resource : idle' = 0 ∨ idle' + slots.available + before.isBetween.toNat ≤
      idle + next.available + after.isBetween.toNat) :
    Seats next idle' (after ::ₘ others) capacity := by
  have whole := seats.whole
  have room := seats.room
  rw [Multiset.countP_cons_toNat] at whole room
  refine ⟨?_, serves seats.serves, ?_⟩
  · rw [Multiset.countP_cons_toNat]
    omega
  · rw [Multiset.countP_cons_toNat]
    omega

theorem pass (seats : Seats slots idle (before ::ₘ others) capacity)
    (unqueued : before.ticket? = none) (unqueued' : after.ticket? = none)
    (tickets : next.tickets = slots.tickets) (counter : next.nextTicket = slots.nextTicket)
    (slot : next.available + after.hasSlot.toNat = slots.available + before.hasSlot.toNat)
    (resource : idle' = 0 ∨ idle' + slots.available + before.isBetween.toNat ≤
      idle + next.available + after.isBetween.toNat) :
    Seats next idle' (after ::ₘ others) capacity := by
  refine seats.move (fun serves => ?_) slot resource
  rw [Multiset.filterMap_cons_none _ _ unqueued] at serves
  rw [Multiset.filterMap_cons_none _ _ unqueued']
  exact serves.of_eq tickets counter

end Seats

theorem Pool.takeBack_frame {ρ : Type} (pool : Pool ρ) (healthy : ρ → Bool) (discard : Bool)
    (now : Instant) (lease : Lease ρ) :
    (pool.takeBack healthy discard now lease).1.slots = pool.slots ∧
      (pool.takeBack healthy discard now lease).1.idle.length ≤ pool.idle.length + 1 := by
  unfold takeBack
  dsimp only
  split <;> simp

theorem Passage.idle_bound {ρ : Type} {now : Instant} {pool next : Pool ρ} {before after : Standing ρ}
    {events : List (PoolEvent ρ)} (passage : Passage now pool before after next events)
    (bound : pool.idle.length ≤ pool.policy.maxSize) : next.idle.length ≤ next.policy.maxSize := by
  cases passage with
  | stay | enter | sit | queue | claim | giveUp | connect | free => exact bound
  | take taken =>
      obtain ⟨unusable, rest, stack, -, -, rfl, -⟩ := Pool.takeIdle_some taken
      simp only [stack, List.length_append, List.length_cons] at bound
      dsimp only
      omega
  | miss missed =>
      obtain ⟨-, rfl, -⟩ := Pool.takeIdle_none missed
      exact Nat.zero_le _
  | finish healthy discard lease =>
      cases keeps : pool.keeps (!discard && healthy lease.resource) now lease with
      | true =>
          obtain ⟨next, outcome, rfl⟩ := Pool.takeBack_kept keeps
          rw [outcome]
          simp only [Pool.keeps, Bool.and_eq_true, decide_eq_true_eq] at keeps
          exact keeps.2
      | false =>
          obtain ⟨next, event, outcome, rfl⟩ := Pool.takeBack_closed keeps
          rw [outcome]
          exact bound

theorem Passage.seats {ρ : Type} {now : Instant} {pool next : Pool ρ} {before after : Standing ρ}
    {events : List (PoolEvent ρ)} (passage : Passage now pool before after next events)
    {others : Multiset (Standing ρ)} {slots : Slots} {capacity : Nat} (capped : pool.slots = some slots)
    (seats : Seats slots pool.idle.length (before ::ₘ others) capacity) :
    ∃ slots', next.slots = some slots' ∧
      Seats slots' next.idle.length (after ::ₘ others) capacity := by
  cases passage with
  | stay standing reports => exact ⟨slots, capped, seats⟩
  | enter advisory => rw [capped] at advisory; cases advisory
  | sit capped' taken =>
      obtain rfl := Option.some.inj (capped.symm.trans capped')
      obtain ⟨count, granted, line, counter⟩ := Slots.take?_some taken
      refine ⟨_, rfl, seats.pass rfl rfl ?_ counter ?_ ?_⟩
      · rw [Slots.tickets, granted, line, Slots.tickets]
      · simp [Standing.hasSlot]
        omega
      · simp [Standing.isBetween]
        omega
  | queue capped' =>
      obtain rfl := Option.some.inj (capped.symm.trans capped')
      refine ⟨_, rfl, seats.move (fun serves => ?_) rfl (Or.inr (Nat.le_refl _))⟩
      rw [Multiset.filterMap_cons_none _ _ rfl] at serves
      rw [Multiset.filterMap_cons_some Standing.ticket? _ _ rfl]
      exact serves.join
  | claim capped' claimed =>
      -- the slot was granted before; it changes from the stock to the caller
      obtain rfl := Option.some.inj (capped.symm.trans capped')
      obtain ⟨-, count, -, tickets, counter⟩ := Slots.claim?_some claimed
      refine ⟨_, rfl, seats.move (fun serves => ?_) ?_ ?_⟩
      · rw [Multiset.filterMap_cons_some Standing.ticket? _ _ rfl] at serves
        rw [Multiset.filterMap_cons_none _ _ rfl]
        exact serves.withdraw tickets counter
      · simp [Standing.hasSlot]
        omega
      · simp [Standing.isBetween]
        omega
  | giveUp ticket =>
      refine ⟨slots.leave ticket, by simp [Acquisition.leaveLine, capped], ?_⟩
      refine seats.move (fun serves => ?_) ?_ ?_
      · rw [Multiset.filterMap_cons_some Standing.ticket? _ _ rfl] at serves
        rw [Multiset.filterMap_cons_none _ _ rfl]
        exact serves.withdraw (Slots.leave_tickets slots ticket) (Slots.leave_nextTicket slots ticket)
      · simp [Standing.hasSlot]
      · simp [Standing.isBetween, Acquisition.leaveLine]
  | take taken =>
      obtain ⟨unusable, rest, stack, -, -, rfl, -⟩ := Pool.takeIdle_some taken
      -- one idle resource less makes up for the caller, which is between no longer
      refine ⟨slots, capped, seats.pass rfl rfl rfl rfl rfl ?_⟩
      simp [Standing.isBetween, stack]
      omega
  | miss missed =>
      obtain ⟨-, rfl, -⟩ := Pool.takeIdle_none missed
      exact ⟨slots, capped, seats.pass rfl rfl rfl rfl rfl (Or.inl rfl)⟩
  | connect resource reports => exact ⟨slots, capped, seats.pass rfl rfl rfl rfl rfl (Or.inr (Nat.le_refl _))⟩
  | finish healthy discard lease =>
      obtain ⟨same, room⟩ := pool.takeBack_frame healthy discard now lease
      refine ⟨slots, same.trans capped, seats.pass rfl rfl rfl rfl rfl ?_⟩
      simp [Standing.isBetween]
      omega
  | free reports seated unleased =>
      refine ⟨slots.give, by simp [Pool.freeSlot, capped], ?_⟩
      cases before with
      | outside => cases seated
      | queued ticket => cases seated
      | holding lease => cases unleased
      | seated | connecting | leaving =>
          refine seats.pass rfl rfl slots.give_tickets slots.give_nextTicket ?_ (Or.inr ?_)
          · simp [Standing.hasSlot]
          · simp only [Standing.isBetween, Pool.freeSlot, Slots.give_available, Bool.toNat_true,
              Bool.toNat_false]
            omega

theorem Passage.settings {ρ : Type} {now : Instant} {pool next : Pool ρ} {before after : Standing ρ}
    {events : List (PoolEvent ρ)} (passage : Passage now pool before after next events) :
    next.policy = pool.policy ∧ next.connect = pool.connect ∧ next.slots.isSome = pool.slots.isSome := by
  cases passage with
  | stay standing reports => exact ⟨rfl, rfl, rfl⟩
  | enter advisory => exact ⟨rfl, rfl, rfl⟩
  | sit capped taken => exact ⟨rfl, rfl, by simp [capped]⟩
  | queue capped => exact ⟨rfl, rfl, by simp [capped]⟩
  | claim capped claimed => exact ⟨rfl, rfl, by simp [capped]⟩
  | giveUp ticket => exact ⟨rfl, rfl, Option.isSome_map⟩
  | take taken =>
      obtain ⟨unusable, rest, -, -, -, rfl, -⟩ := Pool.takeIdle_some taken
      exact ⟨rfl, rfl, rfl⟩
  | miss missed =>
      obtain ⟨-, rfl, -⟩ := Pool.takeIdle_none missed
      exact ⟨rfl, rfl, rfl⟩
  | connect resource reports => exact ⟨rfl, rfl, rfl⟩
  | finish healthy discard lease =>
      unfold Pool.takeBack
      dsimp only
      split
      · exact ⟨rfl, rfl, rfl⟩
      · exact ⟨rfl, rfl, rfl⟩
  | free reports seated unleased => exact ⟨rfl, rfl, Option.isSome_map⟩

namespace Hall

variable {ρ : Type} {policy : PoolPolicy} {connect : Pipeline} {hall : Hall ρ}

theorem Reached.settings (reached : Reached policy connect hall) :
    hall.pool.policy = policy ∧ hall.pool.connect = connect ∧
      hall.pool.slots.isSome = decide (policy.sizePolicy = .capped) := by
  induction reached with
  | start =>
      refine ⟨rfl, rfl, ?_⟩
      simp only [Pool.new]
      cases policy.sizePolicy <;> rfl
  | step _ step ih =>
      cases step with
      | join | announce => exact ih
      | pass others log passage =>
          obtain ⟨policy', connect', slots'⟩ := passage.settings
          exact ⟨policy'.trans ih.1, connect'.trans ih.2.1, slots'.trans ih.2.2⟩
      | drain => exact ih
      | refuse => exact ih
      | closeSlots => exact ⟨ih.1, ih.2.1, Option.isSome_map.trans ih.2.2⟩

theorem Reached.unlimited (reached : Reached policy connect hall)
    (advisory : policy.sizePolicy = .advisory) : hall.pool.slots = none := by
  have slots := reached.settings.2.2
  rw [advisory] at slots
  simpa using slots

theorem Reached.seats (reached : Reached policy connect hall) (capped : policy.sizePolicy = .capped) :
    ∃ slots, hall.pool.slots = some slots ∧
      Seats slots hall.pool.idle.length hall.standings (min policy.maxSize Slots.limit) := by
  induction reached with
  | start =>
      refine ⟨.ofSize policy.maxSize, by simp [Pool.new, capped], ?_, ?_, Nat.zero_le _⟩
      · exact Slots.ofSize_available policy.maxSize
      · exact Slots.Serves.ofSize policy.maxSize
  | step _ step ih =>
      obtain ⟨slots, here, seats⟩ := ih
      cases step with
      | join pool standings log =>
          refine ⟨slots, here, ?_, ?_, ?_⟩
          · rw [Multiset.countP_cons_toNat]
            exact seats.whole
          · rw [Multiset.filterMap_cons_none _ _ rfl]
            exact seats.serves
          · rw [Multiset.countP_cons_toNat]
            exact seats.room
      | pass others log passage => exact passage.seats here seats
      | drain => exact ⟨slots, here, seats.whole, seats.serves, Nat.zero_le _⟩
      | refuse => exact ⟨slots, here, seats⟩
      | closeSlots =>
          refine ⟨slots.close, by simp [Pool.closeSlots, here], seats.whole, ?_, seats.room⟩
          exact seats.serves.close
      | announce => exact ⟨slots, here, seats⟩

theorem Reached.idle_bound (reached : Reached policy connect hall) :
    hall.pool.idle.length ≤ policy.maxSize := by
  induction reached with
  | start => exact Nat.zero_le _
  | step reached step ih =>
      cases step with
      | pass others log passage =>
          -- the bound is about the policy of the pool, which never changes
          have bound := passage.idle_bound (reached.settings.1.symm ▸ ih)
          rw [passage.settings.1, reached.settings.1] at bound
          exact bound
      | drain => exact Nat.zero_le _
      | join | announce | refuse | closeSlots => exact ih

/-! ## Where the slots are -/

theorem countP_hasSlot (standings : Multiset (Standing ρ)) :
    standings.countP (·.hasSlot) = standings.countP (·.isBetween) +
      standings.countP (·.isConnecting) + standings.countP (·.lease?.isSome) := by
  induction standings using Multiset.induction_on with
  | empty => rfl
  | cons standing standings ih =>
      simp only [Multiset.countP_cons_toNat, ih]
      cases standing <;> simp [Standing.hasSlot, Standing.isBetween, Standing.isConnecting,
        Standing.lease?] <;> omega

theorem countP_occupies {slots : Slots} (standings : Multiset (Standing ρ))
    (serves : slots.Serves (standings.filterMap Standing.ticket?)) :
    standings.countP (·.occupies slots) = standings.countP (·.hasSlot) + slots.granted.length := by
  rw [← serves.card_granted]
  clear serves
  induction standings using Multiset.induction_on with
  | empty => rfl
  | cons standing standings ih =>
      simp only [Multiset.countP_cons_toNat, ih]
      cases ticket : standing.ticket? with
      | none =>
          have same : standing.occupies slots = standing.hasSlot := by simp [Standing.occupies, ticket]
          rw [Multiset.filterMap_cons_none _ _ ticket, same]
          omega
      | some number =>
          have slotless : standing.hasSlot = false := by
            cases standing with
            | queued ticket => rfl
            | outside | seated | connecting | holding | leaving => cases ticket
          rw [Multiset.filterMap_cons_some _ _ _ ticket, slotless]
          by_cases granted : number ∈ slots.granted
          · have occupied : standing.occupies slots = true := by
              simp [Standing.occupies, ticket, granted]
            rw [Multiset.filter_cons_of_pos _ granted, Multiset.card_cons, occupied]
            rfl
          · have vacant : standing.occupies slots = false := by
              simp [Standing.occupies, ticket, granted, slotless]
            rw [Multiset.filter_cons_of_neg _ granted, vacant]
            rfl

theorem card_held (hall : Hall ρ) : hall.held.card = hall.standings.countP (·.lease?.isSome) := by
  obtain ⟨pool, standings, log⟩ := hall
  induction standings using Multiset.induction_on with
  | empty => rfl
  | cons standing standings ih =>
      rw [Multiset.countP_cons_toNat, ← ih]
      simp only [held, Multiset.map_cons, Multiset.sum_cons, Multiset.card_add, Standing.held]
      cases standing.lease? <;> simp [Nat.add_comm]

end Hall

/-! ## Within capacity -/

namespace Traffic

variable {ε ρ κ : Type} {supply : Supply ε ρ κ}

structure WithinCapacity (supply : Supply ε ρ κ) (t : Traffic ε ρ κ) (slots : Slots) (capacity : Nat) :
    Prop where
  capped : t.pool.slots = some slots
  bounded : t.pool.stats.idle + t.pool.stats.leased + t.callers.countP (·.standing.isConnecting) ≤
    capacity
  accounted : slots.free + t.callers.countP (·.standing.occupies slots) = capacity
  alive : t.pool.stats.created ≤ t.pool.stats.closed + capacity
  returned : ∀ (caller : Nat) (user : Caller (Numbered ρ) κ) (cancelled : Bool),
    t.callers[caller]? = some user → (∃ lent call, user = .acquiring lent call) →
    ∀ move ∈ [Move.step caller cancelled, .abandon caller],
      (t.perform supply move).callers[caller]? = some .away →
      (t.perform supply move).pool.slots.map Slots.available =
        some (slots.available + user.standing.hasSlot.toNat)
  kept : ∀ (caller : Nat) (lent : Bool) (lease : Lease (Numbered ρ)),
    t.callers[caller]? = some (.holding lent lease) →
    supply.healthy t.environment lease.resource.resource → t.pool.shutDown = false →
    lease.isExpired t.pool.policy t.now = false →
    ∀ move ∈ [Move.finish caller false, .abandon caller],
      (t.perform supply move).pool.idle = { lease with lastUsed := t.now } :: t.pool.idle ∧
      PoolEvent.disposals (t.perform supply move).log = PoolEvent.disposals t.log

theorem perform_callers (supply : Supply ε ρ κ) {t : Traffic ε ρ κ} {caller : Nat} {lent : Bool}
    {call : Acquisition κ} (found : t.callers[caller]? = some (.acquiring lent call))
    {cancelled : Bool} {move : Move ε}
    (own : move ∈ [Move.step caller cancelled, .abandon caller]) :
    ∃ user, (t.perform supply move).callers = t.callers.set caller user := by
  simp only [List.mem_cons, List.not_mem_nil, or_false] at own
  rcases own with rfl | rfl
  · simp only [perform, found]
    rcases t.advance_cases supply caller cancelled lent call with ⟨user, same⟩ | same | same
    · exact ⟨user, by rw [same]; rfl⟩
    · obtain ⟨bound, here⟩ := List.getElem?_eq_some_iff.1 found
      exact ⟨t.callers[caller], by rw [same, List.set_getElem_self]; rfl⟩
    · exact ⟨.away, by rw [same]; rfl⟩
  · simp only [perform, found]
    exact ⟨_, rfl⟩

theorem List.countP_set_add {α : Type} (test : α → Bool) {entries : List α} {i : Nat}
    (bound : i < entries.length) (entry : α) :
    (entries.set i entry).countP test + (test entries[i]).toNat =
      entries.countP test + (test entry).toNat := by
  have before := (List.getElem_cons_eraseIdx_perm bound).countP_eq test
  have after := (List.set_perm_cons_eraseIdx bound entry).countP_eq test
  rw [after, ← before, List.countP_cons, List.countP_cons]
  cases test entries[i] <;> cases test entry <;> simp

theorem countP_standing (test : Standing (Numbered ρ) → Bool) (t : Traffic ε ρ κ) :
    t.hall.standings.countP (test ·) = t.callers.countP (test ·.standing) := by
  simp [hall, List.countP_map, Function.comp_def]

theorem seats_count {t : Traffic ε ρ κ} {slots : Slots} {capacity : Nat}
    (seats : Seats slots t.pool.idle.length t.hall.standings capacity)
    (balanced : Balanced t.hall.pool t.hall.held t.hall.log) :
    t.pool.idle.length + t.pool.leased + t.callers.countP (·.standing.isConnecting) ≤ capacity ∧
      slots.free + t.callers.countP (·.standing.occupies slots) = capacity ∧
      slots.available + t.callers.countP (·.standing.hasSlot) = capacity ∧
      t.pool.created = t.pool.closed + t.pool.idle.length + t.pool.leased := by
  have whole := seats.whole
  have room := seats.room
  have parts := Hall.countP_hasSlot t.hall.standings
  have occupied := Hall.countP_occupies t.hall.standings seats.serves
  have leased : t.pool.leased = t.hall.standings.countP (·.lease?.isSome) :=
    balanced.leased.trans (Hall.card_held t.hall)
  have total := congrArg Multiset.card balanced.places
  simp only [Multiset.card_add, Multiset.coe_card, List.length_map] at total
  have leased' : t.pool.leased = t.hall.held.card := balanced.leased
  have created : t.pool.created = _ := balanced.created
  have closed : t.pool.closed = _ := balanced.closed
  have idle : t.hall.pool.idle.length = t.pool.idle.length := rfl
  rw [← countP_standing, ← countP_standing, ← countP_standing]
  simp only [Slots.available] at whole room ⊢
  exact ⟨by omega, by omega, by omega, by omega⟩

theorem leased_count {t : Traffic ε ρ κ} (balanced : Balanced t.hall.pool t.hall.held t.hall.log) :
    t.pool.leased = t.callers.countP (·.standing.lease?.isSome) :=
  balanced.leased.trans ((Hall.card_held t.hall).trans (countP_standing _ t))

theorem within_capacity {t : Traffic ε ρ κ} {policy : PoolPolicy} {connect : Pipeline}
    (reached : Hall.Reached policy connect t.hall) (kind : policy.sizePolicy = .capped) :
    ∃ slots, t.WithinCapacity supply slots (min policy.maxSize Slots.limit) := by
  obtain ⟨slots, capped, seats⟩ := reached.seats kind
  obtain ⟨bounded, accounted, inHand, alive⟩ := seats_count seats reached.balanced
  refine ⟨slots, capped, bounded, accounted, ?_, ?_, ?_⟩
  · simp only [Pool.stats]
    omega
  · rintro caller _ cancelled found ⟨lent, call, rfl⟩ move own gone
    -- the capacity is the same before and after, and only this caller's slot can have moved
    have reached' : Hall.Reached policy connect (t.perform supply move).hall :=
      Hall.reached_of_steps reached (t.perform_change supply move).steps
    obtain ⟨slots', capped', seats'⟩ := reached'.seats kind
    obtain ⟨-, -, inHand', -⟩ := seats_count seats' reached'.balanced
    obtain ⟨user, callers⟩ := perform_callers supply found own
    obtain ⟨bound, here⟩ := List.getElem?_eq_some_iff.1 found
    rw [callers, List.getElem?_set_self bound] at gone
    obtain rfl := Option.some.inj gone
    have others := List.countP_set_add (·.standing.hasSlot) bound (Caller.away : Caller (Numbered ρ) κ)
    have nowhere : (Caller.away : Caller (Numbered ρ) κ).standing.hasSlot = false := rfl
    rw [← callers, here, nowhere, Bool.toNat_false] at others
    change (t.perform supply move).pool.slots = some slots' at capped'
    rw [capped', Option.map_some]
    exact congrArg some (by omega)
  · intro caller lent lease found healthy unshut fresh move own
    -- this lease takes one of the slots, so at least one idle place is left
    have leased := leased_count reached.balanced
    have holds : 0 < t.callers.countP (·.standing.lease?.isSome) :=
      List.countP_pos_iff.2 ⟨_, List.mem_of_getElem? found, rfl⟩
    have room : t.pool.idle.length < t.pool.policy.maxSize := by
      have policy' : t.pool.policy = policy := reached.settings.1
      rw [policy']
      omega
    have keeps : t.pool.keeps (!false && supply.numbered.healthy t.world lease.resource) t.now lease =
        true := by
      simp [Pool.keeps, Supply.numbered, world, healthy, unshut, fresh, room]
    rw [perform_end found own, conclude_kept caller keeps]
    exact ⟨rfl, by simp [PoolEvent.disposed?]⟩

/-- A pool that is capped never has more resources alive than slots, and each of its slots is free or
somebody's; an advisory one bounds what is idle. -/
theorem capacity_respected (supply : Supply ε ρ κ) (policy : PoolPolicy) (connect : Pipeline)
    (breaker : Breaker) (environment : ε) (moves : List (Move ε)) :
    let t := (start policy connect breaker environment : Traffic ε ρ κ).run supply moves
    match policy.sizePolicy with
    | .capped => ∃ slots, t.WithinCapacity supply slots (min policy.maxSize Slots.limit)
    | .advisory => t.pool.slots = none ∧ t.pool.stats.idle ≤ policy.maxSize := by
  have reached : Hall.Reached policy connect
      ((start policy connect breaker environment : Traffic ε ρ κ).run supply moves).hall :=
    run_reached policy connect breaker environment moves
  cases kind : policy.sizePolicy with
  | advisory => exact ⟨reached.unlimited kind, reached.idle_bound⟩
  | capped => exact within_capacity reached kind

end Traffic

end Dispatch
