import Dispatch.Proofs.Breaker.History
import Dispatch.Proofs.Pool.Line

/-!
# Waiting for a slot

A caller of a capped pool `Waits` while every slot is somebody else's. A caller whose time is up has
waited ever since it came: `Waited` follows it back to the step in which it took its ticket. The pool
serves its callers in turn (`ServesInTurn`): whoever gets a slot came before all that still wait, and who
leaves the line takes no slot away. A supply may fail as if a pool were exhausted, and an acquire passes
that on, too.
-/

set_option autoImplicit false

namespace Dispatch

def PoolPolicy.capped (policy : PoolPolicy) : PoolPolicy := { policy with sizePolicy := .capped }

def PoolPolicy.capacity (policy : PoolPolicy) : Nat := min policy.maxSize Slots.limit

theorem Supply.numbered_error {ε ρ κ : Type} {supply : Supply ε ρ κ} {now : Instant} {world : ε × Nat}
    {call : κ} {failure : Failure}
    (given : (supply.numbered.create.step now world call).1 = .finished (.error failure)) :
    (supply.create.step now world.1 call).1 = .finished (.error failure) := by
  simp only [numbered] at given
  split at given
  · cases given
  · rename_i cause environment outcome
    rw [outcome]
    cases given
    rfl
  · cases given
  · cases given
  · cases given

def Supply.exhausted : Supply Unit Unit Unit where
  create :=
    { start := ()
      step := fun _ _ _ => (.finished (.error .poolExhausted), ())
      abandon := fun _ _ => () }
  healthy _ _ := true

namespace Acquisition

variable {ε ρ κ : Type} {supply : Supply ε ρ κ} {now : Instant} {cancelled : Bool} {pool : Pool ρ}
  {slots : Slots} {breaker : Breaker} {environment : ε} {call : Acquisition κ} {ticket : Ticket}
  {deadline : Instant}

theorem step_queued (queues : (call.step supply now cancelled pool breaker environment).turn =
      .moved (.queued ticket deadline)) :
    call = .arriving ∧ deadline = now + pool.policy.acquireTimeout ∧
      ∃ slots, pool.slots = some slots ∧ slots.take? = none ∧ ticket = slots.nextTicket := by
  cases call with
  | arriving =>
      simp only [step] at queues
      split at queues
      · cases queues
      · split at queues
        · cases queues
        · split at queues
          · cases queues
          · rename_i slots capped
            split at queues
            · cases queues
            · rename_i refused
              cases queues
              exact ⟨rfl, rfl, slots, capped, refused, rfl⟩
  | queued ticket' deadline' =>
      simp only [step] at queues
      split at queues
      · cases queues
      · split at queues
        · cases queues
        · split at queues
          · cases queues
          · split at queues
            · cases queues
            · split at queues <;> cases queues
  | seated =>
      simp only [step] at queues
      split at queues <;> cases queues
  | connecting execution =>
      simp only [step] at queues
      split at queues <;> cases queues

theorem step_in_line (capped : pool.slots = some slots) :
    step supply now cancelled pool breaker environment (.queued ticket deadline) =
      let stop (failure : Failure) : Outcome ε ρ κ :=
        { turn := .finished (.error failure), pool := leaveLine pool ticket, breaker, environment, events := [] }
      if cancelled then stop .cancelled
      else if slots.closed then stop .poolClosed
      else if ticket ∈ slots.granted then
        { turn := .moved .seated
          pool := { pool with slots := some { slots with granted := slots.granted.erase ticket } }
          breaker, environment, events := [] }
      else if deadline ≤ now then stop .poolExhausted
      else { turn := .blocked (some deadline), pool, breaker, environment, events := [] } := by
  by_cases granted : ticket ∈ slots.granted
  · simp only [step, capped, Slots.claim?, granted, if_true]
  · simp only [step, capped, Slots.claim?, granted, if_false]

theorem step_in_line_cases (capped : pool.slots = some slots) :
    let next := step supply now cancelled pool breaker environment (.queued ticket deadline)
    (∃ failure, next = { turn := .finished (.error failure), pool := leaveLine pool ticket, breaker, environment
                         events := [] }) ∨
      next.turn = .moved .seated ∨ next.turn = .blocked (some deadline) := by
  intro next
  have same : next = _ := step_in_line capped
  rw [same]
  split
  · exact Or.inl ⟨_, rfl⟩
  · split
    · exact Or.inl ⟨_, rfl⟩
    · split
      · exact Or.inr (Or.inl rfl)
      · split
        · exact Or.inl ⟨_, rfl⟩
        · exact Or.inr (Or.inr rfl)

theorem step_seated (capped : pool.slots = some slots)
    (sits : (call.step supply now cancelled pool breaker environment).turn = .moved .seated) :
    call = .arriving ∧ (∃ next, slots.take? = some next) ∨
      ∃ ticket deadline, call = .queued ticket deadline ∧ ticket ∈ slots.granted := by
  cases call with
  | arriving =>
      simp only [step, capped] at sits
      split at sits
      · cases sits
      · split at sits
        · cases sits
        · split at sits
          · rename_i next taken
            exact Or.inl ⟨rfl, next, taken⟩
          · cases sits
  | queued ticket deadline =>
      rw [step_in_line capped] at sits
      split at sits
      · cases sits
      · split at sits
        · cases sits
        · split at sits
          · rename_i granted
            exact Or.inr ⟨ticket, deadline, rfl, granted⟩
          · split at sits <;> cases sits
  | seated =>
      simp only [step] at sits
      split at sits <;> cases sits
  | connecting execution =>
      simp only [step] at sits
      split at sits <;> cases sits

theorem step_exhausted (capped : pool.slots = some slots)
    (ends : (call.step supply now cancelled pool breaker environment).turn = .finished (.error .poolExhausted)) :
    (∃ ticket deadline, call = .queued ticket deadline ∧ slots.closed = false ∧ ticket ∉ slots.granted ∧
        deadline ≤ now) ∨
      ∃ attempt permit creation, call = .connecting (.trying attempt permit creation) ∧
        (supply.create.step now environment creation).1 = .finished (.error .poolExhausted) := by
  cases call with
  | arriving =>
      simp only [step, capped] at ends
      split at ends
      · cases ends
      · split at ends
        · cases ends
        · split at ends <;> cases ends
  | queued ticket deadline =>
      rw [step_in_line capped] at ends
      split at ends
      · cases ends
      · split at ends
        · cases ends
        · rename_i unclosed
          split at ends
          · cases ends
          · rename_i ungranted
            split at ends
            · rename_i late
              exact Or.inl ⟨ticket, deadline, rfl, Bool.not_eq_true _ ▸ unclosed, ungranted, late⟩
            · cases ends
  | seated =>
      simp only [step] at ends
      split at ends <;> cases ends
  | connecting execution =>
      simp only [step] at ends
      split at ends
      · cases ends
      · cases ends
      · cases ends
      · rename_i failure failed
        cases ends
        cases Execution.step_fails pool.connect supply.create now breaker environment failed with
        | refused made refused => cases Breaker.request_error refused
        | failed attempt permit given => exact Or.inr ⟨attempt, permit, _, rfl, given⟩
      · cases ends

end Acquisition

namespace Traffic

variable {ε ρ κ : Type} {supply : Supply ε ρ κ} {t : Traffic ε ρ κ} {caller : Nat} {lent : Bool}
  {ticket : Ticket} {deadline : Instant} {slots : Slots}

structure Waits (t : Traffic ε ρ κ) (caller : Nat) (ticket : Ticket) (deadline : Instant) (capacity : Nat) :
    Prop where
  queued : ∃ lent, t.callers[caller]? = some (.acquiring lent (.queued ticket deadline))
  full : ∃ slots, t.pool.slots = some slots ∧ ticket ∈ slots.line ∧ ticket ∉ slots.granted ∧ slots.free = 0 ∧
    t.callers.countP (·.standing.occupies slots) = capacity

/-- The caller came with the moves `before`, found no slot, and has waited through `during`. -/
structure Waited (supply : Supply ε ρ κ) (origin : Traffic ε ρ κ) (policy : PoolPolicy) (caller : Nat)
    (ticket : Ticket) (deadline : Instant) (before : List (Move ε)) (cancelled : Bool)
    (during : List (Move ε)) : Prop where
  arrived : ∃ lent, (origin.run supply before).callers[caller]? = some (.acquiring lent .arriving)
  timed : deadline = (origin.run supply before).now + policy.acquireTimeout
  along : ∀ first, first <+: during →
    (origin.run supply (before ++ .step caller cancelled :: first)).Waits caller ticket deadline policy.capacity

/-- No time passes beyond the deadline of a caller in line before that caller had its turn. -/
def Punctual (supply : Supply ε ρ κ) (origin : Traffic ε ρ κ) (moves : List (Move ε)) : Prop :=
  ∀ before duration, before ++ [.elapse duration] <+: moves →
    ∀ (caller : Nat) (lent : Bool) (ticket : Ticket) (deadline : Instant),
      (origin.run supply before).callers[caller]? = some (.acquiring lent (.queued ticket deadline)) →
      (origin.run supply before).now + duration ≤ deadline

def TimedOut (supply : Supply ε ρ κ) (origin : Traffic ε ρ κ) (moves : List (Move ε)) (policy : PoolPolicy)
    (caller : Nat) : Prop :=
  ∃ ticket deadline before cancelled during, moves = before ++ .step caller cancelled :: during ∧
    Waited supply origin policy caller ticket deadline before cancelled during ∧
    deadline ≤ (origin.run supply moves).now ∧
    (Punctual supply origin moves → (origin.run supply moves).now = deadline)

theorem mem_waiting {user : Caller (Numbered ρ) κ} (found : t.callers[caller]? = some user)
    (holds : user.standing.ticket? = some ticket) : ticket ∈ t.waiting :=
  (Multiset.mem_filterMap _ _).2 ⟨user.standing, List.mem_map_of_mem (List.mem_of_getElem? found), holds⟩

structure Orderly (t : Traffic ε ρ κ) (policy : PoolPolicy) (slots : Slots) : Prop where
  reached : ∃ connect, Hall.Reached policy.capped connect t.hall
  capped : t.pool.slots = some slots
  turn : slots.InTurn t.waiting

theorem run_orderly (supply : Supply ε ρ κ) (policy : PoolPolicy) (connect : Pipeline) (breaker : Breaker)
    (environment : ε) (moves : List (Move ε)) :
    ∃ slots, ((start policy.capped connect breaker environment : Traffic ε ρ κ).run supply moves).Orderly
      policy slots := by
  obtain ⟨slots, capped, turn⟩ :=
    run_inTurn supply policy.capped rfl connect breaker environment moves
  exact ⟨slots, ⟨connect, run_reached policy.capped connect breaker environment moves⟩, capped, turn⟩

theorem Orderly.waits {policy : PoolPolicy} (orderly : t.Orderly policy slots)
    (found : t.callers[caller]? = some (.acquiring lent (.queued ticket deadline)))
    (line : ticket ∈ slots.line) : t.Waits caller ticket deadline policy.capacity := by
  obtain ⟨connect, reached⟩ := orderly.reached
  obtain ⟨slots', capped, seats⟩ := reached.seats rfl
  obtain rfl : slots = slots' := Option.some.inj (orderly.capped.symm.trans capped)
  obtain ⟨-, accounted, -, -⟩ := seats_count seats reached.balanced
  have free : slots.free = 0 := orderly.turn.busy (List.ne_nil_of_mem line)
  have ungranted : ticket ∉ slots.granted := fun granted =>
    (List.nodup_append.1 orderly.turn.serves.once).2.2 ticket granted ticket line rfl
  refine ⟨⟨lent, found⟩, slots, capped, line, ungranted, free, ?_⟩
  rw [free, Nat.zero_add] at accounted
  exact accounted

/-! ### How a caller came to wait -/

theorem advance_callers (supply : Supply ε ρ κ) (t : Traffic ε ρ κ) {number : Nat} {lent : Bool}
    {call : Acquisition κ} (found : t.callers[number]? = some (.acquiring lent call)) (cancelled : Bool) :
    ∃ user, (t.advance supply number cancelled lent call).callers = t.callers.set number user ∧
      ∀ kind after, user = .acquiring kind after → kind = lent ∧ (after = call ∨
        (call.step supply.numbered t.now cancelled t.pool t.breaker t.world).turn = .moved after) := by
  unfold advance
  dsimp only
  split
  · exact ⟨_, rfl, fun _ _ same => by cases same⟩
  · exact ⟨_, rfl, fun _ _ same => by cases same⟩
  · rename_i after turn
    refine ⟨_, rfl, fun kind other same => ?_⟩
    cases same
    exact ⟨rfl, Or.inr turn⟩
  · refine ⟨.acquiring lent call, ?_, fun kind other same => ?_⟩
    · obtain ⟨bound, here⟩ := List.getElem?_eq_some_iff.1 found
      rw [← here, List.set_getElem_self]
      rfl
    · cases same
      exact ⟨rfl, Or.inl rfl⟩
  · exact ⟨_, rfl, fun _ _ same => by cases same⟩

theorem queued_before {move : Move ε}
    (found : (t.perform supply move).callers[caller]? = some (.acquiring lent (.queued ticket deadline))) :
    t.callers[caller]? = some (.acquiring lent (.queued ticket deadline)) ∨
      ∃ cancelled, move = .step caller cancelled ∧ t.callers[caller]? = some (.acquiring lent .arriving) ∧
        deadline = t.now + t.pool.policy.acquireTimeout := by
  have settled {number : Nat} {user : Caller (Numbered ρ) κ}
      (set : (t.callers.set number user)[caller]? = some (.acquiring lent (.queued ticket deadline)))
      (other : user ≠ .acquiring lent (.queued ticket deadline)) :
      t.callers[caller]? = some (.acquiring lent (.queued ticket deadline)) := by
    rcases getElem?_set_cases set with ⟨-, same⟩ | ⟨-, before⟩
    · exact absurd same.symm other
    · exact before
  cases move with
  | join =>
      rcases getElem?_concat_cases found with before | ⟨-, same⟩
      · exact Or.inl before
      · cases same
  | arrive number kind =>
      simp only [perform] at found
      split at found
      · exact Or.inl (settled found (by simp))
      · exact Or.inl found
  | step number cancelled =>
      simp only [perform] at found
      split at found
      · rename_i kind call here
        obtain ⟨user, callers, origin⟩ := t.advance_callers supply here cancelled
        rw [callers] at found
        rcases getElem?_set_cases found with ⟨rfl, same⟩ | ⟨-, before⟩
        · obtain ⟨rfl, rfl | moved⟩ := origin _ _ same.symm
          · exact Or.inl here
          · obtain ⟨rfl, deadline', -⟩ := Acquisition.step_queued moved
            exact Or.inr ⟨cancelled, rfl, here, deadline'⟩
        · exact Or.inl before
      · exact Or.inl found
  | abandon number =>
      simp only [perform] at found
      split at found
      · exact Or.inl (settled found (by simp))
      · exact Or.inl (settled found (by simp))
      · exact Or.inl found
  | finish number discard =>
      simp only [perform] at found
      split at found
      · exact Or.inl (settled found (by simp))
      · exact Or.inl found
  | leave number =>
      simp only [perform] at found
      split at found
      · exact Or.inl (settled found (by simp))
      · exact Or.inl found
  | drain | refuse | closeSlots | elapse | disturb | share => exact Or.inl found

theorem perform_now (supply : Supply ε ρ κ) (t : Traffic ε ρ κ) {move : Move ε}
    (timeless : ∀ duration, move ≠ .elapse duration) : (t.perform supply move).now = t.now := by
  cases move with
  | elapse duration => exact absurd rfl (timeless duration)
  | step number cancelled =>
      simp only [perform]
      split
      · rename_i kind call found
        rcases t.advance_cases supply number cancelled kind call with ⟨user, same⟩ | same | same
        · rw [same]
          rfl
        · rw [same]
          rfl
        · rw [same]
          rfl
      · rfl
  | abandon number =>
      simp only [perform]
      split <;> rfl
  | arrive | finish | leave =>
      simp only [perform]
      split <;> rfl
  | join | drain | refuse | closeSlots | disturb | share => rfl

/-! ### Whole waits -/

section Runs

variable {origin : Traffic ε ρ κ} {policy : PoolPolicy} {moves : List (Move ε)}

theorem Orderly.line_before {next : Slots} (orderly : t.Orderly policy slots) {move : Move ε}
    (orderly' : (t.perform supply move).Orderly policy next)
    (found : t.callers[caller]? = some (.acquiring lent (.queued ticket deadline)))
    (line : ticket ∈ next.line) : ticket ∈ slots.line := by
  obtain ⟨slots', capped, steps⟩ := (t.perform_change supply move).queue orderly.capped
  obtain rfl : next = slots' := Option.some.inj (orderly'.capped.symm.trans capped)
  have old := orderly.turn.serves.old ticket (mem_waiting found rfl)
  exact (Queue.line_of_steps steps).2 ticket line old

theorem run_waited (sound : ∀ moves, ∃ slots, (origin.run supply moves).Orderly policy slots)
    (orderly : (origin.run supply moves).Orderly policy slots)
    (fresh : ∀ caller : Nat, origin.callers[caller]? = none)
    (found : (origin.run supply moves).callers[caller]? = some (.acquiring lent (.queued ticket deadline)))
    (line : ticket ∈ slots.line) :
    ∃ before cancelled during, moves = before ++ .step caller cancelled :: during ∧
      Waited supply origin policy caller ticket deadline before cancelled during := by
  induction moves using List.reverseRecOn generalizing slots with
  | nil =>
      rw [show origin.run supply [] = origin from rfl, fresh] at found
      cases found
  | append_singleton moves move ih =>
      have waits := orderly.waits found line
      rw [run_append] at orderly found
      change ((origin.run supply moves).perform supply move).Orderly policy slots at orderly
      obtain ⟨slots', orderly'⟩ := sound moves
      rcases queued_before found with before | ⟨cancelled, rfl, arriving, timed⟩
      · obtain ⟨first, cancelled, during, rfl, waited⟩ :=
          ih orderly' before (orderly'.line_before orderly before line)
        refine ⟨first, cancelled, during ++ [move], by simp, waited.arrived, waited.timed, fun part within => ?_⟩
        rcases List.prefix_concat_iff.1 within with rfl | earlier
        · simpa using waits
        · exact waited.along part earlier
      · obtain ⟨connect, reached⟩ := orderly'.reached
        refine ⟨moves, cancelled, [], rfl, ⟨lent, arriving⟩, ?_, fun part within => ?_⟩
        · rw [timed, show (origin.run supply moves).pool.policy = policy.capped from reached.settings.1]
          rfl
        · obtain rfl := List.prefix_nil.1 within
          exact waits

theorem Punctual.now_le (punctual : Punctual supply origin moves)
    (fresh : ∀ caller : Nat, origin.callers[caller]? = none)
    (found : (origin.run supply moves).callers[caller]? = some (.acquiring lent (.queued ticket deadline))) :
    (origin.run supply moves).now ≤ deadline := by
  induction moves using List.reverseRecOn with
  | nil =>
      rw [show origin.run supply [] = origin from rfl, fresh] at found
      cases found
  | append_singleton moves move ih =>
      rw [run_append] at found ⊢
      change ((origin.run supply moves).perform supply move).now ≤ deadline
      have timeless (unmoved : ∀ duration, move ≠ .elapse duration) :=
        perform_now supply (origin.run supply moves) unmoved
      rcases queued_before found with before | ⟨cancelled, rfl, -, timed⟩
      · by_cases elapses : ∃ duration, move = .elapse duration
        · obtain ⟨duration, rfl⟩ := elapses
          exact punctual moves duration (List.prefix_refl _) _ _ _ _ before
        · rw [timeless fun duration same => elapses ⟨duration, same⟩]
          refine ih (fun first duration within => ?_) before
          exact punctual first duration (within.trans (List.prefix_append _ _))
      · rw [timeless (by simp), timed]
        exact Nat.le_add_right _ _

end Runs

/-! ### Leaving the line -/

theorem leave_line (capped : t.pool.slots = some slots)
    (found : t.callers[caller]? = some (.acquiring lent (.queued ticket deadline))) {cancelled : Bool}
    {move : Move ε} (own : move ∈ [Move.step caller cancelled, .abandon caller])
    (gone : (t.perform supply move).callers[caller]? = some .away) :
    t.perform supply move =
      { t.setCaller caller .away with pool := { t.pool with slots := some (slots.leave ticket) } } := by
  obtain ⟨bound, -⟩ := List.getElem?_eq_some_iff.1 found
  have left : Acquisition.leaveLine t.pool ticket = { t.pool with slots := some (slots.leave ticket) } := by
    simp [Acquisition.leaveLine, capped]
  simp only [List.mem_cons, List.not_mem_nil, or_false] at own
  rcases own with rfl | rfl
  · simp only [perform, found, advance] at gone ⊢
    rcases Acquisition.step_in_line_cases (κ := κ) capped with ⟨failure, stops⟩ | sits | blocks
    · have pool : (t.after supply cancelled (.queued ticket deadline)).pool = _ :=
        congrArg Acquisition.Outcome.pool stops
      obtain ⟨rest, same⟩ := @after_unseated ε ρ κ supply t cancelled (.queued ticket deadline) rfl
      rw [same, left] at pool
      rw [stops, same]
      exact congrArg (fun pool => { t.setCaller caller .away with pool }) pool
    · rw [sits] at gone
      simp [setCaller, bound, after, become] at gone
    · rw [blocks] at gone
      simp [after, become, found] at gone
  · simp only [perform, found, giveUp, Acquisition.abandon, left]
    simp [become, setCaller, world]

/-! ### Slots go in turn -/

structure ServesInTurn (supply : Supply ε ρ κ) (t : Traffic ε ρ κ) (policy : PoolPolicy) (slots : Slots) :
    Prop where
  capped : t.pool.slots = some slots
  unhindered : ∀ (caller : Nat) (lent : Bool) (ticket : Ticket) (deadline : Instant),
    t.callers[caller]? = some (.acquiring lent (.queued ticket deadline)) → slots.closed = false →
    ticket ∈ slots.granted ∨ t.Waits caller ticket deadline policy.capacity
  answered : ∀ (caller : Nat) (lent cancelled : Bool) (ticket : Ticket) (deadline : Instant),
    t.callers[caller]? = some (.acquiring lent (.queued ticket deadline)) →
    slots.closed = true ∨ ticket ∈ slots.granted →
    (Acquisition.step supply.numbered t.now cancelled t.pool t.breaker t.world (.queued ticket deadline)).turn =
      if cancelled then .finished (.error .cancelled)
      else if slots.closed then .finished (.error .poolClosed) else .moved .seated
  inOrder : ∀ (caller : Nat) (ticket : Ticket) (deadline : Instant),
    t.Waits caller ticket deadline policy.capacity →
    ∀ (other : Nat) (lent cancelled : Bool) (call : Acquisition κ),
      t.callers[other]? = some (.acquiring lent call) →
      (call.step supply.numbered t.now cancelled t.pool t.breaker t.world).turn = .moved .seated →
      ∃ earlier due, call = .queued earlier due ∧ earlier < ticket
  numbered : ∀ (caller : Nat) (lent cancelled : Bool) (call : Acquisition κ) (ticket : Ticket)
    (deadline : Instant), t.callers[caller]? = some (.acquiring lent call) →
    (call.step supply.numbered t.now cancelled t.pool t.breaker t.world).turn =
      .moved (.queued ticket deadline) →
    call = .arriving ∧ deadline = t.now + policy.acquireTimeout ∧
      ∀ (other : Nat) (lent : Bool) (earlier : Ticket) (due : Instant),
        t.callers[other]? = some (.acquiring lent (.queued earlier due)) → earlier < ticket
  withdrawn : ∀ (caller : Nat) (lent cancelled : Bool) (ticket : Ticket) (deadline : Instant),
    t.callers[caller]? = some (.acquiring lent (.queued ticket deadline)) →
    ∀ move ∈ [Move.step caller cancelled, .abandon caller],
      (t.perform supply move).callers[caller]? = some .away →
      ∃ rest : Slots, t.perform supply move =
          { t.setCaller caller .away with pool := { t.pool with slots := some rest } } ∧
        rest.available = slots.available ∧ rest.tickets = slots.tickets.erase ticket

theorem Orderly.servesInTurn {policy : PoolPolicy} (orderly : t.Orderly policy slots) :
    t.ServesInTurn supply policy slots := by
  have turn := orderly.turn
  refine ⟨orderly.capped, ?_, ?_, ?_, ?_, ?_⟩
  · intro caller lent ticket deadline found unclosed
    have awaited := turn.awaited unclosed ticket (mem_waiting found rfl)
    rcases List.mem_append.1 awaited with granted | line
    · exact Or.inl granted
    · exact Or.inr (orderly.waits found line)
  · intro caller lent cancelled ticket deadline found ready
    rw [Acquisition.step_in_line orderly.capped]
    cases cancelled with
    | true => rfl
    | false =>
        cases closed : slots.closed with
        | true => rfl
        | false =>
            have granted : ticket ∈ slots.granted := ready.resolve_left (by simp [closed])
            simp only [Bool.false_eq_true, granted, if_true, if_false]
  · rintro caller ticket deadline ⟨-, slots', capped, line, -, free, -⟩ other lent cancelled call found sits
    obtain rfl : slots = slots' := Option.some.inj (orderly.capped.symm.trans capped)
    rcases Acquisition.step_seated orderly.capped sits with ⟨-, next, taken⟩ | ⟨earlier, due, rfl, granted⟩
    · exact absurd free (Nat.ne_of_gt (Slots.take?_some_free taken).2.1)
    · exact ⟨earlier, due, rfl, (List.pairwise_append.1 turn.ascending).2.2 earlier granted ticket line⟩
  · intro caller lent cancelled call ticket deadline found queues
    obtain ⟨connect, reached⟩ := orderly.reached
    obtain ⟨rfl, timed, slots', capped, -, rfl⟩ := Acquisition.step_queued queues
    obtain rfl : slots = slots' := Option.some.inj (orderly.capped.symm.trans capped)
    refine ⟨rfl, ?_, fun other lent earlier due queued => turn.serves.old earlier (mem_waiting queued rfl)⟩
    rw [timed, show t.pool.policy = policy.capped from reached.settings.1]
    rfl
  · intro caller lent cancelled ticket deadline found move own gone
    refine ⟨slots.leave ticket, leave_line orderly.capped found own gone, ?_, ?_⟩
    · exact slots.leave_available ticket
    · exact slots.leave_tickets ticket

def SupplyExhausted (supply : Supply ε ρ κ) (t : Traffic ε ρ κ) (call : Acquisition κ) : Prop :=
  ∃ attempt permit creation, call = .connecting (.trying attempt permit creation) ∧
    (supply.create.step t.now t.environment creation).1 = .finished (.error .poolExhausted)

def ExhaustedOnly (supply : Supply ε ρ κ) (t : Traffic ε ρ κ) (reason : Nat → Acquisition κ → Prop) : Prop :=
  ∀ (caller : Nat) (lent cancelled : Bool) (call : Acquisition κ),
    t.callers[caller]? = some (.acquiring lent call) →
    (call.step supply.numbered t.now cancelled t.pool t.breaker t.world).turn =
      .finished (.error .poolExhausted) → reason caller call

/-- A capped pool serves its callers in the order in which they began to wait, nobody waits beside a free
slot, and who leaves the line takes no slot along. A call is told that the pool is exhausted only when it has
waited for the whole of its time while every slot was taken, or when its supply says so itself. -/
theorem slots_go_in_turn (supply : Supply ε ρ κ) (policy : PoolPolicy) (connect : Pipeline) (breaker : Breaker)
    (environment : ε) (moves : List (Move ε)) :
    let origin : Traffic ε ρ κ := start policy.capped connect breaker environment
    let t := origin.run supply moves
    (∃ slots, t.ServesInTurn supply policy slots) ∧
      ExhaustedOnly supply t fun caller call =>
        TimedOut supply origin moves policy caller ∨ SupplyExhausted supply t call := by
  intro origin t
  have sound (moves : List (Move ε)) : ∃ slots, (origin.run supply moves).Orderly policy slots :=
    run_orderly supply policy connect breaker environment moves
  have fresh (caller : Nat) : origin.callers[caller]? = none := rfl
  obtain ⟨slots, orderly⟩ := sound moves
  refine ⟨⟨slots, orderly.servesInTurn⟩, ?_⟩
  intro caller lent cancelled call found ends
  rcases Acquisition.step_exhausted orderly.capped ends with
    ⟨ticket, deadline, rfl, unclosed, ungranted, late⟩ | ⟨attempt, permit, creation, rfl, given⟩
  · have awaited := orderly.turn.awaited unclosed ticket (mem_waiting found rfl)
    have line := (List.mem_append.1 awaited).resolve_left ungranted
    obtain ⟨before, told, during, split, waited⟩ := run_waited sound orderly fresh found line
    refine Or.inl ⟨ticket, deadline, before, told, during, split, waited, late, fun punctual => ?_⟩
    exact Nat.le_antisymm (punctual.now_le fresh found) late
  · refine Or.inr ⟨attempt, permit, creation, rfl, ?_⟩
    exact Supply.numbered_error given

def unsupplied : Traffic Unit Unit Unit :=
  start PoolPolicy.standard.capped (.new "amqp" .connect .standard) (.new "amqp.connect" .standard) ()

def firstAcquire : List (Move Unit) := [.join, .arrive 0 false, .step 0 false, .step 0 false, .step 0 false]

theorem exhausted_without_wait :
    ¬ExhaustedOnly .exhausted (unsupplied.run .exhausted firstAcquire) fun caller _ =>
      TimedOut .exhausted unsupplied firstAcquire .standard caller := by
  intro only
  obtain ⟨ticket, deadline, before, cancelled, during, -, waited, late, -⟩ :=
    only 0 false false (.connecting (.trying 1 ⟨false⟩ ())) rfl rfl
  -- the time of the call would be up thirty seconds after it came, and the clock has not moved
  have now : (unsupplied.run .exhausted firstAcquire).now = 0 := rfl
  rw [now, waited.timed] at late
  exact absurd late (by simp [PoolPolicy.standard, Duration.ofSeconds])

end Traffic

end Dispatch
