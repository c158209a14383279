import Dispatch.Proofs.Pool.Shutdown

set_option autoImplicit false

namespace Dispatch

namespace Slots

/-- What one act of a caller does to the slots: the ticket it has before, the one it has after. -/
inductive Act (s : Slots) : Option Ticket → Option Ticket → Slots → Prop
  | stay (ticket : Option Ticket) : Act s ticket ticket s
  | take {next : Slots} (taken : s.take? = some next) : Act s none none next
  | join (refused : s.take? = none) : Act s none (some s.join.1) s.join.2
  | claim {next : Slots} {ticket : Ticket} (claimed : s.claim? ticket = some next) :
      Act s (some ticket) none next
  | leave (ticket : Ticket) : Act s (some ticket) none (s.leave ticket)
  | give : Act s none none s.give

theorem take?_some_free {s next : Slots} (taken : s.take? = some next) :
    s.closed = false ∧ 0 < s.free ∧ next = { s with free := s.free - 1 } := by
  unfold take? at taken
  split at taken
  · cases taken
  · rename_i open'
    rw [not_or, Bool.not_eq_true] at open'
    exact ⟨open'.1, Nat.pos_of_ne_zero open'.2, (Option.some.inj taken).symm⟩

theorem take?_none {s : Slots} (refused : s.take? = none) : s.closed = true ∨ s.free = 0 := by
  unfold take? at refused
  split at refused
  · rename_i shut
    exact shut
  · cases refused

theorem claim?_eq {s next : Slots} {ticket : Ticket} (claimed : s.claim? ticket = some next) :
    next = { s with granted := s.granted.erase ticket } := by
  unfold claim? at claimed
  split at claimed
  · exact (Option.some.inj claimed).symm
  · cases claimed

theorem give_line (s : Slots) : s.give.line <:+ s.line := by
  unfold give
  split
  · exact List.suffix_refl _
  · rename_i line
    rw [line]
    exact List.suffix_cons _ _

theorem give_free {s : Slots} (waiting : s.give.line ≠ []) : s.give.free = s.free := by
  unfold give at waiting ⊢
  split
  · rename_i empty
    simp [empty] at waiting
  · rfl

theorem leave_line (s : Slots) (ticket : Ticket) : List.Sublist (s.leave ticket).line s.line := by
  unfold leave
  split
  · rename_i next claimed
    have line : next.line = s.line := by rw [claim?_eq claimed]
    exact line ▸ next.give_line.sublist
  · exact List.erase_sublist

theorem leave_free {s : Slots} {ticket : Ticket} (waiting : (s.leave ticket).line ≠ []) :
    (s.leave ticket).free = s.free := by
  unfold leave at waiting ⊢
  split
  · rename_i next claimed
    have free : next.free = s.free := by rw [claim?_eq claimed]
    rw [claimed] at waiting
    exact (give_free waiting).trans free
  · rfl

/-! ## What holds of slots and tickets -/

structure InTurn (s : Slots) (queue : Multiset Ticket) : Prop where
  serves : s.Serves queue
  ascending : s.tickets.Pairwise (· < ·)
  busy : s.line ≠ [] → s.free = 0
  dismissed : s.closed = true → s.line = []
  awaited : s.closed = false → ∀ ticket ∈ queue, ticket ∈ s.tickets

namespace InTurn

variable {s next : Slots} {queue : Multiset Ticket} {ticket : Ticket}

theorem ofSize (size : Nat) : InTurn (.ofSize size) 0 where
  serves := .ofSize size
  ascending := List.Pairwise.nil
  busy line := absurd rfl line
  dismissed _ := rfl
  awaited _ ticket member := (Multiset.notMem_zero ticket member).elim

theorem take (turn : s.InTurn queue) (taken : s.take? = some next) : next.InTurn queue := by
  obtain ⟨-, free, rfl⟩ := take?_some_free taken
  have empty : s.line = [] := by
    by_contra line
    exact Nat.ne_of_gt free (turn.busy line)
  exact ⟨turn.serves.of_eq rfl rfl, turn.ascending, fun line => absurd empty line, turn.dismissed, turn.awaited⟩

theorem join (turn : s.InTurn queue) (refused : s.take? = none) : s.join.2.InTurn (s.join.1 ::ₘ queue) := by
  have closed : s.join.2.closed = s.closed := rfl
  refine ⟨turn.serves.join, ?_, ?_, ?_, ?_⟩
  · rcases s.join_tickets with same | added
    · exact same ▸ turn.ascending
    · rw [added, List.pairwise_append]
      refine ⟨turn.ascending, List.pairwise_singleton _ _, fun waiting member new fresh => ?_⟩
      rw [List.mem_singleton.1 fresh]
      exact turn.serves.old waiting (turn.serves.issued waiting member)
  · intro line
    rcases take?_none refused with shut | free
    · have same : s.join.2.line = s.line := by simp [Slots.join, shut]
      exact absurd (same.trans (turn.dismissed shut)) line
    · exact free
  · intro shut
    rw [closed] at shut
    simpa [Slots.join, shut] using turn.dismissed shut
  · intro unshut waiting member
    rw [closed] at unshut
    have tickets : s.join.2.tickets = s.tickets ++ [s.join.1] := by simp [Slots.join, Slots.tickets, unshut]
    rw [tickets, List.mem_append, List.mem_singleton]
    rcases Multiset.mem_cons.1 member with same | before
    · exact Or.inr same
    · exact Or.inl (turn.awaited unshut waiting before)

theorem give (turn : s.InTurn queue) : s.give.InTurn queue := by
  refine ⟨turn.serves.of_eq s.give_tickets s.give_nextTicket, s.give_tickets ▸ turn.ascending, ?_, ?_, ?_⟩
  · intro waiting
    rw [give_free waiting]
    exact turn.busy fun empty => waiting (List.suffix_nil.1 (empty ▸ s.give_line))
  · intro shut
    rw [give_closed] at shut
    exact List.suffix_nil.1 (turn.dismissed shut ▸ s.give_line)
  · rw [give_closed, give_tickets]
    exact turn.awaited

theorem withdraw (turn : s.InTurn (ticket ::ₘ queue)) (gone : next.tickets = s.tickets.erase ticket)
    (counter : next.nextTicket = s.nextTicket) (closed : next.closed = s.closed)
    (line : List.Sublist next.line s.line) (free : next.line ≠ [] → next.free = s.free) :
    next.InTurn queue where
  serves := turn.serves.withdraw gone counter
  ascending := gone ▸ turn.ascending.sublist List.erase_sublist
  busy waiting := by
    rw [free waiting]
    refine turn.busy fun empty => waiting ?_
    exact List.sublist_nil.1 (empty ▸ line)
  dismissed shut := List.sublist_nil.1 (turn.dismissed (closed ▸ shut) ▸ line)
  awaited unshut other member := by
    have apart : other ≠ ticket := by
      rintro rfl
      exact (Multiset.nodup_cons.1 turn.serves.distinct).1 member
    rw [gone, List.mem_erase_of_ne apart]
    exact turn.awaited (closed ▸ unshut) other (Multiset.mem_cons_of_mem member)

theorem claim (turn : s.InTurn (ticket ::ₘ queue)) (claimed : s.claim? ticket = some next) :
    next.InTurn queue := by
  obtain ⟨-, -, -, tickets, counter⟩ := claim?_some claimed
  have same := claim?_eq claimed
  refine turn.withdraw tickets counter (claim?_closed claimed) ?_ fun _ => by rw [same]
  rw [same]

theorem leave (turn : s.InTurn (ticket ::ₘ queue)) : (s.leave ticket).InTurn queue :=
  turn.withdraw (s.leave_tickets ticket) (s.leave_nextTicket ticket) (s.leave_closed ticket)
    (s.leave_line ticket) leave_free

theorem close (turn : s.InTurn queue) : s.close.InTurn queue where
  serves := turn.serves.close
  ascending := turn.ascending.sublist s.close_tickets
  busy line := absurd rfl line
  dismissed _ := rfl
  awaited unshut := Bool.noConfusion unshut

theorem act {before after : Option Ticket} (turn : s.InTurn (before.toList + queue))
    (act : s.Act before after next) : next.InTurn (after.toList + queue) := by
  cases act with
  | stay ticket => exact turn
  | take taken =>
      rw [Option.toList_none, Multiset.coe_nil, zero_add] at turn ⊢
      exact turn.take taken
  | join refused =>
      rw [Option.toList_none, Multiset.coe_nil, zero_add] at turn
      exact turn.join refused
  | claim claimed =>
      rw [Option.toList_none, Multiset.coe_nil, zero_add]
      exact InTurn.claim turn claimed
  | leave ticket =>
      rw [Option.toList_none, Multiset.coe_nil, zero_add]
      exact InTurn.leave turn
  | give =>
      rw [Option.toList_none, Multiset.coe_nil, zero_add] at turn ⊢
      exact turn.give

end InTurn

theorem Act.line_old {s next : Slots} {before after : Option Ticket} (act : s.Act before after next) :
    s.nextTicket ≤ next.nextTicket ∧
      ∀ ticket ∈ next.line, ticket < s.nextTicket → ticket ∈ s.line := by
  cases act with
  | stay ticket => exact ⟨Nat.le_refl _, fun _ member _ => member⟩
  | take taken =>
      obtain ⟨-, -, rfl⟩ := take?_some_free taken
      exact ⟨Nat.le_refl _, fun _ member _ => member⟩
  | join refused =>
      refine ⟨Nat.le_succ _, fun ticket member old => ?_⟩
      simp only [Slots.join] at member
      split at member
      · exact member
      · rw [List.mem_append, List.mem_singleton] at member
        exact member.resolve_right (Nat.ne_of_lt old)
  | claim claimed =>
      rw [claim?_eq claimed]
      exact ⟨Nat.le_refl _, fun _ member _ => member⟩
  | leave ticket =>
      refine ⟨Nat.le_of_eq (s.leave_nextTicket ticket).symm, fun other member _ => ?_⟩
      exact (s.leave_line ticket).subset member
  | give => exact ⟨Nat.le_of_eq s.give_nextTicket.symm, fun _ member _ => s.give_line.subset member⟩

end Slots

namespace Acquisition

variable {ε ρ κ : Type} (supply : Supply ε ρ κ) (now : Instant) (cancelled : Bool) {pool : Pool ρ}
  {slots : Slots} (capped : pool.slots = some slots) (breaker : Breaker) (environment : ε)
  (call : Acquisition κ)

include capped

theorem step_slots :
    let next := call.step supply now cancelled pool breaker environment
    ∃ slots', next.pool.slots = some slots' ∧
      slots.Act (call.standing : Standing ρ).ticket? (standingAfter next.turn call).ticket? slots' := by
  cases call with
  | arriving =>
      simp only [step, capped]
      split
      · exact ⟨slots, capped, .stay none⟩
      · split
        · exact ⟨slots, capped, .stay none⟩
        · split
          · rename_i taken
            exact ⟨_, rfl, .take taken⟩
          · rename_i refused
            exact ⟨_, rfl, .join refused⟩
  | queued ticket deadline =>
      have left : (leaveLine pool ticket).slots = some (slots.leave ticket) := by simp [leaveLine, capped]
      simp only [step, capped]
      split
      · exact ⟨_, left, .leave ticket⟩
      · split
        · exact ⟨_, left, .leave ticket⟩
        · split
          · rename_i claimed
            exact ⟨_, rfl, .claim claimed⟩
          · split
            · exact ⟨_, left, .leave ticket⟩
            · exact ⟨slots, capped, .stay (some ticket)⟩
  | seated =>
      simp only [step]
      split
      · rename_i taken
        obtain ⟨above, below, -, -, -, rfl, -⟩ := Pool.takeIdle_some taken
        exact ⟨slots, capped, .stay none⟩
      · rename_i missed
        obtain ⟨-, rfl, -⟩ := Pool.takeIdle_none missed
        exact ⟨slots, capped, .stay none⟩
  | connecting execution =>
      simp only [step]
      split
      · exact ⟨slots, capped, .stay none⟩
      · exact ⟨slots, capped, .stay none⟩
      · exact ⟨slots, capped, .stay none⟩
      · exact ⟨_, by simp [Pool.freeSlot, capped], .give⟩
      · exact ⟨slots, capped, .stay none⟩

theorem abandon_slots :
    ∃ slots', (call.abandon supply pool breaker environment).1.slots = some slots' ∧
      slots.Act (call.standing : Standing ρ).ticket? none slots' := by
  cases call with
  | arriving => exact ⟨slots, capped, .stay none⟩
  | queued ticket deadline => exact ⟨_, by simp [abandon, leaveLine, capped], .leave ticket⟩
  | seated => exact ⟨_, by simp [abandon, Pool.freeSlot, capped], .give⟩
  | connecting execution => exact ⟨_, by simp [abandon, Pool.freeSlot, capped], .give⟩

end Acquisition

/-! ## The line of a traffic -/

structure Queue where
  slots : Slots
  waiting : Multiset Ticket

inductive Queue.Step : Queue → Queue → Prop
  | act {slots next : Slots} {before after : Option Ticket} (others : Multiset Ticket)
      (act : slots.Act before after next) :
      Step ⟨slots, before.toList + others⟩ ⟨next, after.toList + others⟩
  | close (queue : Queue) : Step queue { queue with slots := queue.slots.close }

namespace Queue

variable {before after : Queue}

theorem Step.inTurn (step : Step before after) (turn : before.slots.InTurn before.waiting) :
    after.slots.InTurn after.waiting := by
  cases step with
  | act others act => exact turn.act act
  | close queue => exact turn.close

theorem Step.line_old (step : Step before after) :
    before.slots.nextTicket ≤ after.slots.nextTicket ∧
      ∀ ticket ∈ after.slots.line, ticket < before.slots.nextTicket → ticket ∈ before.slots.line := by
  cases step with
  | act others act => exact act.line_old
  | close queue => exact ⟨Nat.le_refl _, fun _ member => (List.not_mem_nil member).elim⟩

theorem inTurn_of_steps (steps : Relation.ReflTransGen Step before after)
    (turn : before.slots.InTurn before.waiting) : after.slots.InTurn after.waiting := by
  induction steps with
  | refl => exact turn
  | tail _ step ih => exact step.inTurn ih

theorem line_of_steps (steps : Relation.ReflTransGen Step before after) :
    before.slots.nextTicket ≤ after.slots.nextTicket ∧
      ∀ ticket ∈ after.slots.line, ticket < before.slots.nextTicket → ticket ∈ before.slots.line := by
  induction steps with
  | refl => exact ⟨Nat.le_refl _, fun _ member _ => member⟩
  | tail _ step ih =>
      obtain ⟨counter, line⟩ := step.line_old
      refine ⟨ih.1.trans counter, fun ticket member old => ih.2 ticket ?_ old⟩
      exact line ticket member (Nat.lt_of_lt_of_le old ih.1)

end Queue

theorem Multiset.filterMap_cons_toList {α β : Type} (f : α → Option β) (value : α) (values : Multiset α) :
    (value ::ₘ values).filterMap f = ((f value).toList : Multiset β) + values.filterMap f := by
  cases found : f value with
  | none => simp [Multiset.filterMap_cons_none _ _ found]
  | some result => simp [Multiset.filterMap_cons_some _ _ _ found]

namespace Traffic

variable {ε ρ κ : Type} {supply : Supply ε ρ κ} {t next : Traffic ε ρ κ} {slots slots' : Slots}

def waiting (t : Traffic ε ρ κ) : Multiset Ticket := t.hall.standings.filterMap Standing.ticket?

theorem queue_act {number : Nat} {caller : Caller (Numbered ρ) κ} (found : t.callers[number]? = some caller)
    (after : Caller (Numbered ρ) κ) (callers : next.callers = t.callers.set number after)
    (act : slots.Act caller.standing.ticket? after.standing.ticket? slots') :
    Queue.Step ⟨slots, t.waiting⟩ ⟨slots', next.waiting⟩ := by
  obtain ⟨others, before, rest⟩ := Hall.others Caller.standing found
  have here : t.waiting = caller.standing.ticket?.toList + others.filterMap Standing.ticket? := by
    rw [← Multiset.filterMap_cons_toList, ← before]
    rfl
  have there : next.waiting = after.standing.ticket?.toList + others.filterMap Standing.ticket? := by
    rw [← Multiset.filterMap_cons_toList, ← rest after, ← callers]
    rfl
  rw [here, there]
  exact .act _ act

theorem giveUp_queue (supply : Supply ε ρ κ) {number : Nat} {lent : Bool} {call : Acquisition κ}
    (found : t.callers[number]? = some (.acquiring lent call)) (capped : t.pool.slots = some slots) :
    ∃ slots', (t.giveUp supply number call).pool.slots = some slots' ∧
      Queue.Step ⟨slots, t.waiting⟩ ⟨slots', (t.giveUp supply number call).waiting⟩ := by
  obtain ⟨slots', capped', act⟩ := call.abandon_slots supply.numbered capped t.breaker t.world
  exact ⟨slots', capped', queue_act found .away rfl act⟩

theorem advance_queue {number : Nat} {lent : Bool} {call : Acquisition κ} (cancelled : Bool)
    (found : t.callers[number]? = some (.acquiring lent call)) (capped : t.pool.slots = some slots) :
    ∃ slots', (t.advance supply number cancelled lent call).pool.slots = some slots' ∧
      Relation.ReflTransGen Queue.Step ⟨slots, t.waiting⟩
        ⟨slots', (t.advance supply number cancelled lent call).waiting⟩ := by
  obtain ⟨slots', capped', act⟩ :=
    call.step_slots supply.numbered t.now cancelled capped t.breaker t.world
  have still : (t.after supply cancelled call).callers = t.callers.set number (.acquiring lent call) := by
    obtain ⟨bound, here⟩ := List.getElem?_eq_some_iff.1 found
    rw [← here, List.set_getElem_self]
    rfl
  unfold advance
  dsimp only at act ⊢
  split
  · rename_i turn
    rw [turn] at act
    exact ⟨slots', capped', .single (queue_act found _ rfl act)⟩
  · rename_i turn
    rw [turn] at act
    exact ⟨slots', capped', .single (queue_act found _ rfl act)⟩
  · rename_i turn
    rw [turn] at act
    exact ⟨slots', capped', .single (queue_act found _ rfl act)⟩
  · rename_i turn
    rw [turn] at act
    exact ⟨slots', capped', .single (queue_act found _ still act)⟩
  · rename_i turn
    rw [turn] at act
    obtain ⟨slots'', capped'', step⟩ :=
      giveUp_queue supply (t := t.after supply cancelled call) found capped'
    exact ⟨slots'', capped'', .tail (.single (queue_act found _ still act)) step⟩

theorem Change.queue (change : t.Change supply next) (capped : t.pool.slots = some slots) :
    ∃ slots', next.pool.slots = some slots' ∧
      Relation.ReflTransGen Queue.Step ⟨slots, t.waiting⟩ ⟨slots', next.waiting⟩ := by
  cases change with
  | nothing | drain | refuse | world => exact ⟨slots, capped, .refl⟩
  | join =>
      have same : waiting { t with callers := t.callers ++ [.away] } = t.waiting := by
        have nobody : List.filterMap Standing.ticket? [(.outside : Standing (Numbered ρ))] = [] := rfl
        simp [waiting, hall, Caller.standing, nobody]
      exact ⟨slots, capped, same ▸ .refl⟩
  | arrive lent found => exact ⟨slots, capped, .single (queue_act found _ rfl (.stay none))⟩
  | advance cancelled found => exact advance_queue cancelled found capped
  | giveUp found =>
      obtain ⟨slots', capped', step⟩ := giveUp_queue supply found capped
      exact ⟨slots', capped', .single step⟩
  | @conclude number lent lease discard found =>
      have same := (t.pool.takeBack_frame (supply.numbered.healthy t.world) discard t.now lease).1
      exact ⟨slots, same.trans capped, .single (queue_act found .leaving rfl (.stay none))⟩
  | leave found =>
      have given : t.pool.freeSlot.slots = some slots.give := by simp [Pool.freeSlot, capped]
      exact ⟨slots.give, given, .single (queue_act found .away rfl .give)⟩
  | closeSlots =>
      have closed : t.pool.closeSlots.slots = some slots.close := by simp [Pool.closeSlots, capped]
      exact ⟨slots.close, closed, .single (.close _)⟩

theorem run_inTurn (supply : Supply ε ρ κ) (policy : PoolPolicy) (kind : policy.sizePolicy = .capped)
    (connect : Pipeline) (breaker : Breaker) (environment : ε) (moves : List (Move ε)) :
    let t := (start policy connect breaker environment : Traffic ε ρ κ).run supply moves
    ∃ slots, t.pool.slots = some slots ∧ slots.InTurn t.waiting := by
  refine run_induction supply (P := fun t => ∃ slots, t.pool.slots = some slots ∧ slots.InTurn t.waiting)
    ?_ moves _ ⟨.ofSize policy.maxSize, by simp [start, Pool.new, kind], .ofSize policy.maxSize⟩
  rintro t next change ⟨slots, capped, turn⟩
  obtain ⟨slots', capped', steps⟩ := change.queue capped
  exact ⟨slots', capped', Queue.inTurn_of_steps steps turn⟩

end Traffic

end Dispatch
