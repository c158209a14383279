import Dispatch.Pool.Slots
import Mathlib.Data.Multiset.Filter

set_option autoImplicit false

namespace Dispatch.Slots

def available (s : Slots) : Nat := s.free + s.granted.length

def tickets (s : Slots) : List Ticket := s.granted ++ s.line

theorem ofSize_available (size : Nat) : (ofSize size).available = min size limit := rfl

theorem take?_some {s next : Slots} (taken : s.take? = some next) :
    next.available + 1 = s.available ∧ next.granted = s.granted ∧ next.line = s.line ∧
      next.nextTicket = s.nextTicket := by
  unfold take? at taken
  split at taken
  · cases taken
  · rename_i free
    cases taken
    simp only [available, and_true]
    omega

@[simp] theorem join_nextTicket (s : Slots) : s.join.2.nextTicket = s.join.1 + 1 := rfl

theorem join_tickets (s : Slots) :
    s.join.2.tickets = s.tickets ∨ s.join.2.tickets = s.tickets ++ [s.join.1] := by
  cases closed : s.closed <;> simp [join, tickets, closed]

@[simp] theorem give_available (s : Slots) : s.give.available = s.available + 1 := by
  unfold give available
  split
  · simp only
    omega
  · simp [Nat.add_assoc]

@[simp] theorem give_tickets (s : Slots) : s.give.tickets = s.tickets := by
  unfold give tickets
  split <;> simp_all

@[simp] theorem give_nextTicket (s : Slots) : s.give.nextTicket = s.nextTicket := by
  unfold give
  split <;> rfl

theorem claim?_some {s next : Slots} {ticket : Ticket} (claimed : s.claim? ticket = some next) :
    ticket ∈ s.granted ∧ next.available + 1 = s.available ∧
      next.granted = s.granted.erase ticket ∧ next.tickets = s.tickets.erase ticket ∧
      next.nextTicket = s.nextTicket := by
  unfold claim? at claimed
  split at claimed
  · rename_i granted
    cases claimed
    have size := List.length_erase_of_mem granted
    have positive := List.length_pos_of_mem granted
    refine ⟨granted, ?_, rfl, ?_, rfl⟩
    · simp only [available, size]
      omega
    · simp [tickets, List.erase_append_left _ granted]
  · cases claimed

theorem claim?_none {s : Slots} {ticket : Ticket} (refused : s.claim? ticket = none) :
    ticket ∉ s.granted := by
  unfold claim? at refused
  split at refused <;> simp_all

@[simp] theorem leave_available (s : Slots) (ticket : Ticket) :
    (s.leave ticket).available = s.available := by
  unfold leave
  split
  · rename_i next claimed
    have spec := claim?_some claimed
    simp only [give_available]
    omega
  · rfl

@[simp] theorem leave_tickets (s : Slots) (ticket : Ticket) :
    (s.leave ticket).tickets = s.tickets.erase ticket := by
  unfold leave
  split
  · rename_i next claimed
    simp [(claim?_some claimed).2.2.2.1]
  · rename_i refused
    simp [tickets, List.erase_append_right _ (claim?_none refused)]

@[simp] theorem leave_nextTicket (s : Slots) (ticket : Ticket) :
    (s.leave ticket).nextTicket = s.nextTicket := by
  unfold leave
  split
  · rename_i next claimed
    simp [(claim?_some claimed).2.2.2.2]
  · rfl

theorem close_tickets (s : Slots) : List.Sublist s.close.tickets s.tickets := by
  simp [close, tickets]

/-- The tickets of `queue` are those of the callers that wait, and all others are spent. -/
structure Serves (s : Slots) (queue : Multiset Ticket) : Prop where
  issued : ∀ ticket ∈ s.tickets, ticket ∈ queue
  once : s.tickets.Nodup
  distinct : queue.Nodup
  old : ∀ ticket ∈ queue, ticket < s.nextTicket

namespace Serves

variable {s next : Slots} {queue : Multiset Ticket} {ticket : Ticket}

theorem ofSize (size : Nat) : Serves (.ofSize size) 0 where
  issued := by simp [Slots.ofSize, tickets]
  once := by simp [Slots.ofSize, tickets]
  distinct := Multiset.nodup_zero
  old := by simp

theorem of_eq (serves : s.Serves queue) (same : next.tickets = s.tickets)
    (counter : next.nextTicket = s.nextTicket) : next.Serves queue where
  issued := same ▸ serves.issued
  once := same ▸ serves.once
  distinct := serves.distinct
  old := counter ▸ serves.old

theorem join (serves : s.Serves queue) : s.join.2.Serves (s.join.1 ::ₘ queue) := by
  have fresh : s.join.1 ∉ queue := fun member => Nat.lt_irrefl _ (serves.old _ member)
  refine ⟨?_, ?_, Multiset.nodup_cons.2 ⟨fresh, serves.distinct⟩, ?_⟩
  · intro ticket member
    rcases s.join_tickets with same | added
    · exact Multiset.mem_cons_of_mem (serves.issued _ (same ▸ member))
    · rw [added, List.mem_append, List.mem_singleton] at member
      rcases member with member | rfl
      · exact Multiset.mem_cons_of_mem (serves.issued _ member)
      · exact Multiset.mem_cons_self _ _
  · rcases s.join_tickets with same | added
    · exact same ▸ serves.once
    · rw [added, List.nodup_append]
      refine ⟨serves.once, List.nodup_singleton _, ?_⟩
      rintro ticket member _ added rfl
      exact fresh (List.mem_singleton.1 added ▸ serves.issued _ member)
  · intro ticket member
    rw [join_nextTicket]
    rcases Multiset.mem_cons.1 member with rfl | member
    · exact Nat.lt_succ_self _
    · exact Nat.lt_succ_of_lt (serves.old _ member)

theorem withdraw (serves : s.Serves (ticket ::ₘ queue)) (gone : next.tickets = s.tickets.erase ticket)
    (counter : next.nextTicket = s.nextTicket) : next.Serves queue where
  issued other member := by
    rw [gone, serves.once.mem_erase_iff] at member
    exact (Multiset.mem_cons.1 (serves.issued _ member.2)).resolve_left member.1
  once := gone ▸ serves.once.erase ticket
  distinct := (Multiset.nodup_cons.1 serves.distinct).2
  old other member := counter ▸ serves.old _ (Multiset.mem_cons_of_mem member)

theorem close (serves : s.Serves queue) : s.close.Serves queue where
  issued ticket member := serves.issued ticket (s.close_tickets.subset member)
  once := serves.once.sublist s.close_tickets
  distinct := serves.distinct
  old := serves.old

theorem card_granted (serves : s.Serves queue) :
    (queue.filter (· ∈ s.granted)).card = s.granted.length := by
  -- every granted ticket is in the queue and none is there twice
  have granted : s.granted.Nodup := (List.nodup_append.1 serves.once).1
  have same : queue.filter (· ∈ s.granted) = (s.granted : Multiset Ticket) := by
    refine (serves.distinct.filter _).ext (Multiset.coe_nodup.2 granted) |>.2 fun ticket => ?_
    simp only [Multiset.mem_filter, Multiset.mem_coe, and_iff_right_iff_imp]
    exact fun member => serves.issued _ (List.mem_append_left _ member)
  rw [same, Multiset.coe_card]

end Serves

end Dispatch.Slots
