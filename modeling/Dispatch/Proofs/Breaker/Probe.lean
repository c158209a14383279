import Dispatch.Proofs.Breaker.Circuit
import Mathlib.Data.List.Perm.Basic

set_option autoImplicit false

namespace Dispatch.Circuit

variable {c next : Circuit} {α : Type}

def probes (c : Circuit) : Nat := c.held.countP (·.permit.probe)

structure OneProbe (c : Circuit) : Prop where
  count : c.probes = c.breaker.probing.toNat
  half : c.breaker.probing = true → c.breaker.state = .halfOpen

namespace OneProbe

theorem free_iff (one : c.OneProbe) : c.breaker.probing = false ↔ c.probes = 0 := by
  rw [one.count]
  cases c.breaker.probing <;> simp

theorem of_held {held : Held} (one : c.OneProbe) (member : held ∈ c.held)
    (probe : held.permit.probe = true) : c.breaker.probing = true ∧ c.breaker.state = .halfOpen := by
  have positive : 0 < c.probes := List.countP_pos_iff.2 ⟨held, member, probe⟩
  have probing : c.breaker.probing = true :=
    Bool.of_not_eq_false fun free => Nat.ne_of_gt positive (one.free_iff.1 free)
  exact ⟨probing, one.half probing⟩

theorem idle (one : c.OneProbe) (other : c.breaker.state ≠ .halfOpen) : c.breaker.probing = false :=
  Bool.eq_false_iff.2 (mt one.half other)

theorem not_probe {held : Held} {verdict : Verdict} (one : c.OneProbe) (member : held ∈ c.held)
    (ignored : c.breaker.Ignores held.permit verdict) : held.permit.probe = false := by
  cases probe : held.permit.probe with
  | false => rfl
  | true =>
      have half := (one.of_held member probe).2
      simp [Breaker.Ignores, half, probe] at ignored

end OneProbe

theorem probes_eraseIdx {held : List Held} {holder : Nat} {entry : Held}
    (found : held[holder]? = some entry) :
    (held.eraseIdx holder).countP (·.permit.probe) + entry.permit.probe.toNat =
      held.countP (·.permit.probe) := by
  obtain ⟨bound, rfl⟩ := List.getElem?_eq_some_iff.1 found
  rw [← (List.getElem_cons_eraseIdx_perm bound).countP_eq, List.countP_cons]
  cases held[holder].permit.probe <;> simp

theorem OneProbe.settled {holder : Nat} {held : Held} (one : c.OneProbe) (verdict : Verdict)
    (found : c.held[holder]? = some held) : (c.settled holder held verdict).OneProbe := by
  have member := List.mem_of_getElem? found
  have erased := probes_eraseIdx found
  have count := one.count
  have told := c.breaker.record_told c.now held.permit verdict
  unfold probes at count
  -- a probe's outcome ends the half-open state or gives the slot back; others leave both alone
  refine ⟨?_, ?_⟩ <;> simp only [Circuit.settled, note, Breaker.entry, probes] <;>
    generalize c.breaker.record c.now held.permit verdict = after at told ⊢
  · cases told with
    | ignored ignored =>
        simp only [one.not_probe member ignored, Bool.toNat_false] at erased
        omega
    | forgiven closed | counted closed | tripped closed =>
        have idle := one.idle (by simp [closed])
        simp only [idle, Bool.toNat_false] at count ⊢
        omega
    | recovered half probe | reopened half probe | freed half probe =>
        simp only [(one.of_held member probe).1, probe, Bool.toNat_true] at erased count
        simp only [Bool.toNat_false]
        omega
  · cases told with
    | ignored | counted | forgiven => exact one.half
    | tripped closed => simp [one.idle (by simp [closed])]
    | recovered | reopened | freed => simp

theorem OneProbe.change (one : c.OneProbe) (change : c.Change next) : next.OneProbe := by
  have asked := c.breaker.request_asked c.now
  have count := one.count
  unfold probes at count
  cases change with
  | nothing => exact one
  | elapse => exact ⟨one.count, one.half⟩
  | settled verdict found => exact one.settled verdict found
  | refused answer =>
      rw [answer] at asked
      refine ⟨?_, ?_⟩ <;> simp only [note, Breaker.entry, probes] <;>
        generalize (c.breaker.request c.now).2.1 = after at asked ⊢
      · cases asked <;> exact count
      · cases asked <;> exact one.half
  | admitted answer =>
      rw [answer] at asked
      refine ⟨?_, ?_⟩ <;> simp only [note, Breaker.entry, probes, List.countP_append] <;>
        generalize (c.breaker.request c.now).2.1 = after at asked ⊢
      · cases asked with
        | pass closed => simpa using count
        | due cooling due => simp [count, one.idle (by simp [cooling])]
        | probe half free => simp [count, free]
      · cases asked with
        | pass closed => exact one.half
        | due cooling due => simp
        | probe half free => exact fun _ => half

-- no probe that is out was given before the circuit last opened
structure ProbesTimely (c : Circuit) : Prop where
  issued : ∀ held ∈ c.held, held.issued ≤ c.history.length
  current : ∀ held ∈ c.held, held.permit.probe → ∀ entry ∈ c.history.drop held.issued, ¬entry.opens

theorem ProbesTimely.note {use : Breaker.Use} {rest : List Held} (timely : c.ProbesTimely)
    (old : ∀ held ∈ rest, held ∈ c.held ∨ held.issued = c.history.length)
    (one : (c.note use rest).OneProbe) : (c.note use rest).ProbesTimely := by
  have bounded : ∀ held ∈ rest, held.issued ≤ c.history.length := by
    intro held member
    rcases old held member with same | fresh
    · exact timely.issued held same
    · exact Nat.le_of_eq fresh
  refine ⟨?_, ?_⟩
  · intro held member
    have bound := bounded held member
    simp only [Circuit.note, List.length_append, List.length_singleton]
    omega
  · intro held member probe entry recent
    rw [Circuit.note, List.drop_append_of_le_length (bounded held member)] at recent
    rcases List.mem_append.1 recent with before | new
    · rcases old held member with same | fresh
      · exact timely.current held same probe entry before
      · simp [fresh] at before
    · -- the circuit is half open while a probe is out
      have half := (one.of_held member probe).2
      rw [List.mem_singleton.1 new]
      simp only [Circuit.note] at half
      simp [Entry.opens, half, CircuitState.isOpen]

theorem ProbesTimely.change (timely : c.ProbesTimely) (change : c.Change next) (one : next.OneProbe) :
    next.ProbesTimely := by
  cases change with
  | nothing => exact timely
  | elapse => exact ⟨timely.issued, timely.current⟩
  | refused => exact timely.note (fun _ member => Or.inl member) one
  | settled => exact timely.note (fun _ member => Or.inl (List.mem_of_mem_eraseIdx member)) one
  | admitted =>
      refine timely.note (fun held member => ?_) one
      rcases List.mem_append.1 member with old | new
      · exact Or.inl old
      · rw [List.mem_singleton.1 new]
        exact Or.inr rfl

theorem run_probes (name : String) (policy : BreakerPolicy) (moves : List (Move α)) :
    ¬((start name policy).run moves).WasReset →
      ((start name policy).run moves).OneProbe ∧ ((start name policy).run moves).ProbesTimely := by
  refine run_induction (P := fun c => ¬c.WasReset → c.OneProbe ∧ c.ProbesTimely) ?_ moves ?_ _ ?_
  · intro c next change sound unreset
    obtain ⟨one, timely⟩ := sound (mt change.wasReset.2 unreset)
    exact ⟨one.change change, timely.change change (one.change change)⟩
  · exact fun c _ _ unreset => absurd (wasReset_note.2 (Or.inr rfl)) unreset
  · exact fun _ => ⟨⟨rfl, by simp [start, Breaker.new]⟩,
      fun _ member => (List.not_mem_nil member).elim, fun _ member => (List.not_mem_nil member).elim⟩

structure SingleProbe (c : Circuit) : Prop where
  count : c.probes = if c.breaker.probing then 1 else 0
  half : c.breaker.probing → c.breaker.state = .halfOpen
  refused : c.breaker.probing → ∀ now,
    c.breaker.request now = (.error (.circuitOpen c.breaker.name), c.breaker, [])
  unmoved : c.breaker.probing → ∀ {α : Type} (move : Move α) (holder : Nat) (verdict : Verdict)
    (held : Held), move.outcome? = some (holder, verdict) → c.held[holder]? = some held →
    held.permit.probe = false → (c.perform move).breaker = c.breaker
  admitted : c.breaker.state = .halfOpen → c.probes = 0 → ∀ now,
    (c.breaker.request now).1 = .ok ⟨true⟩
  recovers : c.probes = 0 → ∃ wait : Duration, ∀ later, c.now + wait ≤ later →
    ∃ permit, (c.breaker.request later).1 = .ok permit

theorem OneProbe.recovers (one : c.OneProbe) (none : c.probes = 0) :
    ∃ wait : Duration, ∀ later, c.now + wait ≤ later →
      ∃ permit, (c.breaker.request later).1 = .ok permit := by
  have free := one.free_iff.2 none
  cases state : c.breaker.state with
  | closed => exact ⟨0, fun later _ => ⟨⟨false⟩, by simp [Breaker.request, state]⟩⟩
  | halfOpen => exact ⟨0, fun later _ => ⟨⟨true⟩, by simp [Breaker.request, state, free]⟩⟩
  | opened probeAt =>
      refine ⟨probeAt - c.now, fun later due => ⟨⟨true⟩, ?_⟩⟩
      have reached : probeAt ≤ later := Nat.le_trans (Nat.sub_le_iff_le_add'.1 (Nat.le_refl _)) due
      simp [Breaker.request, state, reached]

/-- However callers of a circuit that is never reset interleave, at most one of them holds the probe,
and the breaker knows whether one does. -/
theorem single_probe (name : String) (policy : BreakerPolicy) (moves : List (Move α))
    (steady : .reset ∉ moves) : ((start name policy).run moves).SingleProbe := by
  have one := (run_probes name policy moves (run_steady steady)).1
  generalize (start name policy).run moves = c at one
  refine ⟨?_, one.half, ?_, ?_, ?_, one.recovers⟩
  · rw [one.count]
    cases c.breaker.probing <;> rfl
  · intro probing now
    simp [Breaker.request, one.half probing, probing]
  · intro probing _ move holder verdict held outcome found other
    rw [perform_settled outcome found]
    exact Breaker.record_ignored c.now (by simp [Breaker.Ignores, one.half probing, other])
  · intro half none now
    simp [Breaker.request, half, one.free_iff.2 none]

def probeRunning : List (Move Unit) :=
  [.ask, .ask, .fail 0, .ask, .elapse (.ofMillis 50), .ask, .ask]

theorem single_probe_running :
    .reset ∉ probeRunning ∧
      ((start "amqp.publish" ⟨1, .ofMillis 50⟩).run probeRunning).probes = 1 ∧
      ((start "amqp.publish" ⟨1, .ofMillis 50⟩).run probeRunning).SingleProbe :=
  ⟨by simp [probeRunning], by decide, single_probe _ _ _ (by simp [probeRunning])⟩

end Dispatch.Circuit
