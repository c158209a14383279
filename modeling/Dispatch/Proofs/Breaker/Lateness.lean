import Dispatch.Proofs.Breaker.Probe

/-!
# Late outcomes

An outcome is late if the circuit opened or was reset after its permit was given. A permit does not say
when it was given, so a late outcome is taken like any other: an open circuit ignores it, and so does a
half-open one unless the permit is a probe, which then passes for the probe that is out now; a circuit
that is closed again counts it.
-/

set_option autoImplicit false

namespace Dispatch

namespace Breaker

def Unmoved (b : Breaker) (permit : Permit) (verdict : Verdict) : Prop :=
  match b.state with
  | .closed => verdict = .cancelled ∨ verdict = .success ∧ b.failures = 0
  | .opened _ => True
  | .halfOpen => permit.probe = false ∨ verdict = .cancelled ∧ b.probing = false

theorem record_eq_self_iff (b : Breaker) (now : Instant) (permit : Permit) (verdict : Verdict) :
    b.record now permit verdict = b ↔ b.Unmoved permit verdict := by
  have told := b.record_told now permit verdict
  generalize b.record now permit verdict = after at told ⊢
  obtain ⟨name, policy, state, failures, probing⟩ := b
  cases told with
  | ignored ignored =>
      simp only [Ignores, Unmoved, true_iff] at ignored ⊢
      cases state with
      | closed => exact Or.inl ignored
      | opened probeAt => trivial
      | halfOpen => exact Or.inl ignored
  | forgiven closed =>
      cases closed
      simp [Unmoved, eq_comm]
  | counted closed few =>
      cases closed
      simp [Unmoved]
  | tripped closed enough =>
      cases closed
      simp [Unmoved]
  | recovered half probe =>
      cases half
      simp [Unmoved, probe]
  | reopened half probe =>
      cases half
      simp [Unmoved, probe]
  | freed half probe =>
      cases half
      simp [Unmoved, probe, eq_comm]

end Breaker

namespace Circuit

variable {α : Type}

def IsLate (c : Circuit) (held : Held) : Prop :=
  ∃ entry ∈ c.history.drop held.issued, entry.opens ∨ entry.isReset

structure TakesLate (c : Circuit) : Prop where
  unmoved : ∀ {α : Type} (move : Move α) (holder : Nat) (verdict : Verdict) (held : Held),
    move.outcome? = some (holder, verdict) → c.held[holder]? = some held → c.IsLate held →
    ((c.perform move).breaker = c.breaker ↔ c.breaker.Unmoved held.permit verdict)
  probes : ∀ held ∈ c.held, c.IsLate held → held.permit.probe → c.WasReset
  ignored : ¬c.WasReset → c.breaker.state ≠ .closed → ∀ {α : Type} (move : Move α) (holder : Nat)
    (verdict : Verdict) (held : Held), move.outcome? = some (holder, verdict) →
    c.held[holder]? = some held → c.IsLate held → (c.perform move).breaker = c.breaker

theorem IsLate.not_probe {c : Circuit} {held : Held} (late : c.IsLate held) (timely : c.ProbesTimely)
    (member : held ∈ c.held) (unreset : ¬c.WasReset) : held.permit.probe = false := by
  obtain ⟨entry, recent, opened | reset⟩ := late
  · exact Bool.eq_false_iff.2 fun probe => timely.current held member probe entry recent opened
  · exact absurd ⟨entry, List.mem_of_mem_drop recent, reset⟩ unreset

/-- Late outcomes change nothing exactly where outcomes do not count anyway. -/
theorem late_outcomes_taken (name : String) (policy : BreakerPolicy) (moves : List (Move α)) :
    ((start name policy).run moves).TakesLate := by
  have sound := run_probes name policy moves
  generalize (start name policy).run moves = c at sound
  have regular {held : Held} (late : c.IsLate held) (member : held ∈ c.held) (unreset : ¬c.WasReset) :
      held.permit.probe = false := late.not_probe (sound unreset).2 member unreset
  refine ⟨?_, ?_, ?_⟩
  · intro _ move holder verdict held outcome found _
    rw [perform_settled outcome found]
    exact c.breaker.record_eq_self_iff c.now held.permit verdict
  · intro held member late probe
    by_contra unreset
    simp [regular late member unreset] at probe
  · intro unreset other _ move holder verdict held outcome found late
    have ordinary := regular late (List.mem_of_getElem? found) unreset
    rw [perform_settled outcome found]
    refine Breaker.record_ignored c.now ?_
    unfold Breaker.Ignores
    cases state : c.breaker.state with
    | closed => exact absurd state other
    | opened probeAt => trivial
    | halfOpen => exact ordinary

def IgnoresLate (c : Circuit) : Prop :=
  ∀ {α : Type} (move : Move α) (holder : Nat) (verdict : Verdict) (held : Held),
    move.outcome? = some (holder, verdict) → c.held[holder]? = some held → c.IsLate held →
    (c.perform move).breaker = c.breaker

def closedAgain : Circuit :=
  (start "amqp.publish" ⟨1, .ofMillis 50⟩).run
    ([.ask, .ask, .fail 0, .elapse (.ofMillis 50), .ask, .succeed 1] : List (Move Unit))

/-- A probe outlives a reset, and another one is out by now. -/
def probesApart : Circuit :=
  (start "amqp.publish" ⟨1, .ofMillis 50⟩).run
    ([.ask, .fail 0, .elapse (.ofMillis 50), .ask, .reset, .ask, .fail 1, .elapse (.ofMillis 50),
      .ask] : List (Move Unit))

theorem late_outcomes_not_ignored : ¬closedAgain.IgnoresLate ∧ ¬probesApart.IgnoresLate := by
  refine ⟨fun ignores => ?_, fun ignores => ?_⟩
  · have late : closedAgain.IsLate ⟨⟨false⟩, 1⟩ := ⟨_, List.mem_cons_of_mem _ List.mem_cons_self, by decide⟩
    have same := ignores (.fail 0 : Move Unit) 0 .failure ⟨⟨false⟩, 1⟩ rfl rfl late
    exact absurd (congrArg Breaker.state same) (by decide)
  · have late : probesApart.IsLate ⟨⟨true⟩, 2⟩ := ⟨_, List.mem_cons_of_mem _ List.mem_cons_self, by decide⟩
    have same := ignores (.cancel 0 : Move Unit) 0 .cancelled ⟨⟨true⟩, 2⟩ rfl rfl late
    exact absurd (congrArg Breaker.probing same) (by decide)

end Circuit

end Dispatch
