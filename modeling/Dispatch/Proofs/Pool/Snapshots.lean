import Dispatch.Proofs.Pool.Ownership

set_option autoImplicit false

namespace Dispatch

theorem Passage.snapshot {ρ : Type} {now : Instant} {pool next : Pool ρ} {before after : Standing ρ}
    {events : List (PoolEvent ρ)} (passage : Passage now pool before after next events) :
    PoolEvent.lastSize events = some (next.idle.length, next.leased) ∨
      PoolEvent.lastSize events = none ∧ next.leased = pool.leased ∧
        next.idle.length ≤ pool.idle.length := by
  cases passage with
  | stay standing reports | free reports seated unleased => exact Or.inr ⟨by simp, rfl, Nat.le_refl _⟩
  | enter | sit | queue | claim | giveUp => exact Or.inr ⟨rfl, rfl, Nat.le_refl _⟩
  | take taken =>
      obtain ⟨unusable, rest, -, -, -, rfl, rfl⟩ := Pool.takeIdle_some taken
      exact Or.inl (by simp [Pool.resized, PoolEvent.size?])
  | miss missed =>
      obtain ⟨-, rfl, rfl⟩ := Pool.takeIdle_none missed
      exact Or.inr ⟨by simp, rfl, Nat.zero_le _⟩
  | connect resource reports =>
      exact Or.inl (by simp [Pool.addCreated, Pool.resized, Pool.report, PoolEvent.size?])
  | finish healthy discard lease => exact Or.inl (pool.lastSize_takeBack healthy discard now lease)

theorem Passage.reports_iff {ρ : Type} {now : Instant} {pool next : Pool ρ} {before after : Standing ρ}
    {events : List (PoolEvent ρ)} (passage : Passage now pool before after next events)
    (counted : before.held.card ≤ pool.leased) :
    (PoolEvent.lastSize events).isSome ↔ next.leased ≠ pool.leased := by
  cases passage with
  | stay | free => simp [Pool.freeSlot]
  | enter | sit | queue | claim => simp
  | giveUp => simp [Acquisition.leaveLine]
  | take taken =>
      obtain ⟨unusable, rest, -, -, -, rfl, rfl⟩ := Pool.takeIdle_some taken
      simp [Pool.resized, PoolEvent.size?]
  | miss missed =>
      obtain ⟨-, rfl, rfl⟩ := Pool.takeIdle_none missed
      simp
  | connect => simp [Pool.addCreated, Pool.resized, Pool.report, PoolEvent.size?]
  | finish healthy discard lease =>
      have held : 1 ≤ pool.leased := counted
      unfold Pool.takeBack
      dsimp only
      split
      · simp [Pool.resized, PoolEvent.size?]
        omega
      · simp [Pool.resized, Pool.report, PoolEvent.size?]
        omega

namespace Traffic

variable {ε ρ κ : Type} {supply : Supply ε ρ κ} {t : Traffic ε ρ κ}

def Reported (t : Traffic ε ρ κ) : Prop :=
  (PoolEvent.lastSize t.log).getD (0, 0) = (t.pool.idle.length + t.unreported, t.pool.leased)

theorem Reported.news {pool : Pool (Numbered ρ)} {events : List (PoolEvent (Numbered ρ))}
    (news : PoolEvent.lastSize events = some (pool.idle.length, pool.leased)) :
    (t.become pool events).Reported := by
  simp [Reported, become, news]

theorem Reported.quiet (reported : t.Reported) (pool : Pool (Numbered ρ))
    {events : List (PoolEvent (Numbered ρ))} (quiet : PoolEvent.lastSize events = none)
    (idle : pool.idle.length = t.pool.idle.length) (leased : pool.leased = t.pool.leased) :
    (t.become pool events).Reported := by
  simpa [Reported, become, quiet, idle, leased] using reported

theorem Reported.giveUp (reported : t.Reported) (number : Nat) (call : Acquisition κ) :
    (t.giveUp supply number call).Reported := by
  have same : (call.abandon supply.numbered t.pool t.breaker t.world).1.idle = t.pool.idle ∧
      (call.abandon supply.numbered t.pool t.breaker t.world).1.leased = t.pool.leased := by
    cases call <;> exact ⟨rfl, rfl⟩
  exact reported.quiet _ rfl (congrArg List.length same.1) same.2

theorem Reported.conclude (t : Traffic ε ρ κ) (number : Nat) (discard : Bool)
    (lease : Lease (Numbered ρ)) : (t.conclude supply number discard lease).Reported :=
  Reported.news (t.pool.lastSize_takeBack (supply.numbered.healthy t.world) discard t.now lease)

theorem Reported.after (reported : t.Reported) (supply : Supply ε ρ κ) (cancelled : Bool)
    (call : Acquisition κ) : (t.after supply cancelled call).Reported := by
  have nothing (unmissed : t.missed supply call = 0)
      (there : (t.become (call.step supply.numbered t.now cancelled t.pool t.breaker t.world).pool
        (call.step supply.numbered t.now cancelled t.pool t.breaker t.world).events).Reported) :
      (t.after supply cancelled call).Reported := by
    simpa [Reported, Traffic.after, unmissed] using there
  have line (unseated : (call.standing : Standing (Numbered ρ)).hasSlot = false)
      (unmissed : t.missed supply call = 0) : (t.after supply cancelled call).Reported := by
    obtain ⟨⟨slots, pool⟩, silent, -⟩ :=
      call.step_unseated supply.numbered t.now cancelled t.pool t.breaker t.world unseated
    exact nothing unmissed (reported.quiet _ (by simp [silent]) (by simp [pool]) (by simp [pool]))
  cases call with
  | arriving => exact line rfl rfl
  | queued ticket deadline => exact line rfl rfl
  | seated =>
      rcases outcome : t.pool.takeIdle (supply.numbered.healthy t.world) t.now with
        ⟨lease | lease, next, events⟩
      · -- resources were closed and nobody was told: the count of the unreported makes up for it
        obtain ⟨-, rfl, rfl⟩ := Pool.takeIdle_none outcome
        simp only [Reported, Traffic.after, Acquisition.step, outcome, missed, become,
          PoolEvent.lastSize_append, Pool.lastSize_farewell, Option.none_or] at reported ⊢
        rw [reported]
        simp [Nat.add_comm]
      · obtain ⟨unusable, rest, -, -, -, rfl, rfl⟩ := Pool.takeIdle_some outcome
        apply nothing (by simp [missed, outcome])
        simp only [Acquisition.step, outcome]
        exact Reported.news (by simp [Pool.resized, PoolEvent.size?])
  | connecting execution =>
      apply nothing rfl
      simp only [Acquisition.step]
      split
      · exact reported.quiet _ (by simp) rfl rfl
      · exact reported.quiet _ (by simp) rfl rfl
      · exact reported.quiet _ (by simp) rfl rfl
      · exact reported.quiet _ (by simp) rfl rfl
      · exact Reported.news (by simp [Pool.addCreated, Pool.resized, Pool.report, PoolEvent.size?])

theorem Reported.change (reported : t.Reported) {next : Traffic ε ρ κ} (change : t.Change supply next) :
    next.Reported := by
  cases change with
  | nothing | join | arrive | world => exact reported
  | @advance number lent call cancelled found =>
      have after := reported.after supply cancelled call
      rcases t.advance_cases supply number cancelled lent call with ⟨caller, same⟩ | same | same
      · rw [same]
        exact after
      · rw [same]
        exact after
      · rw [same]
        exact after.giveUp number call
  | giveUp found => exact reported.giveUp _ _
  | conclude discard found => exact Reported.conclude t _ discard _
  | leave found => exact reported.quiet t.pool.freeSlot rfl rfl rfl
  | drain => exact Reported.news (by simp [Pool.closeIdle, Pool.resized, PoolEvent.size?])
  | refuse => exact reported.quiet t.pool.refuse rfl rfl rfl
  | closeSlots => exact reported.quiet t.pool.closeSlots rfl rfl rfl

theorem last_snapshot (supply : Supply ε ρ κ) (policy : PoolPolicy) (connect : Pipeline)
    (breaker : Breaker) (environment : ε) (moves : List (Move ε)) :
    let t := (start policy connect breaker environment : Traffic ε ρ κ).run supply moves
    (PoolEvent.lastSize t.log).getD (0, 0) = (t.pool.stats.idle + t.unreported, t.pool.stats.leased) :=
  run_induction supply (P := Reported) (fun _ _ change reported => reported.change change) moves _ rfl

end Traffic

end Dispatch
