import Dispatch.Proofs.Pool.Ownership

set_option autoImplicit false

namespace Dispatch

theorem Pooled.isExpired_eq {ρ : Type} (entry : Pooled ρ) (policy : PoolPolicy) (now : Instant) :
    entry.isExpired policy now =
      !(policy.idleTimeout.all (now - entry.lastUsed ≤ ·) &&
        policy.maxLifetime.all (now - entry.createdAt ≤ ·)) := by
  have beyond (span limit : Duration) : decide (span > limit) = !decide (span ≤ limit) := by
    by_cases within : span ≤ limit
    · simp [within, Nat.not_lt.2 within]
    · simp [within, Nat.lt_of_not_le within]
  unfold isExpired
  cases policy.idleTimeout <;> cases policy.maxLifetime <;>
    simp only [Option.any_none, Option.any_some, Option.all_none, Option.all_some, beyond,
      Bool.not_and, Bool.not_true]

theorem Passage.origin {ρ : Type} {now : Instant} {pool next : Pool ρ} {before after : Standing ρ}
    {events : List (PoolEvent ρ)} (passage : Passage now pool before after next events) :
    (∀ entry ∈ next.idle, entry ∈ pool.idle ∨
        ∃ lease, before = .holding lease ∧ entry = { lease with lastUsed := now }) ∧
      ∀ lease, after = .holding lease → lease ∈ pool.idle ∨ before = .holding lease ∨
        ∃ resource, PoolEvent.openings events = [resource] ∧ lease = ⟨resource, now, now⟩ := by
  cases passage with
  | stay standing reports => exact ⟨fun _ => Or.inl, fun _ same => Or.inr (Or.inl same)⟩
  | enter | sit | queue | claim | giveUp | free => exact ⟨fun _ => Or.inl, fun _ holding => by cases holding⟩
  | take taken =>
      obtain ⟨unusable, rest, stack, -, -, rfl, -⟩ := Pool.takeIdle_some taken
      rw [stack]
      refine ⟨fun entry member => Or.inl ?_, ?_⟩
      · exact List.mem_append_right _ (List.mem_cons_of_mem _ member)
      · rintro lease ⟨⟩
        exact Or.inl (List.mem_append_right _ List.mem_cons_self)
  | miss missed =>
      obtain ⟨-, rfl, -⟩ := Pool.takeIdle_none missed
      exact ⟨fun _ member => (List.not_mem_nil member).elim, fun _ holding => by cases holding⟩
  | connect resource reports =>
      refine ⟨fun _ => Or.inl, ?_⟩
      rintro lease ⟨⟩
      refine Or.inr (Or.inr ⟨resource, ?_, rfl⟩)
      simp [Pool.addCreated, Pool.resized, Pool.report, PoolEvent.opened?]
  | finish healthy discard lease =>
      refine ⟨?_, fun _ holding => by cases holding⟩
      cases keeps : pool.keeps (!discard && healthy lease.resource) now lease with
      | true =>
          obtain ⟨next, outcome, rfl⟩ := Pool.takeBack_kept keeps
          rw [outcome]
          intro entry member
          rcases List.mem_cons.1 member with rfl | member
          · exact Or.inr ⟨lease, rfl, rfl⟩
          · exact Or.inl member
      | false =>
          obtain ⟨next, event, outcome, rfl⟩ := Pool.takeBack_closed keeps
          rw [outcome]
          exact fun _ => Or.inl

theorem Acquisition.step_disposals {ε ρ κ : Type} (supply : Supply ε ρ κ) (now : Instant)
    (cancelled : Bool) (pool : Pool ρ) (breaker : Breaker) (environment : ε) (call : Acquisition κ) :
    ∃ gone : List (Pooled ρ), PoolEvent.disposals
        (call.step supply now cancelled pool breaker environment).events = gone.map Pooled.resource ∧
      ∀ entry ∈ gone, entry ∈ pool.idle ∧
        Pool.isUsable (supply.healthy environment) pool now entry = false := by
  cases call with
  | arriving =>
      have silent := (step_unseated supply now cancelled pool breaker environment .arriving rfl).2.1
      exact ⟨[], by simp [silent], by simp⟩
  | queued ticket deadline =>
      have silent :=
        (step_unseated supply now cancelled pool breaker environment (.queued ticket deadline) rfl).2.1
      exact ⟨[], by simp [silent], by simp⟩
  | seated =>
      simp only [step]
      split
      · rename_i taken
        obtain ⟨unusable, rest, stack, rejected, -, -, rfl⟩ := Pool.takeIdle_some taken
        refine ⟨unusable, by simp [Pool.resized, PoolEvent.disposed?], fun entry member => ?_⟩
        exact ⟨stack ▸ List.mem_append_left _ member, rejected entry member⟩
      · rename_i missed
        obtain ⟨rejected, -, rfl⟩ := Pool.takeIdle_none missed
        exact ⟨pool.idle, by simp, fun entry member => ⟨member, rejected entry member⟩⟩
  | connecting execution =>
      refine ⟨[], ?_, by simp⟩
      simp only [step]
      split <;> simp [Pool.addCreated, Pool.resized, Pool.report, PoolEvent.disposed?]

namespace Traffic

variable {ε ρ κ : Type} {supply : Supply ε ρ κ}

structure Dated (t : Traffic ε ρ κ) (entry : Pooled (Numbered ρ)) : Prop where
  born : t.births[entry.resource.number]? = some entry.createdAt
  rested : t.rests[entry.resource.number]? = some entry.lastUsed
  order : entry.createdAt ≤ entry.lastUsed
  past : entry.lastUsed ≤ t.now

structure Stamped (t : Traffic ε ρ κ) : Prop where
  even : t.rests.length = t.births.length
  idle : ∀ entry ∈ t.pool.idle, t.Dated entry
  held : ∀ user ∈ t.callers, ∀ lease, user.standing.lease? = some lease → t.Dated lease

variable {t next : Traffic ε ρ κ}

theorem Dated.keep {entry : Pooled (Numbered ρ)} (dated : t.Dated entry) {made rested : List Instant}
    (births : next.births = t.births ++ made) (rests : next.rests = t.rests ++ rested)
    (later : t.now ≤ next.now) : next.Dated entry where
  born := by
    rw [births, List.getElem?_append_left (List.getElem?_eq_some_iff.1 dated.born).1]
    exact dated.born
  rested := by
    rw [rests, List.getElem?_append_left (List.getElem?_eq_some_iff.1 dated.rested).1]
    exact dated.rested
  order := dated.order
  past := dated.past.trans later

theorem Stamped.shrink (stamped : t.Stamped) {made : List Instant}
    (births : next.births = t.births ++ made) (rests : next.rests = t.rests ++ made)
    (later : t.now ≤ next.now) (idle : ∀ entry ∈ next.pool.idle, entry ∈ t.pool.idle)
    (held : ∀ user ∈ next.callers, user ∈ t.callers ∨ user.standing.lease? = none) : next.Stamped where
  even := by rw [births, rests, List.length_append, List.length_append, stamped.even]
  idle entry member := (stamped.idle entry (idle entry member)).keep births rests later
  held user member lease holding := by
    rcases held user member with before | free
    · exact (stamped.held user before lease holding).keep births rests later
    · rw [free] at holding
      cases holding

theorem Stamped.grant (stamped : t.Stamped) {made : List Instant} {number : Nat} {lent : Bool}
    {lease : Lease (Numbered ρ)} (births : next.births = t.births ++ made)
    (rests : next.rests = t.rests ++ made) (later : t.now ≤ next.now)
    (idle : ∀ entry ∈ next.pool.idle, entry ∈ t.pool.idle)
    (callers : next.callers = t.callers.set number (.holding lent lease)) (dated : next.Dated lease) :
    next.Stamped where
  even := by rw [births, rests, List.length_append, List.length_append, stamped.even]
  idle entry member := (stamped.idle entry (idle entry member)).keep births rests later
  held user member other holding := by
    rw [callers] at member
    rcases List.mem_or_eq_of_mem_set member with before | rfl
    · exact (stamped.held user before other holding).keep births rests later
    · cases holding
      exact dated

theorem mem_setCaller {callers : List (Caller (Numbered ρ) κ)} {number : Nat}
    {user free : Caller (Numbered ρ) κ} (unleased : free.standing.lease? = none)
    (member : user ∈ callers.set number free) : user ∈ callers ∨ user.standing.lease? = none := by
  rcases List.mem_or_eq_of_mem_set member with before | rfl
  · exact Or.inl before
  · exact Or.inr unleased

theorem Stamped.giveUp (stamped : t.Stamped) (number : Nat) (call : Acquisition κ) :
    (t.giveUp supply number call).Stamped := by
  have origin := (call.abandon_passage supply.numbered t.now t.pool t.breaker t.world).origin.1
  refine stamped.shrink (List.append_nil _).symm (List.append_nil _).symm (Nat.le_refl _) ?_ ?_
  · intro entry member
    apply (origin entry member).resolve_right
    rintro ⟨lease, holding, -⟩
    cases call <;> cases holding
  · intro user member
    rcases List.mem_or_eq_of_mem_set member with before | rfl
    · exact Or.inl before
    · exact Or.inr rfl

theorem Stamped.granted (stamped : t.Stamped) {cancelled : Bool} {call : Acquisition κ}
    {lease : Lease (Numbered ρ)}
    (turn : (call.step supply.numbered t.now cancelled t.pool t.breaker t.world).turn =
      .finished (.ok lease)) :
    (t.after supply cancelled call).Dated lease := by
  have passage := call.step_passage supply.numbered t.now cancelled t.pool t.breaker t.world
  have numbered := call.step_numbered supply t.now t.environment t.births.length cancelled t.breaker t.pool
  dsimp only at passage numbered
  change (∃ resource, (call.step supply.numbered t.now cancelled t.pool t.breaker t.world).turn = _ ∧ _) ∨
    _ at numbered
  rw [turn] at passage numbered
  -- the resource was idle, and nothing changed its stamps, or it was made just now
  rcases passage.origin.2 lease rfl with idle | holding | ⟨resource, opened, rfl⟩
  · exact (stamped.idle lease idle).keep rfl rfl (Nat.le_refl _)
  · cases call <;> cases holding
  · rcases numbered with ⟨made, same, -, count⟩ | ⟨unopened, -⟩
    · obtain rfl : resource = ⟨t.births.length, made⟩ := by simpa using same
      have births : (t.after supply cancelled call).births = t.births ++ [t.now] := by
        simp [Traffic.after, world, count]
      have rests : (t.after supply cancelled call).rests = t.rests ++ [t.now] := by
        simp [Traffic.after, world, count]
      refine ⟨?_, ?_, Nat.le_refl _, Nat.le_refl _⟩
      · rw [births, List.getElem?_concat_length]
      · rw [rests, ← stamped.even, List.getElem?_concat_length]
    · change PoolEvent.openings (call.step supply.numbered t.now cancelled t.pool t.breaker
        t.world).events = [] at unopened
      rw [unopened] at opened
      cases opened

theorem Stamped.advance (stamped : t.Stamped) (number : Nat) (cancelled lent : Bool)
    (call : Acquisition κ) : (t.advance supply number cancelled lent call).Stamped := by
  have passage := call.step_passage supply.numbered t.now cancelled t.pool t.breaker t.world
  have idle := passage.origin.1
  have below : ∀ entry ∈ (t.after supply cancelled call).pool.idle, entry ∈ t.pool.idle := by
    intro entry member
    apply (idle entry member).resolve_right
    rintro ⟨lease, holding, -⟩
    exact call.not_holding lease holding
  have still : (t.after supply cancelled call).Stamped :=
    stamped.shrink rfl rfl (Nat.le_refl _) below fun _ => Or.inl
  have settle (user : Caller (Numbered ρ) κ) (free : user.standing.lease? = none) :
      ((t.after supply cancelled call).setCaller number user).Stamped := by
    exact stamped.shrink rfl rfl (Nat.le_refl _) below fun other => mem_setCaller free
  unfold Traffic.advance
  dsimp only
  split
  · rename_i lease turn
    have dated : ((t.after supply cancelled call).setCaller number (.holding lent lease)).Dated lease :=
      (stamped.granted turn).keep (List.append_nil _).symm (List.append_nil _).symm (Nat.le_refl _)
    exact stamped.grant rfl rfl (Nat.le_refl _) below rfl dated
  · exact settle _ rfl
  · rename_i moved turn
    exact settle _ (by cases moved <;> rfl)
  · exact still
  · exact still.giveUp number call

theorem Stamped.conclude (stamped : t.Stamped)
    (distinct : (t.idleNumbers ++ t.heldNumbers ++ t.disposedNumbers).Nodup) {number : Nat} {lent : Bool}
    {lease : Lease (Numbered ρ)} (found : t.callers[number]? = some (.holding lent lease))
    (discard : Bool) : (t.conclude supply number discard lease).Stamped := by
  have dated := stamped.held _ (List.mem_of_getElem? found) lease rfl
  have here : t.numberAt (.held number) = some lease.resource.number := by
    simp [numberAt, found, Caller.number?, Caller.standing, Standing.lease?]
  cases keeps :
      t.pool.keeps (!discard && supply.numbered.healthy t.world lease.resource) t.now lease with
  | false =>
      obtain ⟨event, outcome⟩ := conclude_closed number keeps
      rw [outcome]
      exact stamped.shrink (List.append_nil _).symm (List.append_nil _).symm (Nat.le_refl _)
        (fun _ => id) fun user => mem_setCaller rfl
  | true =>
      rw [conclude_kept number keeps]
      -- only this resource is put to rest, and no other entry has its number
      have other {entry : Pooled (Numbered ρ)} {place : Place}
          (there : t.numberAt place = some entry.resource.number) (apart : place ≠ .held number)
          (dated' : t.Dated entry) :
          (t.rests.set lease.resource.number t.now)[entry.resource.number]? = some entry.lastUsed := by
        rw [List.getElem?_set_ne]
        · exact dated'.rested
        · intro same
          exact apart (numberAt_unique distinct there (same ▸ here))
      have bound := (List.getElem?_eq_some_iff.1 dated.rested).1
      refine ⟨by simpa using stamped.even, ?_, ?_⟩
      · intro entry member
        rcases List.mem_cons.1 member with rfl | member
        · exact ⟨dated.born, List.getElem?_set_self bound, dated.order.trans dated.past, Nat.le_refl _⟩
        · obtain ⟨position, there⟩ :=
            mem_idleNumbers.1 (List.mem_map_of_mem (f := fun e => e.resource.number) member)
          have dated' := stamped.idle entry member
          exact ⟨dated'.born, other there (by simp) dated', dated'.order, dated'.past⟩
      · intro user member lease' holding
        obtain ⟨caller, present⟩ := List.getElem?_of_mem member
        have apart : caller ≠ number := by
          rintro rfl
          rw [List.getElem?_set_self (List.getElem?_eq_some_iff.1 found).1] at present
          obtain rfl := Option.some.inj present
          cases holding
        rw [List.getElem?_set_ne (Ne.symm apart)] at present
        have there : t.numberAt (.held caller) = some lease'.resource.number := by
          simp [numberAt, present, Caller.number?, holding]
        have dated' := stamped.held user (List.mem_of_getElem? present) lease' holding
        exact ⟨dated'.born, other there (by simpa using apart) dated', dated'.order, dated'.past⟩

theorem Stamped.change (stamped : t.Stamped)
    (distinct : (t.idleNumbers ++ t.heldNumbers ++ t.disposedNumbers).Nodup) {next : Traffic ε ρ κ}
    (change : t.Change supply next) : next.Stamped := by
  have quiet {next : Traffic ε ρ κ} (births : next.births = t.births) (rests : next.rests = t.rests)
      (later : t.now ≤ next.now) (idle : ∀ entry ∈ next.pool.idle, entry ∈ t.pool.idle)
      (held : ∀ user ∈ next.callers, user ∈ t.callers ∨ user.standing.lease? = none) : next.Stamped :=
    stamped.shrink (births.trans (List.append_nil _).symm) (rests.trans (List.append_nil _).symm)
      later idle held
  cases change with
  | nothing => exact stamped
  | join =>
      refine quiet rfl rfl (Nat.le_refl _) (fun _ => id) fun user member => ?_
      rcases List.mem_append.1 member with before | added
      · exact Or.inl before
      · rw [List.mem_singleton.1 added]
        exact Or.inr rfl
  | arrive | leave =>
      exact quiet rfl rfl (Nat.le_refl _) (fun _ => id) fun user => mem_setCaller rfl
  | advance cancelled found => exact stamped.advance _ cancelled _ _
  | giveUp found => exact stamped.giveUp _ _
  | conclude discard found => exact stamped.conclude distinct found discard
  | drain =>
      exact quiet rfl rfl (Nat.le_refl _) (fun _ member => (List.not_mem_nil member).elim) fun _ => Or.inl
  | refuse | closeSlots => exact quiet rfl rfl (Nat.le_refl _) (fun _ => id) fun _ => Or.inl
  | world duration environment breaker =>
      exact quiet rfl rfl (Nat.le_add_right _ _) (fun _ => id) fun _ => Or.inl

theorem run_stamped (supply : Supply ε ρ κ) (policy : PoolPolicy) (connect : Pipeline)
    (breaker : Breaker) (environment : ε) (moves : List (Move ε)) :
    ((start policy connect breaker environment : Traffic ε ρ κ).run supply moves).Stamped := by
  have nothing : (start policy connect breaker environment : Traffic ε ρ κ).Ordered := rfl
  refine (run_induction supply (P := fun t =>
    Hall.Reached policy connect t.hall ∧ t.Ordered ∧ t.Stamped) ?_ moves _ ⟨.start, nothing, ?_⟩).2.2
  · rintro t next change ⟨reached, ordered, stamped⟩
    have distinct := (numbers_perm reached.balanced ordered).nodup_iff.2 List.nodup_range
    exact ⟨Hall.reached_of_steps reached change.steps, ordered.change change,
      stamped.change distinct change⟩
  · exact ⟨rfl, fun _ member => (List.not_mem_nil member).elim,
      fun _ member => (List.not_mem_nil member).elim⟩

/-! ## What decides -/

structure ReuseDecided (supply : Supply ε ρ κ) (t : Traffic ε ρ κ) : Prop where
  ended : ∀ (caller : Nat) (lent : Bool) (lease : Lease (Numbered ρ)),
    t.callers[caller]? = some (.holding lent lease) →
    t.Dated lease ∧
      (supply.healthy t.environment lease.resource.resource → t.pool.shutDown = false →
        t.pool.policy.maxLifetime.all (t.now - lease.createdAt ≤ ·) →
        t.pool.idle.length < t.pool.policy.maxSize →
        ∀ move ∈ [Move.finish caller false, .abandon caller],
          if t.pool.policy.idleTimeout.all (t.now - lease.lastUsed ≤ ·) then
            (t.perform supply move).pool.idle = { lease with lastUsed := t.now } :: t.pool.idle ∧
              PoolEvent.disposals (t.perform supply move).log = PoolEvent.disposals t.log
          else
            (t.perform supply move).pool.idle = t.pool.idle ∧
              PoolEvent.disposals (t.perform supply move).log =
                PoolEvent.disposals t.log ++ [lease.resource])
  passed : ∀ (caller : Nat) (cancelled : Bool), ∃ gone : List (Pooled (Numbered ρ)),
    PoolEvent.disposals (t.perform supply (.step caller cancelled)).log =
        PoolEvent.disposals t.log ++ gone.map Pooled.resource ∧
      ∀ entry ∈ gone, entry ∈ t.pool.idle ∧ t.Dated entry ∧
        (supply.healthy t.environment entry.resource.resource = false ∨
          t.pool.policy.maxLifetime.any (t.now - entry.createdAt > ·) ∨
          t.pool.policy.idleTimeout.any (t.now - entry.lastUsed > ·))

theorem disposals_step (supply : Supply ε ρ κ) (t : Traffic ε ρ κ) (caller : Nat) (cancelled : Bool) :
    ∃ gone : List (Pooled (Numbered ρ)),
      PoolEvent.disposals (t.perform supply (.step caller cancelled)).log =
          PoolEvent.disposals t.log ++ gone.map Pooled.resource ∧
        ∀ entry ∈ gone, entry ∈ t.pool.idle ∧
          Pool.isUsable (supply.numbered.healthy t.world) t.pool t.now entry = false := by
  simp only [perform]
  split
  · rename_i lent call found
    obtain ⟨gone, disposed, unusable⟩ :=
      call.step_disposals supply.numbered t.now cancelled t.pool t.breaker t.world
    exact ⟨gone, by rw [advance_log, PoolEvent.disposals_append, disposed], unusable⟩
  · exact ⟨[], (List.append_nil _).symm, fun _ member => (List.not_mem_nil member).elim⟩

/-- A resource that could be used again is, unless its idle timeout has run out since it was last
put to rest: the time that it was leased counts. Acquires close what is broken, too old or was at rest
for too long. -/
theorem reuse_decided (supply : Supply ε ρ κ) (policy : PoolPolicy) (connect : Pipeline)
    (breaker : Breaker) (environment : ε) (moves : List (Move ε)) :
    ((start policy connect breaker environment : Traffic ε ρ κ).run supply moves).ReuseDecided
      supply := by
  have stamped := run_stamped supply policy connect breaker environment moves
  generalize (start policy connect breaker environment : Traffic ε ρ κ).run supply moves = t at stamped
  refine ⟨fun caller lent lease found => ⟨?_, ?_⟩, fun caller cancelled => ?_⟩
  · exact stamped.held _ (List.mem_of_getElem? found) lease rfl
  · intro healthy unshut young room move ends
    -- all that is left of the test is the idle timeout, counted from before the lease
    have keeps : t.pool.keeps (!false && supply.numbered.healthy t.world lease.resource) t.now lease =
        t.pool.policy.idleTimeout.all (t.now - lease.lastUsed ≤ ·) := by
      have healthy' : supply.numbered.healthy t.world lease.resource = true := healthy
      simp only [Pool.keeps, healthy', unshut, Pooled.isExpired_eq, young, room, Bool.not_false,
        Bool.and_true, Bool.true_and, Bool.not_not, decide_true]
    rw [perform_end found ends]
    split
    · rename_i rested
      rw [conclude_kept caller (keeps.trans rested)]
      exact ⟨rfl, by simp [PoolEvent.disposed?]⟩
    · rename_i unrested
      obtain ⟨event, outcome⟩ := conclude_closed caller
        (keeps.trans (Bool.eq_false_iff.2 unrested))
      rw [outcome]
      exact ⟨rfl, by simp [PoolEvent.disposed?]⟩
  · obtain ⟨gone, disposed, unusable⟩ := disposals_step supply t caller cancelled
    refine ⟨gone, disposed, fun entry member => ?_⟩
    obtain ⟨idle, rejected⟩ := unusable entry member
    refine ⟨idle, stamped.idle entry idle, ?_⟩
    simp only [Pool.isUsable, Pooled.isExpired, Bool.and_eq_false_iff, Bool.not_eq_false',
      Bool.or_eq_true] at rejected
    rcases rejected with (rested | aged) | broken
    · exact Or.inr (Or.inr rested)
    · exact Or.inr (Or.inl aged)
    · exact Or.inl broken

def ReusesHealthy (supply : Supply ε ρ κ) (t : Traffic ε ρ κ) : Prop :=
  ∀ (caller : Nat) (lent : Bool) (lease : Lease (Numbered ρ)),
    t.callers[caller]? = some (.holding lent lease) →
    supply.healthy t.environment lease.resource.resource → t.pool.shutDown = false →
    t.pool.policy.maxLifetime.all (t.now - lease.createdAt ≤ ·) →
    t.pool.idle.length < t.pool.policy.maxSize →
    ∀ move ∈ [Move.finish caller false, .abandon caller],
      (t.perform supply move).pool.idle = { lease with lastUsed := t.now } :: t.pool.idle ∧
        PoolEvent.disposals (t.perform supply move).log = PoolEvent.disposals t.log

def longLease : Traffic Bool Unit Unit :=
  (start { PoolPolicy.standard with idleTimeout := some (.ofSeconds 1) }
    (.new "amqp" .connect .standard) (.new "amqp.connect" .standard) true).run .switched
    [.join, .arrive 0 false, .step 0 false, .step 0 false, .step 0 false, .step 0 false,
      .elapse (.ofSeconds 2)]

theorem long_lease_not_reused : ¬longLease.ReusesHealthy .switched := by
  intro reuses
  have found : longLease.callers[0]? = some (.holding false ⟨⟨0, ()⟩, 0, 0⟩) := rfl
  have kept := reuses 0 false ⟨⟨0, ()⟩, 0, 0⟩ found rfl rfl (by decide) (by decide) (.finish 0 false)
    (by simp)
  exact absurd (congrArg List.length kept.2) (by decide)

end Traffic

end Dispatch
