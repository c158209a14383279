import Dispatch.Proofs.Exchange
import Dispatch.Proofs.Json.Values
import Dispatch.Proofs.Pool.Ownership

/-!
# Snapshots and gauges

What a listener was told last, and what the gauges of a registered adapter read, agree with the pool up
to the idle resources that went away unreported. `Exchange.Sound` is the invariant of a registry in use:
adapters are found by their names and have gauges of their own, and what is done to the pool of one
adapter is what its callers did.
-/

set_option autoImplicit false

namespace Dispatch

namespace Exchange

variable {ε ρ σ κ η : Type} {x : Exchange ε ρ σ κ η}

def standings (x : Exchange ε ρ σ κ η) (place : Nat) : List (Standing ρ) :=
  x.errands.map (Errand.standing place)

/-- An adapter is found by its name and has gauges, its pool came to what it is by the acts of its
callers, and the gauges read the counts of the pool with what went away unreported. -/
structure Tracks (x : Exchange ε ρ σ κ η) (place : Nat) (a : Adapter ε ρ σ κ) : Prop where
  wired : x.registry.names.lookup a.name = some place
  gauged : x.registry.shared.metrics.hasGauges a.key = true
  housed : ∃ policy connect log, Hall.Reached policy connect ⟨a.pool, x.standings place, log⟩
  told : x.registry.shared.metrics.gaugesOf a.key =
    ⟨MetricsRegistry.signed (a.pool.idle.length + x.unreported place),
      MetricsRegistry.signed a.pool.leased⟩

structure Sound (x : Exchange ε ρ σ κ η) : Prop where
  tracks : ∀ (place : Nat) (a : Adapter ε ρ σ κ), x.registry.adapters[place]? = some a → x.Tracks place a
  blank : ∀ key : MetricsKey, (∀ (place : Nat) (a : Adapter ε ρ σ κ),
    x.registry.adapters[place]? = some a → key.isSame a.key = false) →
      x.registry.shared.metrics.gaugesOf key = ⟨0, 0⟩
  vacant : ∀ place : Nat, x.registry.adapters[place]? = none →
    x.unreported place = 0 ∧ ∀ standing ∈ x.standings place, standing = .outside

namespace Sound

theorem start (outside : ε) (process : String) : (start outside process : Exchange ε ρ σ κ η).Sound where
  tracks place a found := by cases found
  blank key _ := rfl
  vacant place _ := ⟨rfl, fun standing member => by cases member⟩

theorem congr (sound : x.Sound) {y : Exchange ε ρ σ κ η}
    (adapters : y.registry.adapters = x.registry.adapters) (names : y.registry.names = x.registry.names)
    (metrics : y.registry.shared.metrics = x.registry.shared.metrics) (errands : y.errands = x.errands)
    (unreported : y.unreported = x.unreported) : y.Sound where
  tracks place a found := by
    rw [adapters] at found
    have before := sound.tracks place a found
    refine ⟨by rw [names]; exact before.wired, by rw [metrics]; exact before.gauged, ?_, ?_⟩
    · rw [standings, errands]
      exact before.housed
    · rw [metrics, unreported]
      exact before.told
  blank key unknown := by
    rw [metrics]
    exact sound.blank key fun place a found => unknown place a (by rw [adapters, found])
  vacant place nobody := by
    rw [adapters] at nobody
    rw [unreported, standings, errands]
    exact sound.vacant place nobody

theorem apart (sound : x.Sound) {here there : Nat} {a b : Adapter ε ρ σ κ}
    (found : x.registry.adapters[here]? = some a) (other : x.registry.adapters[there]? = some b)
    (away : there ≠ here) : b.key.isSame a.key = false := by
  apply Adapter.key_apart
  intro same
  apply away
  have place := (sound.tracks here a found).wired
  rw [← same, (sound.tracks there b other).wired] at place
  exact Option.some.inj place

theorem changed (sound : x.Sound) {here : Nat} {a next : Adapter ε ρ σ κ}
    (found : x.registry.adapters[here]? = some a) {later : Shared ε} (size : Option (Nat × Nat))
    {errands : List (Errand ε ρ σ κ η)} {unreported : Nat → Nat} (name : next.name = a.name)
    (transport : next.transport = a.transport)
    (gauges : later.metrics.gauges = (x.registry.shared.metrics.tell a.key size).gauges)
    (housed : ∃ policy connect log,
      Hall.Reached policy connect ⟨next.pool, errands.map (Errand.standing here), log⟩)
    (told : size = some (next.pool.idle.length, next.pool.leased) ∧ unreported here = 0 ∨
      size = none ∧ next.pool.leased = a.pool.leased ∧
        next.pool.idle.length + unreported here = a.pool.idle.length + x.unreported here)
    (elsewhere : ∀ place, place ≠ here → unreported place = x.unreported place ∧
      errands.map (Errand.standing place) = x.standings place) :
    Sound { x with
      registry := { x.registry with adapters := x.registry.adapters.set here next, shared := later }
      errands, unreported } := by
  have key : next.key = a.key := by rw [Adapter.key, Adapter.key, name, transport]
  have bound : here < x.registry.adapters.length := (List.getElem?_eq_some_iff.1 found).1
  have has (key : MetricsKey) : later.metrics.hasGauges key = x.registry.shared.metrics.hasGauges key := by
    rw [MetricsRegistry.hasGauges_congr gauges, MetricsRegistry.hasGauges_tell]
  have reads := MetricsRegistry.gaugesOf_congr gauges
  constructor
  case tracks =>
    intro place b found'
    rcases getElem?_set_cases found' with ⟨rfl, rfl⟩ | ⟨away, found'⟩
    · have before := sound.tracks _ a found
      refine ⟨by rw [name]; exact before.wired, by rw [has, key]; exact before.gauged, housed, ?_⟩
      simp only [reads, key]
      -- what was told is right, or nothing was told and the sum stays the same
      rcases told with ⟨rfl, reported⟩ | ⟨rfl, leased, count⟩
      · rw [reported]
        exact MetricsRegistry.gaugesOf_setSizes_self before.gauged _ _
      · rw [count, leased]
        exact before.told
    · have before := sound.tracks _ b found'
      obtain ⟨count, standings⟩ := elsewhere place away
      refine ⟨before.wired, by rw [has]; exact before.gauged, ?_, ?_⟩
      · simp only [Exchange.standings, standings]
        exact before.housed
      · simp only [reads, count]
        rw [MetricsRegistry.gaugesOf_tell_other _ (sound.apart found found' away)]
        exact before.told
  case blank =>
    intro other unknown
    have unmeant : other.isSame a.key = false := by
      rw [← key]
      exact unknown here next (List.getElem?_set_self bound)
    rw [reads, MetricsRegistry.gaugesOf_tell_other _ unmeant]
    apply sound.blank other
    intro place b found'
    by_cases there : here = place
    · subst there
      rw [found] at found'
      cases found'
      exact unmeant
    · exact unknown place b (by rw [List.getElem?_set_ne there, found'])
  case vacant =>
    intro place nobody
    have away : place ≠ here := by
      rintro rfl
      rw [List.getElem?_set_self bound] at nobody
      cases nobody
    rw [List.getElem?_set_ne (Ne.symm away)] at nobody
    obtain ⟨count, standings⟩ := elsewhere place away
    simp only [Exchange.standings, count, standings]
    exact sound.vacant place nobody

theorem still (sound : x.Sound) {errands : List (Errand ε ρ σ κ η)}
    (same : ∀ (place : Nat) (a : Adapter ε ρ σ κ), x.registry.adapters[place]? = some a →
      errands.map (Errand.standing place) = x.standings place)
    (away : ∀ place, x.registry.adapters[place]? = none →
      ∀ errand ∈ errands, errand.standing place = .outside) : Sound { x with errands } where
  tracks place a found := by
    have before := sound.tracks place a found
    refine ⟨before.wired, before.gauged, ?_, before.told⟩
    simp only [Exchange.standings, same place a found]
    exact before.housed
  blank := sound.blank
  vacant place nobody := by
    refine ⟨(sound.vacant place nobody).1, fun standing member => ?_⟩
    obtain ⟨errand, listed, rfl⟩ := List.mem_map.1 member
    exact away place nobody errand listed

theorem visit (sound : x.Sound) {number : Nat} {errand : Errand ε ρ σ κ η}
    (found : x.errands[number]? = some errand) (after : Errand ε ρ σ κ η) {registry : Registry ε ρ σ κ}
    (visit : x.registry.Visit x.now (errand.standing ·) (after.standing ·) registry) :
    ((x.become registry).setErrand number after).Sound := by
  -- callers stand where they stood wherever the one that acts does
  have still {place : Nat} (same : after.standing place = errand.standing place) :
      (x.errands.set number after).map (Errand.standing place) = x.standings place := by
    obtain ⟨bound, rfl⟩ := List.getElem?_eq_some_iff.1 found
    have there := congrArg (fun errands => errands.map (Errand.standing place))
      (List.set_getElem_self bound)
    simpa only [List.map_set, same, standings] using there
  cases visit with
  | pass same away =>
      have count : (x.become x.registry).unreported = x.unreported := funext fun place => x.become_same rfl
      simp only [setErrand, count]
      apply sound.still (fun place a found => still (same place a found))
      intro place nobody other member
      have outside := (sound.vacant place nobody).2
      rcases List.mem_or_eq_of_mem_set member with member | rfl
      · exact outside _ (List.mem_map_of_mem member)
      · rcases away place with same | gone
        · rw [same]
          exact outside _ (List.mem_map_of_mem (List.mem_of_getElem? found))
        · exact gone
  | @act here a next later events foundAdapter act elsewhere =>
      obtain ⟨policy, connect, log, reached⟩ := (sound.tracks here a foundAdapter).housed
      obtain ⟨others, before, rest⟩ := Hall.others (Errand.standing here) found
      rw [standings, before] at reached
      -- whoever holds a lease is counted, so a lease that ends is always reported
      have enough : (errand.standing here).held.card ≤ a.pool.leased := by
        have leased := reached.balanced.leased
        simp only [Hall.held, Multiset.map_cons, Multiset.sum_cons, Multiset.card_add] at leased
        omega
      have bound : here < x.registry.adapters.length := (List.getElem?_eq_some_iff.1 foundAdapter).1
      have reached' := Hall.reached_of_steps reached (act.shift.steps others log)
      rw [← rest] at reached'
      refine sound.changed foundAdapter _ act.name act.transport act.gauges ⟨policy, connect, _, reached'⟩
        ?_ fun place away => ⟨x.become_same ?_, still (elsewhere place away)⟩
      · rw [x.become_other foundAdapter (List.getElem?_set_self bound)]
        exact tally_shift act.shift enough (x.unreported here)
      · exact List.getElem?_set_ne (Ne.symm away)

theorem begin (sound : x.Sound) {call : Call ε ρ σ κ η} (outside : ∀ place, call.standing place = .outside) :
    (x.begin call).Sound := by
  have standings (place : Nat) : (x.begin call).standings place = x.standings place ++ [.outside] := by
    simp [Exchange.standings, Exchange.begin, Errand.standing, outside]
  constructor
  case tracks =>
    intro place a found
    have before := sound.tracks place a found
    obtain ⟨policy, connect, log, reached⟩ := before.housed
    have joined : Hall.Reached policy connect
        ⟨a.pool, (.outside :: x.standings place : List (Standing ρ)), log⟩ :=
      reached.step (Hall.Step.join a.pool (x.standings place) log : Hall.Step x.now _ _)
    refine ⟨before.wired, before.gauged, ⟨policy, connect, log, ?_⟩, before.told⟩
    rw [standings, Multiset.coe_eq_coe.2 (List.perm_append_singleton .outside (x.standings place))]
    exact joined
  case blank => exact sound.blank
  case vacant =>
    intro place nobody
    obtain ⟨none, away⟩ := sound.vacant place nobody
    refine ⟨none, fun standing member => ?_⟩
    rw [standings] at member
    rcases List.mem_append.1 member with member | member
    · exact away standing member
    · exact List.mem_singleton.1 member

theorem add (sound : x.Sound) {a : Adapter ε ρ σ κ} (new : x.registry.names.lookup a.name = none)
    (gauged : x.registry.shared.metrics.hasGauges a.key = true)
    {policy : PoolPolicy} {connect : Pipeline} (empty : a.pool = .new policy connect) :
    Sound { x with
      registry :=
        { adapters := x.registry.adapters ++ [a]
          names := insertSorted a.name x.registry.adapters.length x.registry.names
          shared := x.registry.shared } } := by
  have named {place : Nat} {b : Adapter ε ρ σ κ} (found : x.registry.adapters[place]? = some b) :
      b.name ≠ a.name := by
    intro same
    have wired := (sound.tracks place b found).wired
    rw [same, new] at wired
    cases wired
  constructor
  case tracks =>
    intro place b found
    rcases getElem?_concat_cases found with found | ⟨rfl, rfl⟩
    · have before := sound.tracks place b found
      refine ⟨?_, before.gauged, before.housed, before.told⟩
      rw [lookup_insertSorted, if_neg (named found)]
      exact before.wired
    · obtain ⟨unreported, outside⟩ := sound.vacant _ (List.getElem?_eq_none (Nat.le_refl _))
      have fresh := sound.blank b.key fun place c found => Adapter.key_apart (Ne.symm (named found))
      have zero : MetricsRegistry.signed 0 = 0 := Int.zero_bmod
      refine ⟨by rw [lookup_insertSorted, if_pos rfl], gauged, ?_, ?_⟩
      · rw [empty]
        exact ⟨policy, connect, [], .outside outside⟩
      · rw [fresh, empty, unreported]
        exact congrArg₂ Gauges.mk zero.symm zero.symm
  case blank =>
    intro key unknown
    apply sound.blank key
    intro place b found
    apply unknown place b
    rw [List.getElem?_append_left (List.getElem?_eq_some_iff.1 found).1, found]
  case vacant =>
    intro place nobody
    have beyond := List.getElem?_eq_none_iff.1 nobody
    rw [List.length_append] at beyond
    exact sound.vacant place (List.getElem?_eq_none (by omega))

theorem register (sound : x.Sound) (connector : Connector ε ρ σ κ) (name : String)
    (settings : BackendSettings) :
    Sound { x with registry := (x.registry.register connector name settings).2 } := by
  have enlisted (key : MetricsKey) : Sound { x with
      registry := { x.registry with
        shared := { x.registry.shared with metrics := x.registry.shared.metrics.enlist key } } } := by
    constructor
    case tracks =>
      intro place a found
      have before := sound.tracks place a found
      refine ⟨before.wired, MetricsRegistry.hasGauges_enlist _ before.gauged, before.housed, ?_⟩
      rw [MetricsRegistry.gaugesOf_enlist]
      exact before.told
    case blank =>
      intro other unknown
      rw [MetricsRegistry.gaugesOf_enlist]
      exact sound.blank other unknown
    case vacant => exact sound.vacant
  -- the series begins even if the bucket cannot be made
  unfold Registry.register
  split
  · exact sound
  · split
    · exact sound
    · rename_i free
      have new : x.registry.names.lookup name = none := Option.not_isSome_iff_eq_none.1 free
      simp only [Registry.add]
      cases settings.pool.bucket with
      | error error => exact enlisted _
      | ok bucket =>
          have added := (enlisted ⟨settings.backend.name, name⟩).add
            (a := .new name (.ofSettings connector settings) settings.pool settings.destination
              (Registry.defaultSource settings) bucket) new
            (x.registry.shared.metrics.hasGauges_enlist_self) rfl
          exact added.congr rfl rfl rfl rfl rfl

theorem drain (sound : x.Sound) {f : Adapter ε ρ σ κ → Shared ε → Adapter ε ρ σ κ × Shared ε}
    (drains : ∀ a s, Adapter.Drain x.now a (f a s).1 s (f a s).2) (place : Nat) :
    Sound { x with
      registry := x.registry.change place f
      unreported := Function.update x.unreported place 0 } := by
  unfold Registry.change
  split
  · rename_i nobody
    have same : Function.update x.unreported place 0 = x.unreported := by
      rw [← (sound.vacant place nobody).1, Function.update_eq_self]
    rw [same]
    exact sound
  · rename_i a found
    have drained := drains a x.registry.shared
    obtain ⟨policy, connect, log, reached⟩ := (sound.tracks place a found).housed
    obtain ⟨later, steps⟩ := drained.steps (x.standings place) log
    refine sound.changed found _ drained.name drained.transport drained.gauges
      ⟨policy, connect, later, Hall.reached_of_steps reached steps⟩
      (Or.inl ⟨rfl, Function.update_self ..⟩) fun other away => ⟨Function.update_of_ne away .., rfl⟩

theorem reset (sound : x.Sound) (place : Nat) :
    Sound { x with registry := x.registry.change place fun adapter shared => (adapter.reset, shared) } := by
  unfold Registry.change
  split
  · exact sound
  · rename_i a found
    exact sound.changed found none rfl rfl rfl (sound.tracks place a found).housed
      (Or.inr ⟨rfl, rfl, rfl⟩) fun other away => ⟨rfl, rfl⟩

theorem drain_all (names : List (String × Nat)) {x : Exchange ε ρ σ κ η} (sound : x.Sound) :
    ∃ unreported,
      Sound { x with
        registry := names.foldl (fun r entry => r.change entry.2 Adapter.shutdown) x.registry
        unreported } ∧
      ∀ place, (place ∈ names.map Prod.snd ∨ x.unreported place = 0) → unreported place = 0 := by
  induction names generalizing x with
  | nil => exact ⟨x.unreported, sound, fun place zero => by simpa using zero⟩
  | cons entry names ih =>
      obtain ⟨unreported, sound, cleared⟩ := ih (sound.drain (fun a s => a.shutdown_drain s x.now) entry.2)
      refine ⟨unreported, sound, fun place zero => cleared place ?_⟩
      change place ∈ names.map Prod.snd ∨ Function.update x.unreported entry.2 0 place = 0
      by_cases here : place = entry.2
      · exact Or.inr (by rw [here, Function.update_self])
      · rw [Function.update_of_ne here]
        simpa [here] using zero

theorem shutdown (sound : x.Sound) :
    Sound { x with registry := x.registry.shutdown, unreported := fun _ => 0 } := by
  obtain ⟨unreported, drained, cleared⟩ := sound.drain_all x.registry.names
  -- every adapter is found by its name, so no place is left out
  have none : unreported = fun _ => 0 := by
    funext place
    apply cleared place
    cases found : x.registry.adapters[place]? with
    | none => exact Or.inr (sound.vacant place found).1
    | some a =>
        obtain ⟨before, after, names, -⟩ := List.lookup_eq_some_iff.1 (sound.tracks place a found).wired
        exact Or.inl (by simp [names])
  rw [none] at drained
  exact drained.congr rfl rfl rfl rfl rfl

theorem giveUp (sound : x.Sound) {number : Nat} {call : Call ε ρ σ κ η}
    (found : x.errands[number]? = some (.running call)) : (x.giveUp number call).Sound :=
  sound.visit found (.ended .abandoned) (call.abandon_visit x.registry x.now)

theorem advance (sound : x.Sound) {number : Nat} {call : Call ε ρ σ κ η} (cancelled : Bool)
    (found : x.errands[number]? = some (.running call)) : (x.advance number cancelled call).Sound := by
  have visit := call.step_visit x.registry x.now cancelled
  unfold Exchange.advance
  generalize call.step x.registry x.now cancelled = outcome at visit
  obtain ⟨turn, registry⟩ := outcome
  have kept (same : ∀ place, turn.standing (Call.standing place) call = call.standing place) :
      (x.become registry).Sound := by
    simp only [same] at visit
    have sound' := sound.visit found (.running call) visit
    have there : (x.become registry).errands[number]? = some (.running call) := found
    rwa [setErrand_self there] at sound'
  cases turn with
  | finished reply => exact sound.visit found (.ended reply) visit
  | moved call => exact sound.visit found (.running call) visit
  | blocked wake => exact kept fun _ => rfl
  | overflowed => exact (kept fun _ => rfl).giveUp found

theorem perform (sound : x.Sound) (move : Move ε ρ σ κ η) : (x.perform move).Sound := by
  cases move with
  | register connector name settings => exact sound.register connector name settings
  | publish place message => exact sound.begin fun other => ite_self _
  | check place => exact sound.begin fun other => ite_self _
  | consume place source handler => exact sound.begin fun other => rfl
  | checkAll => exact sound.begin fun other => Call.standing_start [] x.registry.names other
  | step number cancelled =>
      simp only [Exchange.perform]
      split
      · rename_i call found
        exact sound.advance cancelled found
      · exact sound
  | abandon number =>
      simp only [Exchange.perform]
      split
      · rename_i call found
        exact sound.giveUp found
      · exact sound
  | closeIdle place => exact sound.drain (fun a s => a.closeIdle_drain s x.now) place
  | close place => exact sound.drain (fun a s => a.shutdown_drain s x.now) place
  | shutdown => exact sound.shutdown
  | reset place => exact sound.reset place
  | elapse duration =>
      exact sound.congr rfl rfl rfl rfl rfl
  | disturb change =>
      exact sound.congr rfl rfl rfl rfl rfl

theorem run (sound : x.Sound) (moves : List (Move ε ρ σ κ η)) : (x.run moves).Sound := by
  induction moves generalizing x with
  | nil => exact sound
  | cons move moves ih => exact ih (sound.perform move)

end Sound

end Exchange

namespace Traffic

variable {ε ρ κ : Type}

def Quiet (t : Traffic ε ρ κ) : Prop :=
  ∀ caller ∈ t.callers, caller = .away ∨ ∃ lent lease, caller = .holding lent lease

def Truthful (t : Traffic ε ρ κ) : Prop :=
  (PoolEvent.lastSize t.log).getD (0, 0) = (t.pool.stats.idle, t.pool.stats.leased)

end Traffic

/-- The last snapshot of a pool is right about the leases and counts as idle what is idle and what
acquires closed since then without finding a resource; it is truthful exactly when there is none of
these. The gauges of a registered adapter follow its pool in the same way. -/
theorem snapshots_and_gauges {ε ρ σ κ η : Type} (supply : Supply ε ρ κ) (policy : PoolPolicy)
    (connect : Pipeline) (breaker : Breaker) (environment : ε) (traffic : List (Traffic.Move ε))
    (process : String) (moves : List (Exchange.Move ε ρ σ κ η)) :
    let t := (Traffic.start policy connect breaker environment : Traffic ε ρ κ).run supply traffic
    let x := (Exchange.start environment process : Exchange ε ρ σ κ η).run moves
    ((PoolEvent.lastSize t.log).getD (0, 0) =
          (t.pool.stats.idle + t.unreported, t.pool.stats.leased) ∧
        (t.Truthful ↔ t.unreported = 0)) ∧
      ∀ (place : Nat) (a : Adapter ε ρ σ κ), x.registry.adapters[place]? = some a →
        x.registry.shared.metrics.gaugesOf a.key =
          ⟨MetricsRegistry.signed (a.pool.stats.idle + x.unreported place),
            MetricsRegistry.signed a.pool.stats.leased⟩ := by
  intro t x
  have last := Traffic.last_snapshot supply policy connect breaker environment traffic
  refine ⟨⟨last, ?_⟩, fun place a found => ?_⟩
  · rw [Traffic.Truthful, last, Prod.mk.injEq]
    exact ⟨fun told => Nat.left_eq_add.1 told.1.symm, fun none => ⟨by rw [none, Nat.add_zero], rfl⟩⟩
  · exact (((Exchange.Sound.start environment process).run moves).tracks place a found).told

def Traffic.brokenIdle : Traffic Bool Unit Unit :=
  (start .standard (.new "amqp" .connect .standard) (.new "amqp.connect" .standard) true).run .switched
    [.join, .arrive 0 false, .step 0 false, .step 0 false, .step 0 false, .step 0 false,
      .finish 0 false, .leave 0, .disturb fun _ => false,
      .arrive 0 false, .step 0 false, .step 0 false, .step 0 false, .step 0 false, .step 0 false]

theorem broken_idle_not_told : Traffic.brokenIdle.Quiet ∧ ¬Traffic.brokenIdle.Truthful := by
  refine ⟨fun caller member => Or.inl (List.mem_singleton.1 member), fun truthful => ?_⟩
  exact absurd (congrArg Prod.fst truthful) (by decide)

end Dispatch
