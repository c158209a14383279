import Dispatch.Proofs.Cancellation.Leases
import Dispatch.Proofs.Isolation.Records

set_option autoImplicit false

namespace Dispatch

section Gauges

variable {ε ρ σ κ : Type} {now : Instant} {a next : Adapter ε ρ σ κ} {s later : Shared ε} {key : MetricsKey}

theorem Adapter.Act.gauges_apart {before after : Standing ρ} {events : List (PoolEvent ρ)}
    (act : Adapter.Act now before after a next s later events) (apart : key.isSame a.key = false) :
    later.metrics.gaugesOf key = s.metrics.gaugesOf key :=
  (MetricsRegistry.gaugesOf_congr act.gauges key).trans (MetricsRegistry.gaugesOf_tell_other _ apart _)

theorem Adapter.Drain.gauges_apart (drain : Adapter.Drain now a next s later)
    (apart : key.isSame a.key = false) : later.metrics.gaugesOf key = s.metrics.gaugesOf key :=
  (MetricsRegistry.gaugesOf_congr drain.gauges key).trans (MetricsRegistry.gaugesOf_tell_other _ apart _)

end Gauges

namespace Part

variable {ε ρ σ κ η : Type} {now : Instant} {a next : Adapter ε ρ σ κ} {s later : Shared ε}
  {part : Part ε ρ σ κ η} {prompt : Prompt} {fate : Fate ε ρ σ κ η} {key : MetricsKey}

theorem step_gauges (part : Part ε ρ σ κ η) (s : Shared ε) (now : Instant) (cancelled : Bool)
    (apart : key.isSame a.key = false) :
    (part.step a s now cancelled).shared.metrics.gaugesOf key = s.metrics.gaugesOf key := by
  cases part with
  | publishing message progress =>
      obtain ⟨events, act⟩ := progress.step_act a s message now cancelled
      exact act.gauges_apart apart
  | checking progress =>
      obtain ⟨events, act⟩ := progress.step_act a s now cancelled
      exact act.gauges_apart apart
  | consuming source handler progress =>
      exact (progress.step_act a s source handler now cancelled).gauges_apart apart

theorem abandon_gauges (part : Part ε ρ σ κ η) (s : Shared ε) (now : Instant)
    (apart : key.isSame a.key = false) :
    (part.abandon a s now).2.metrics.gaugesOf key = s.metrics.gaugesOf key := by
  cases part with
  | publishing message progress =>
      obtain ⟨events, act⟩ := progress.abandon_act a s now
      exact act.gauges_apart apart
  | checking progress =>
      obtain ⟨events, act⟩ := progress.abandon_act a s now
      exact act.gauges_apart apart
  | consuming source handler progress =>
      exact (progress.abandon_act a s source handler now).gauges_apart apart

theorem Deed.gauges_apart (deed : part.Deed now a s prompt fate next later) (apart : key.isSame a.key = false) :
    later.metrics.gaugesOf key = s.metrics.gaugesOf key := by
  cases deed with
  | moved | waited | finished => exact part.step_gauges s now _ apart
  | @broke cancelled next later turn left =>
      obtain ⟨name, transport⟩ := part.step_wiring a s now cancelled
      have same : (part.step a s now cancelled).adapter.key = a.key := by
        rw [Adapter.key, Adapter.key, name, transport]
      have given := part.abandon_gauges (part.step a s now cancelled).shared now (same ▸ apart)
      rw [left] at given
      exact given.trans (part.step_gauges s now cancelled apart)
  | gaveUp left =>
      have given := part.abandon_gauges s now apart
      rwa [left] at given

end Part

namespace Registry

variable {ε ρ σ κ : Type} {r : Registry ε ρ σ κ} {key : MetricsKey}

theorem change_gauges {there : Nat} {f : Adapter ε ρ σ κ → Shared ε → Adapter ε ρ σ κ × Shared ε}
    (others : ∀ b, r.adapters[there]? = some b →
      (f b r.shared).2.metrics.gaugesOf key = r.shared.metrics.gaugesOf key) :
    (r.change there f).shared.metrics.gaugesOf key = r.shared.metrics.gaugesOf key := by
  unfold change
  split
  · rfl
  · rename_i b found
    exact others b found

theorem register_gauges (r : Registry ε ρ σ κ) (connector : Connector ε ρ σ κ) (name : String)
    (settings : BackendSettings) :
    (r.register connector name settings).2.shared.metrics.gaugesOf key = r.shared.metrics.gaugesOf key := by
  have outcome := r.register_outcome connector name settings
  generalize r.register connector name settings = result at outcome ⊢
  cases outcome with
  | invalid | taken => rfl
  | tooFast | wired => exact MetricsRegistry.gaugesOf_enlist _

end Registry

namespace Exchange

variable {ε ρ σ κ η : Type} {x y : Exchange ε ρ σ κ η} {move : Move ε ρ σ κ η}

def Touches (x : Exchange ε ρ σ κ η) (move : Move ε ρ σ κ η) (place : Nat) : Prop :=
  match move with
  | .step number _ | .abandon number => ∃ part, x.part? number = some (place, part)
  | .closeIdle there | .close there | .reset there => there = place
  | .shutdown => True
  | _ => False

structure Spares (x y : Exchange ε ρ σ κ η) (place : Nat) (a : Adapter ε ρ σ κ) : Prop where
  adapter : y.registry.adapters[place]? = some a
  gauges : y.registry.shared.metrics.gaugesOf a.key = x.registry.shared.metrics.gaugesOf a.key

theorem Change.spares (change : x.Change move y) (sound : x.Sound) {number place : Nat} {prompt : Prompt}
    {a : Adapter ε ρ σ κ} (prompted : move.prompt? = some (number, prompt))
    (here : x.registry.adapters[place]? = some a) (apart : ∀ part, x.part? number ≠ some (place, part)) :
    x.Spares y place a := by
  cases change with
  | tended unprompted | began unprompted =>
      rw [unprompted] at prompted
      cases prompted
  | passed _ _ registry | left _ _ _ _ registry => exact ⟨by rw [registry, here], by rw [registry]⟩
  | @acted _ _ call _ there part b next later _ prompted' found known there' deed _ registry =>
      rw [prompted] at prompted'
      cases prompted'
      have away : there ≠ place := by
        rintro rfl
        exact apart part (part?_iff.2 ⟨call, found, known⟩)
      have keys := sound.apart there' here (Ne.symm away)
      exact ⟨by rw [registry, List.getElem?_set_ne away, here], by rw [registry]; exact deed.gauges_apart keys⟩

theorem Sound.spares (sound : x.Sound) {place : Nat} {a : Adapter ε ρ σ κ}
    (here : x.registry.adapters[place]? = some a) (untouched : ¬x.Touches move place) :
    x.Spares (x.perform move) place a := by
  have change := x.perform_change move
  -- what is looked after lies elsewhere and has gauges of its own
  have drained {there : Nat} {f : Adapter ε ρ σ κ → Shared ε → Adapter ε ρ σ κ × Shared ε}
      (drains : ∀ a s, Adapter.Drain x.now a (f a s).1 s (f a s).2) (away : there ≠ place) :
      (x.registry.change there f).adapters[place]? = some a ∧
        (x.registry.change there f).shared.metrics.gaugesOf a.key =
          x.registry.shared.metrics.gaugesOf a.key := by
    constructor
    · rw [Registry.change_found here, if_neg away]
    · apply Registry.change_gauges
      intro b found
      exact (drains b _).gauges_apart (sound.apart found here (Ne.symm away))
  cases move with
  | step number cancelled =>
      exact change.spares sound rfl here fun part working => untouched ⟨part, working⟩
  | abandon number => exact change.spares sound rfl here fun part working => untouched ⟨part, working⟩
  | register connector name settings =>
      exact ⟨Registry.register_found here connector name settings, x.registry.register_gauges ..⟩
  | publish | check | consume | checkAll | elapse | disturb => exact ⟨here, rfl⟩
  | closeIdle there =>
      obtain ⟨adapter, gauges⟩ := drained (fun a s => a.closeIdle_drain s x.now) untouched
      exact ⟨adapter, gauges⟩
  | close there =>
      obtain ⟨adapter, gauges⟩ := drained (fun a s => a.shutdown_drain s x.now) untouched
      exact ⟨adapter, gauges⟩
  | shutdown => exact absurd trivial untouched
  | reset there =>
      have away : there ≠ place := untouched
      refine ⟨?_, Registry.change_gauges fun _ _ => rfl⟩
      exact (Registry.change_found here there _).trans (by rw [if_neg away])

theorem breakers_kept (x : Exchange ε ρ σ κ η) {number place : Nat} {prompt : Prompt} {part : Part ε ρ σ κ η}
    {a : Adapter ε ρ σ κ} (prompted : move.prompt? = some (number, prompt))
    (working : x.part? number = some (place, part)) (here : x.registry.adapters[place]? = some a) :
    ∃ next, (x.perform move).registry.adapters[place]? = some next ∧
      ∀ kind, part.attempting ≠ some kind → next.breaker kind = a.breaker kind := by
  obtain ⟨call, fate, errand, next, later, found, deed, succeeds, errands, there, shared⟩ :=
    (x.perform_change move).acts prompted working here
  refine ⟨next, there, fun kind other => ?_⟩
  have heeds := deed.heeds.1 kind
  rw [part.notice?_other other] at heeds
  generalize part.attempt? kind = before at heeds
  generalize fate.attempt? kind = after at heeds
  generalize next.breaker kind = breaker at heeds
  cases heeds with
  | quiet => rfl

/-- In a run with any adapters, a move changes only what it touches: an adapter it does not touch is left as it
is, breakers, pool, bucket and all, and so are its gauges. In the adapter where a call works, connecting and
subscribing change the connect breaker only and sending the publish breaker only. Every breaker is what the record
of the attempts of its kind at its place makes of a fresh one; other attempts are not in it, and no breaker has a
say in what it is told. -/
theorem adapters_isolated (outside : ε) (process : String) (moves : List (Move ε ρ σ κ η)) :
    let first := (start outside process : Exchange ε ρ σ κ η)
    let x := first.run moves
    (∀ (move : Move ε ρ σ κ η) (place : Nat) (a : Adapter ε ρ σ κ), x.registry.adapters[place]? = some a →
        ¬x.Touches move place → x.Spares (x.perform move) place a) ∧
      (∀ (move : Move ε ρ σ κ η) (number place : Nat) (prompt : Prompt) (part : Part ε ρ σ κ η)
          (a : Adapter ε ρ σ κ), move.prompt? = some (number, prompt) → x.part? number = some (place, part) →
        x.registry.adapters[place]? = some a →
        ∃ next, (x.perform move).registry.adapters[place]? = some next ∧
          ∀ kind, part.attempting ≠ some kind → next.breaker kind = a.breaker kind) ∧
      (∀ (kind : OperationKind) (place : Nat) (a : Adapter ε ρ σ κ), x.registry.adapters[place]? = some a →
        a.breaker kind = ((first.record kind place moves).foldl Gate.hear
          (.fresh (a.breaker kind).name (a.breaker kind).policy)).breaker) ∧
      ∀ (kind : OperationKind) (a : Adapter ε ρ σ κ) (s : Shared ε) (now : Instant) (prompt : Prompt)
        (part : Part ε ρ σ κ η) (connectBreaker publishBreaker : Breaker),
        (part.attempting ≠ some kind → part.notice? kind a s now prompt = none) ∧
          part.notice? kind { a with connectBreaker, publishBreaker } s now prompt =
            part.notice? kind a s now prompt := by
  intro first x
  have sound : x.Sound := (Sound.start outside process).run moves
  refine ⟨?_, ?_, ?_, ?_⟩
  · intro move place a here untouched
    exact sound.spares here untouched
  · intro move number place prompt part a prompted working here
    exact x.breakers_kept prompted working here
  · intro kind place a here
    exact (placed_start outside process).run_recorded kind moves rfl here
  · intro kind a s now prompt part connectBreaker publishBreaker
    exact ⟨fun other => part.notice?_other other a s now prompt, part.notice?_breakers kind a s now prompt _ _⟩

-- two adapters with one connector: the first one connects and fails to send, the other hears nothing
example :
    let moves : List (Move MemoryBroker MemoryHandle Nat MemoryCall Unit) :=
      [.register MemoryBroker.connector "a" (.amqp .standard),
        .register MemoryBroker.connector "b" (.amqp .standard),
        .disturb fun b => { b with failSends := 1 }, .publish 0 (.envelope default default)] ++
        List.replicate 12 (.step 0 false)
    let x : Exchange MemoryBroker MemoryHandle Nat MemoryCall Unit := start .new "process"
    x.record .connect 0 moves = [.notice 0 0 .asks, .notice 0 0 (.ends .success)] ∧
      x.record .publish 0 moves = [.notice 0 0 .asks, .notice 0 0 (.ends .failure)] ∧
      x.record .connect 1 moves = [] ∧ x.record .publish 1 moves = [] := by
  decide +kernel

end Exchange

end Dispatch
