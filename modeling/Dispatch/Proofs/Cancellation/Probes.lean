import Dispatch.Proofs.Cancellation.Permits

set_option autoImplicit false

namespace Dispatch

def Breaker.ProbesHalfOpen (b : Breaker) : Prop := b.probing = true → b.state = .halfOpen

theorem Breaker.Trades.probe {now : Instant} {prompt : Prompt} {b next : Breaker} {before after : Option Attempt}
    (trades : b.Trades now prompt before after next) (half : b.ProbesHalfOpen) :
    next.ProbesHalfOpen ∧ (next.probing = true →
      (∃ attempt, after = some attempt ∧ attempt.permit.probe = true) ∨
        b.probing = true ∧ ∀ attempt, before = some attempt → attempt.permit.probe = true → after = before) := by
  cases trades with
  | kept => exact ⟨half, fun probing => .inr ⟨probing, fun attempt _ _ => rfl⟩⟩
  | begun prompted asked =>
      rename_i attempt
      generalize same : attempt.permit = permit at asked
      cases asked with
      | pass closed => exact ⟨half, fun probing => .inr ⟨probing, fun attempt none => by cases none⟩⟩
      | due => exact ⟨fun _ => rfl, fun _ => .inl ⟨attempt, rfl, by rw [same]⟩⟩
      | probe halfOpen => exact ⟨fun _ => halfOpen, fun _ => .inl ⟨attempt, rfl, by rw [same]⟩⟩
  | settled attempt verdict =>
      have told := b.record_told now attempt.permit verdict
      generalize b.record now attempt.permit verdict = after at told
      cases told with
      | ignored ignored =>
          refine ⟨half, fun probing => .inr ⟨probing, fun other held probe => ?_⟩⟩
          cases held
          simp [Breaker.Ignores, half probing, probe] at ignored
      | forgiven closed | counted closed =>
          have idle (probing : b.probing = true) : False := by simp [half probing] at closed
          exact ⟨fun probing => (idle probing).elim, fun probing => (idle probing).elim⟩
      | tripped closed =>
          have idle (probing : b.probing = true) : False := by simp [half probing] at closed
          exact ⟨fun probing => (idle probing).elim, fun probing => (idle probing).elim⟩
      | recovered | reopened | freed => exact ⟨fun probing => (by cases probing), fun probing => (by cases probing)⟩

namespace Exchange

variable {ε ρ σ κ η : Type} {x y : Exchange ε ρ σ κ η} {move : Move ε ρ σ κ η}

def attempt? (x : Exchange ε ρ σ κ η) (kind : OperationKind) (number : Nat) : Option (Nat × Attempt) :=
  (x.part? number).bind fun entry => (entry.2.attempt? kind).map fun attempt => (entry.1, attempt)

theorem attempt?_iff {kind : OperationKind} {number place : Nat} {attempt : Attempt} :
    x.attempt? kind number = some (place, attempt) ↔
      ∃ part, x.part? number = some (place, part) ∧ part.attempt? kind = some attempt := by
  simp only [attempt?, Option.bind_eq_some_iff, Option.map_eq_some_iff, Prod.mk.injEq, Prod.exists]
  constructor
  · rintro ⟨there, part, known, other, running, rfl, rfl⟩
    exact ⟨part, known, running⟩
  · rintro ⟨part, known, running⟩
    exact ⟨place, part, known, attempt, running, rfl, rfl⟩

/-- The token of a call is cancelled from here on: every step of the call sees it. -/
def Cancels (number : Nat) (moves : List (Move ε ρ σ κ η)) : Prop := .step number false ∉ moves

theorem Change.attempt_of_cancelled (change : x.Change move y) {kind : OperationKind} {number : Nat}
    (cancelled : move ≠ .step number false) {running : Nat × Attempt}
    (known : y.attempt? kind number = some running) : x.attempt? kind number = some running := by
  obtain ⟨place, attempt⟩ := running
  obtain ⟨part, known, running⟩ := attempt?_iff.1 known
  cases change.comes known with
  | stayed same => exact attempt?_iff.2 ⟨part, same, running⟩
  | begun begins =>
      rw [Part.attempt_fresh begins.isFresh kind] at running
      cases running
  | @acted prompt before _ a next later prompted known here deed =>
      have trades := deed.trades.1 kind
      rw [Part.Fate.attempt?, running] at trades
      generalize held : before.attempt? kind = was at trades
      generalize next.breaker kind = after at trades
      cases trades with
      | kept => exact attempt?_iff.2 ⟨before, known, held⟩
      | begun live => exact absurd (Move.eq_step (live ▸ prompted)) cancelled

theorem attempt_of_cancelled {kind : OperationKind} {number : Nat} {later : List (Move ε ρ σ κ η)}
    (cancelled : Cancels number later) {running : Nat × Attempt}
    (known : (x.run later).attempt? kind number = some running) : x.attempt? kind number = some running := by
  induction later generalizing x with
  | nil => exact known
  | cons move later ih =>
      rw [Cancels, List.mem_cons, not_or] at cancelled
      have next := ih cancelled.2 known
      exact (x.perform_change move).attempt_of_cancelled (Ne.symm cancelled.1) next

structure Guards (x : Exchange ε ρ σ κ η) (place : Nat) (a : Adapter ε ρ σ κ) : Prop where
  kinds : ∀ kind, (a.pipeline kind).kind = kind
  half : ∀ kind, (a.breaker kind).ProbesHalfOpen
  probes : ∀ kind, (a.breaker kind).probing = true →
    ∃ number attempt, x.attempt? kind number = some (place, attempt) ∧ attempt.permit.probe = true

def Guarded (x : Exchange ε ρ σ κ η) : Prop :=
  ∀ place a, x.registry.adapters[place]? = some a → x.Guards place a

theorem Guards.new (x : Exchange ε ρ σ κ η) (place : Nat) (name : String) (transport : Transport ε ρ σ κ)
    (settings : PoolSettings) (destination : Destination) (source : String) (bucket : Option Bucket) :
    x.Guards place (.new name transport settings destination source bucket) where
  kinds kind := by cases kind <;> rfl
  half kind probing := by cases kind <;> cases probing
  probes kind probing := by cases kind <;> cases probing

theorem Guards.same {place : Nat} {a next : Adapter ε ρ σ κ} (guards : x.Guards place a)
    (same : a.SameGuards next) : x.Guards place next where
  kinds := by rw [same.pipeline]; exact guards.kinds
  half := by rw [same.breaker]; exact guards.half
  probes := by rw [same.breaker]; exact guards.probes

theorem Guards.tended {place : Nat} {a next : Adapter ε ρ σ κ} {s later : Shared ε} (guards : x.Guards place a)
    (tended : a.Tended s next later) : x.Guards place next := by
  cases tended with
  | closeIdle | shutdown => exact guards.same (.of_pool rfl rfl rfl rfl)
  | reset =>
      have pipeline : a.reset.pipeline = a.pipeline := by
        funext kind
        cases kind <;> rfl
      constructor
      · intro kind
        rw [pipeline]
        exact guards.kinds kind
      · intro kind probing
        cases kind <;> cases probing
      · intro kind probing
        cases kind <;> cases probing

theorem Change.attempt_kept (change : x.Change move y) {kind : OperationKind} {number : Nat} {running : Nat × Attempt}
    (known : x.attempt? kind number = some running) (other : ∀ prompt, move.prompt? ≠ some (number, prompt)) :
    y.attempt? kind number = some running := by
  obtain ⟨place, attempt⟩ := running
  obtain ⟨part, known, running⟩ := attempt?_iff.1 known
  obtain ⟨call, found, known⟩ := part?_iff.1 known
  exact attempt?_iff.2 ⟨part, part?_iff.2 ⟨call, change.stays found other, known⟩, running⟩

theorem attempt_acted {kind : OperationKind} {number place : Nat} {call : Call ε ρ σ κ η}
    {fate : Part.Fate ε ρ σ κ η} {errand : Errand ε ρ σ κ η} {attempt : Attempt}
    (found : x.errands[number]? = some (.running call)) (succeeds : call.Succeeds place fate errand)
    (errands : y.errands = x.errands.set number errand) (running : fate.attempt? kind = some attempt) :
    y.attempt? kind number = some (place, attempt) := by
  cases succeeds with
  | settled | checked => cases running
  | goesOn known =>
      refine attempt?_iff.2 ⟨_, part?_iff.2 ⟨_, ?_, known⟩, running⟩
      rw [errands, List.getElem?_set_self (List.getElem?_eq_some_iff.1 found).1]

def Settles (x y : Exchange ε ρ σ κ η) (kind : OperationKind) (place : Nat) (attempt : Attempt) : Prop :=
  ∃ a next verdict, x.registry.adapters[place]? = some a ∧ y.registry.adapters[place]? = some next ∧
    next.breaker kind = (a.breaker kind).record x.now attempt.permit verdict

theorem Change.keeps_permit (change : x.Change move y) (placed : x.Placed) {kind : OperationKind}
    {number place : Nat} {attempt : Attempt} (running : x.attempt? kind number = some (place, attempt)) :
    y.attempt? kind number = some (place, attempt) ∨ x.Settles y kind place attempt := by
  obtain ⟨part, doing, held⟩ := attempt?_iff.1 running
  by_cases own : ∃ prompt, move.prompt? = some (number, prompt)
  · obtain ⟨prompt, prompted⟩ := own
    cases here : x.registry.adapters[place]? with
    | none =>
        obtain ⟨call, found, known⟩ := part?_iff.1 doing
        rw [Part.attempt_fresh (placed number call place part found known here)] at held
        cases held
    | some a =>
        obtain ⟨call, fate, errand, next, later, found, deed, succeeds, errands, there, shared⟩ :=
          change.acts prompted doing here
        have trades := deed.trades.1 kind
        rw [held] at trades
        generalize kept : fate.attempt? kind = after at trades
        generalize settled : next.breaker kind = breaker at trades
        cases trades with
        | kept => exact .inl (attempt_acted found succeeds errands kept)
        | settled attempt verdict => exact .inr ⟨a, next, verdict, here, there, settled⟩
  · exact .inl (change.attempt_kept running fun prompt prompted => own ⟨prompt, prompted⟩)

theorem Guards.keep {place : Nat} {a : Adapter ε ρ σ κ} (guards : x.Guards place a)
    (kept : ∀ kind number attempt, x.attempt? kind number = some (place, attempt) → attempt.permit.probe = true →
      y.attempt? kind number = some (place, attempt)) : y.Guards place a where
  kinds := guards.kinds
  half := guards.half
  probes kind probing := by
    obtain ⟨number, attempt, known, probe⟩ := guards.probes kind probing
    exact ⟨number, attempt, kept kind number attempt known probe, probe⟩

theorem Guards.act {number place : Nat} {prompt : Prompt} {call : Call ε ρ σ κ η} {errand : Errand ε ρ σ κ η}
    {part : Part ε ρ σ κ η} {fate : Part.Fate ε ρ σ κ η} {a next : Adapter ε ρ σ κ} {later : Shared ε}
    (guards : x.Guards place a) (change : x.Change move y) (prompted : move.prompt? = some (number, prompt))
    (found : x.errands[number]? = some (.running call)) (known : call.part? = some (place, part))
    (deed : part.Deed x.now a x.registry.shared prompt fate next later) (succeeds : call.Succeeds place fate errand)
    (errands : y.errands = x.errands.set number errand) : y.Guards place next := by
  obtain ⟨trades, pipeline⟩ := deed.trades
  constructor
  · rw [pipeline]
    exact guards.kinds
  · intro kind
    exact ((trades kind).probe (guards.half kind)).1
  · intro kind probing
    rcases ((trades kind).probe (guards.half kind)).2 probing with ⟨attempt, running, probe⟩ | ⟨before, kept⟩
    · exact ⟨number, attempt, attempt_acted found succeeds errands running, probe⟩
    · obtain ⟨holder, attempt, held, probe⟩ := guards.probes kind before
      refine ⟨holder, attempt, ?_, probe⟩
      by_cases own : holder = number
      · subst own
        obtain ⟨part', same, running⟩ := attempt?_iff.1 held
        rw [part?_iff.2 ⟨call, found, known⟩] at same
        cases same
        exact attempt_acted found succeeds errands ((kept attempt running probe).trans running)
      · apply change.attempt_kept held
        intro prompt' same
        rw [prompted] at same
        cases same
        exact own rfl

theorem Guarded.change (guarded : x.Guarded) (change : x.Change move y) : y.Guarded := by
  -- a call that is asked for a step at one place has no attempt at another
  have kept {place : Nat} {a : Adapter ε ρ σ κ} (guards : x.Guards place a)
      (other : ∀ number prompt part, move.prompt? = some (number, prompt) → x.part? number ≠ some (place, part)) :
      y.Guards place a := by
    apply guards.keep
    intro kind number attempt running _
    obtain ⟨part, known, -⟩ := attempt?_iff.1 running
    exact change.attempt_kept running fun prompt prompted => other number prompt part prompted known
  have change' := change
  cases change with
  | tended unprompted errands tended =>
      intro place a found
      apply kept
      · exact Registry.Tended.each (Guards.new x) (fun _ _ _ _ _ tended guards => guards.tended tended) tended
          guarded place a found
      · intro number prompt part prompted
        rw [unprompted] at prompted
        cases prompted
  | began unprompted begins checks registry errands =>
      intro place a found
      rw [registry] at found
      apply kept (guarded place a found)
      intro number prompt part prompted
      rw [unprompted] at prompted
      cases prompted
  | passed prompted idle registry errands =>
      intro place a found
      rw [registry] at found
      apply kept (guarded place a found)
      intro number prompt part prompted' known
      rw [prompted] at prompted'
      cases prompted'
      obtain ⟨call, running, -⟩ := part?_iff.1 known
      exact idle call running
  | left prompted running vacant leaves registry errands =>
      intro place a found
      rw [registry] at found
      apply kept (guarded place a found)
      intro number prompt part prompted' known
      rw [prompted] at prompted'
      cases prompted'
      obtain ⟨call, running', known⟩ := part?_iff.1 known
      rw [running] at running'
      cases running'
      rw [vacant place part known] at found
      cases found
  | @acted number prompt call errand there part a next later fate prompted running known here deed succeeds registry
      errands =>
      intro place b found
      rw [registry] at found
      rcases getElem?_set_cases found with ⟨rfl, rfl⟩ | ⟨away, found⟩
      · exact (guarded _ a here).act change' prompted running known deed succeeds errands
      · apply kept (guarded place b found)
        intro number' prompt' part' prompted' known'
        rw [prompted] at prompted'
        cases prompted'
        rw [part?_iff.2 ⟨call, running, known⟩] at known'
        cases known'
        exact away rfl

theorem guarded_start (outside : ε) (process : String) : (start outside process : Exchange ε ρ σ κ η).Guarded := by
  intro place a found
  cases found

theorem Guarded.run (guarded : x.Guarded) (moves : List (Move ε ρ σ κ η)) : (x.run moves).Guarded :=
  run_keeps (fun x move guarded => guarded.change (x.perform_change move)) moves guarded

end Exchange

end Dispatch
