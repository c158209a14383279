import Dispatch.Proofs.Adapter
import Dispatch.Registry

/-!
# A registry in use

What a step of a call does to a registry is a `Visit`: it acts on the adapter at one place, or on none. An
`Exchange` is a registry with any number of errands, each of them a call that runs or what came of it. A
`Move` registers an adapter, begins a call, lets one call take a step or gives it up, shuts something
down, lets time go by or changes the outside; a list of moves is a run, and nothing is said about which
move follows which.
-/

set_option autoImplicit false

namespace Dispatch

/-! ## Where calls stand -/

def Call.standing {ε ρ σ κ η : Type} (place : Nat) : Call ε ρ σ κ η → Standing ρ
  | .publishing here _ progress => if here = place then progress.standing else .outside
  | .checking here progress => if here = place then progress.standing else .outside
  | .consuming _ _ _ _ => .outside
  | .checkingAll _ _ [] => .outside
  | .checkingAll _ progress ((_, here) :: _) => if here = place then progress.standing else .outside

/-- What one call can do to a registry between two of its standings, one for each place: nothing, or an
act at one place. -/
inductive Registry.Visit {ε ρ σ κ : Type} (now : Instant) (before after : Nat → Standing ρ)
    (r : Registry ε ρ σ κ) : Registry ε ρ σ κ → Prop
  | pass (same : ∀ place a, r.adapters[place]? = some a → after place = before place)
      (away : ∀ place, after place = before place ∨ after place = .outside) : Visit now before after r r
  | act {place : Nat} {a next : Adapter ε ρ σ κ} {later : Shared ε} {events : List (PoolEvent ρ)}
      (found : r.adapters[place]? = some a)
      (act : a.Act now (before place) (after place) next r.shared later events)
      (same : ∀ other, other ≠ place → after other = before other) :
      Visit now before after r { r with adapters := r.adapters.set place next, shared := later }

namespace Registry.Visit

variable {ε ρ σ κ : Type} {now : Instant} {before after : Nat → Standing ρ} {r : Registry ε ρ σ κ}

theorem leave {here : Nat} (nobody : r.adapters[here]? = none)
    (elsewhere : ∀ place, place ≠ here → before place = .outside) (gone : ∀ place, after place = .outside) :
    r.Visit now before after r := by
  refine .pass (fun place a found => ?_) fun place => Or.inr (gone place)
  have apart : place ≠ here := by
    rintro rfl
    rw [nobody] at found
    cases found
  rw [gone, elsewhere place apart]

theorem change {here : Nat} {f : Adapter ε ρ σ κ → Shared ε → Adapter ε ρ σ κ × Shared ε}
    (elsewhere : ∀ place, place ≠ here → before place = .outside)
    (act : ∀ a, r.adapters[here]? = some a →
      ∃ events, a.Act now (before here) .outside (f a r.shared).1 r.shared (f a r.shared).2 events) :
    r.Visit now before (fun _ => .outside) (r.change here f) := by
  unfold Registry.change
  split
  · rename_i nobody
    exact .leave nobody elsewhere fun _ => rfl
  · rename_i a found
    obtain ⟨events, act⟩ := act a found
    exact .act found act fun place apart => (elsewhere place apart).symm

end Registry.Visit

namespace Call

variable {ε ρ σ κ η : Type}

theorem standing_start (checked : List (String × Except BrokerError Unit)) (left : List (String × Nat))
    (place : Nat) :
    (checkingAll checked .start left : Call ε ρ σ κ η).standing place = .outside := by
  cases left with
  | nil => rfl
  | cons next left =>
      simp only [standing]
      split <;> rfl

theorem visit_part {μ α : Type} {r : Registry ε ρ σ κ} {now : Instant} {here : Nat}
    {a next : Adapter ε ρ σ κ} {later : Shared ε} {events : List (PoolEvent ρ)}
    (wrap : μ → Call ε ρ σ κ η) (partStanding : μ → Standing ρ)
    {finish : α → Turn (Call ε ρ σ κ η) Reply} {turn : Turn μ α} {part : μ}
    (found : r.adapters[here]? = some a)
    (act : a.Act now (partStanding part) (turn.standing partStanding part) next r.shared later events)
    (standing : ∀ place part, (wrap part).standing place =
      if here = place then partStanding part else .outside)
    (ended : ∀ place result, (finish result).standing (Call.standing place) (wrap part) = .outside) :
    r.Visit now ((wrap part).standing ·)
      (fun place => (turn.lift wrap finish).standing (Call.standing place) (wrap part))
      { r with adapters := r.adapters.set here next, shared := later } := by
  have there : (wrap part).standing here = partStanding part := by rw [standing, if_pos rfl]
  have after : (turn.lift wrap finish).standing (Call.standing here) (wrap part) =
      turn.standing partStanding part :=
    Turn.standing_lift (fun call => by rw [standing, if_pos rfl]) (ended here) turn
  -- elsewhere the call stands outside, whatever became of it
  refine .act found (there ▸ after ▸ act) fun place apart => ?_
  have nowhere : (turn.lift wrap finish).standing (Call.standing place) (wrap part) =
      turn.standing (fun _ => .outside) part :=
    Turn.standing_lift (fun call => by rw [standing, if_neg (Ne.symm apart)]) (ended place) turn
  rw [nowhere, standing, if_neg (Ne.symm apart), Turn.standing_outside]

theorem step_visit (r : Registry ε ρ σ κ) (now : Instant) (cancelled : Bool) (call : Call ε ρ σ κ η) :
    r.Visit now (call.standing ·)
      (fun place => (call.step r now cancelled).1.standing (Call.standing place) call)
      (call.step r now cancelled).2 := by
  cases call with
  | publishing here message progress =>
      simp only [step]
      split
      · rename_i nobody
        exact .leave nobody (fun place apart => if_neg (Ne.symm apart)) fun place => rfl
      · rename_i adapter found
        obtain ⟨events, act⟩ := progress.step_act adapter r.shared message now cancelled
        exact visit_part (.publishing here message) Publishing.standing found act (fun _ _ => rfl)
          fun _ _ => rfl
  | checking here progress =>
      simp only [step]
      split
      · rename_i nobody
        exact .leave nobody (fun place apart => if_neg (Ne.symm apart)) fun place => rfl
      · rename_i adapter found
        obtain ⟨events, act⟩ := progress.step_act adapter r.shared now cancelled
        exact visit_part (.checking here) Checking.standing found act (fun _ _ => rfl) fun _ _ => rfl
  | consuming here source handler progress =>
      simp only [step]
      split
      · rename_i nobody
        exact .leave nobody (fun place apart => rfl) fun place => rfl
      · rename_i adapter found
        have nowhere (place : Nat) (part : Consuming ρ σ κ η) :
            (consuming here source handler part).standing place =
              if here = place then .outside else .outside := (ite_self _).symm
        exact visit_part (.consuming here source handler) (fun _ => .outside) found
          (progress.step_act adapter r.shared source handler now cancelled) nowhere fun _ _ => rfl
  | checkingAll checked progress left =>
      cases left with
      | nil => exact .pass (fun _ _ _ => rfl) fun _ => Or.inl rfl
      | cons first left =>
          obtain ⟨name, here⟩ := first
          simp only [step]
          split
          · rename_i nobody
            exact .leave nobody (fun place apart => if_neg (Ne.symm apart)) fun place =>
              standing_start _ _ _
          · rename_i adapter found
            obtain ⟨events, act⟩ := progress.step_act adapter r.shared now cancelled
            exact visit_part (fun progress => .checkingAll checked progress ((name, here) :: left))
              Checking.standing found act (fun _ _ => rfl) fun _ _ => standing_start _ _ _

theorem abandon_visit (r : Registry ε ρ σ κ) (now : Instant) (call : Call ε ρ σ κ η) :
    r.Visit now (call.standing ·) (fun _ => .outside) (call.abandon r now) := by
  cases call with
  | publishing here message progress =>
      simp only [abandon]
      apply Registry.Visit.change
      · intro place apart
        exact if_neg (Ne.symm apart)
      · intro adapter found
        rw [standing, if_pos rfl]
        exact progress.abandon_act adapter r.shared now
  | checking here progress =>
      simp only [abandon]
      apply Registry.Visit.change
      · intro place apart
        exact if_neg (Ne.symm apart)
      · intro adapter found
        rw [standing, if_pos rfl]
        exact progress.abandon_act adapter r.shared now
  | consuming here source handler progress =>
      simp only [abandon]
      apply Registry.Visit.change
      · intro place apart
        rfl
      · intro adapter found
        exact ⟨[], progress.abandon_act adapter r.shared source handler now⟩
  | checkingAll checked progress left =>
      cases left with
      | nil => exact .pass (fun _ _ _ => rfl) fun _ => Or.inr rfl
      | cons first left =>
          simp only [abandon]
          apply Registry.Visit.change
          · intro place apart
            exact if_neg (Ne.symm apart)
          · intro adapter found
            rw [standing, if_pos rfl]
            exact progress.abandon_act adapter r.shared now

end Call

/-! ## Exchanges -/

inductive Errand (ε ρ σ κ η : Type) where
  | running (call : Call ε ρ σ κ η)
  | ended (reply : Reply)

def Errand.standing {ε ρ σ κ η : Type} (place : Nat) : Errand ε ρ σ κ η → Standing ρ
  | .running call => call.standing place
  | .ended _ => .outside

/-- `unreported` counts, for every place, the idle resources of the pool there that went away since its
leases last changed in number or its idle resources were last drained. -/
structure Exchange (ε ρ σ κ η : Type) where
  now : Instant
  registry : Registry ε ρ σ κ
  errands : List (Errand ε ρ σ κ η)
  unreported : Nat → Nat

namespace Exchange

variable {ε ρ σ κ η : Type}

def start (outside : ε) (process : String) : Exchange ε ρ σ κ η where
  now := 0
  registry := .new (.new outside process)
  errands := []
  unreported _ := 0

/-- What can happen next. Calls are known by their numbers, in the order in which they began. -/
inductive Move (ε ρ σ κ η : Type) where
  | register (connector : Connector ε ρ σ κ) (name : String) (settings : BackendSettings)
  | publish (place : Nat) (message : Outgoing)
  | check (place : Nat)
  | consume (place : Nat) (source : String) (handler : Handler ε η)
  | checkAll
  | step (errand : Nat) (cancelled : Bool)
  | abandon (errand : Nat)
  | closeIdle (place : Nat)
  | close (place : Nat)
  | shutdown
  | reset (place : Nat)
  | elapse (duration : Duration)
  | disturb (change : ε → ε)

def tally (count : Nat) (before after : Pool ρ) : Nat :=
  if after.leased = before.leased then count + (before.idle.length - after.idle.length) else 0

theorem tally_shift {now : Instant} {before after : Standing ρ} {pool next : Pool ρ}
    {events : List (PoolEvent ρ)} (shift : Shift now before after pool next events)
    (enough : before.held.card ≤ pool.leased) (count : Nat) :
    PoolEvent.lastSize events = some (next.idle.length, next.leased) ∧ tally count pool next = 0 ∨
      PoolEvent.lastSize events = none ∧ next.leased = pool.leased ∧
        next.idle.length + tally count pool next = pool.idle.length + count := by
  rcases shift.snapshot with reported | ⟨silent, same, shrunk⟩
  · have changed : next.leased ≠ pool.leased := (shift.counted enough).1 (by rw [reported]; rfl)
    exact Or.inl ⟨reported, if_neg changed⟩
  · refine Or.inr ⟨silent, same, ?_⟩
    rw [tally, if_pos same]
    omega

def become (x : Exchange ε ρ σ κ η) (registry : Registry ε ρ σ κ) : Exchange ε ρ σ κ η :=
  { x with
    registry
    unreported := fun place =>
      match x.registry.adapters[place]?, registry.adapters[place]? with
      | some before, some after => tally (x.unreported place) before.pool after.pool
      | _, _ => x.unreported place }

theorem become_same (x : Exchange ε ρ σ κ η) {registry : Registry ε ρ σ κ} {place : Nat}
    (same : registry.adapters[place]? = x.registry.adapters[place]?) :
    (x.become registry).unreported place = x.unreported place := by
  simp only [become, same]
  cases x.registry.adapters[place]? with
  | none => rfl
  | some adapter => simp [tally]

theorem become_other (x : Exchange ε ρ σ κ η) {registry : Registry ε ρ σ κ} {place : Nat}
    {a next : Adapter ε ρ σ κ} (before : x.registry.adapters[place]? = some a)
    (after : registry.adapters[place]? = some next) :
    (x.become registry).unreported place = tally (x.unreported place) a.pool next.pool := by
  simp only [become, before, after]

def setErrand (x : Exchange ε ρ σ κ η) (number : Nat) (errand : Errand ε ρ σ κ η) :
    Exchange ε ρ σ κ η :=
  { x with errands := x.errands.set number errand }

theorem setErrand_self {x : Exchange ε ρ σ κ η} {number : Nat} {errand : Errand ε ρ σ κ η}
    (found : x.errands[number]? = some errand) : x.setErrand number errand = x := by
  obtain ⟨bound, rfl⟩ := List.getElem?_eq_some_iff.1 found
  rw [setErrand, List.set_getElem_self]

def begin (x : Exchange ε ρ σ κ η) (call : Call ε ρ σ κ η) : Exchange ε ρ σ κ η :=
  { x with errands := x.errands ++ [.running call] }

def giveUp (x : Exchange ε ρ σ κ η) (number : Nat) (call : Call ε ρ σ κ η) : Exchange ε ρ σ κ η :=
  (x.become (call.abandon x.registry x.now)).setErrand number (.ended .abandoned)

def advance (x : Exchange ε ρ σ κ η) (number : Nat) (cancelled : Bool) (call : Call ε ρ σ κ η) :
    Exchange ε ρ σ κ η :=
  let (turn, registry) := call.step x.registry x.now cancelled
  let x := x.become registry
  match turn with
  | .finished reply => x.setErrand number (.ended reply)
  | .moved call => x.setErrand number (.running call)
  | .blocked _ => x
  | .overflowed => x.giveUp number call

def perform (x : Exchange ε ρ σ κ η) : Move ε ρ σ κ η → Exchange ε ρ σ κ η
  | .register connector name settings =>
    { x with registry := (x.registry.register connector name settings).2 }
  | .publish place message => x.begin (.publishing place message .fresh)
  | .check place => x.begin (.checking place .start)
  | .consume place source handler => x.begin (.consuming place source handler .start)
  | .checkAll => x.begin (.checkAll x.registry)
  | .step number cancelled =>
    match x.errands[number]? with
    | some (.running call) => x.advance number cancelled call
    | _ => x
  | .abandon number =>
    match x.errands[number]? with
    | some (.running call) => x.giveUp number call
    | _ => x
  | .closeIdle place =>
    { x with
      registry := x.registry.change place Adapter.closeIdle
      unreported := Function.update x.unreported place 0 }
  | .close place =>
    { x with
      registry := x.registry.change place Adapter.shutdown
      unreported := Function.update x.unreported place 0 }
  | .shutdown => { x with registry := x.registry.shutdown, unreported := fun _ => 0 }
  | .reset place =>
    { x with registry := x.registry.change place fun adapter shared => (adapter.reset, shared) }
  | .elapse duration => { x with now := x.now + duration }
  | .disturb change =>
    { x with registry := { x.registry with shared := x.registry.shared.update change } }

def run (x : Exchange ε ρ σ κ η) (moves : List (Move ε ρ σ κ η)) : Exchange ε ρ σ κ η :=
  moves.foldl perform x

end Exchange

end Dispatch
