import Dispatch.Proofs.Isolation.Gates
import Dispatch.Proofs.Registry.Wiring

set_option autoImplicit false

namespace Dispatch

/-! ## Registries -/

namespace Registry

variable {ε ρ σ κ : Type} {r : Registry ε ρ σ κ} {place : Nat} {a : Adapter ε ρ σ κ}

theorem change_found (here : r.adapters[place]? = some a) (there : Nat)
    (f : Adapter ε ρ σ κ → Shared ε → Adapter ε ρ σ κ × Shared ε) :
    (r.change there f).adapters[place]? = some (if there = place then (f a r.shared).1 else a) := by
  unfold change
  by_cases same : there = place
  · subst same
    rw [here, if_pos rfl]
    exact List.getElem?_set_self (List.getElem?_eq_some_iff.1 here).1
  · rw [if_neg same]
    split
    · exact here
    · exact (List.getElem?_set_ne same).trans here

theorem register_found (here : r.adapters[place]? = some a) (connector : Connector ε ρ σ κ) (name : String)
    (settings : BackendSettings) : (r.register connector name settings).2.adapters[place]? = some a := by
  have outcome := r.register_outcome connector name settings
  generalize r.register connector name settings = result at outcome ⊢
  cases outcome with
  | invalid | taken | tooFast => exact here
  | wired => exact (List.getElem?_append_left (List.getElem?_eq_some_iff.1 here).1).trans here

theorem shutdown_found (here : r.adapters[place]? = some a) :
    ∃ next, r.shutdown.adapters[place]? = some next ∧ a.SameGuards next := by
  have each (names : List (String × Nat)) {r : Registry ε ρ σ κ} {b : Adapter ε ρ σ κ}
      (here : r.adapters[place]? = some b) (same : a.SameGuards b) :
      ∃ next, (names.foldl (fun r entry => r.change entry.2 Adapter.shutdown) r).adapters[place]? = some next ∧
        a.SameGuards next := by
    induction names generalizing r b with
    | nil => exact ⟨b, here, same⟩
    | cons entry names ih =>
        refine ih (change_found here entry.2 Adapter.shutdown) ?_
        split
        · have drained : b.SameGuards (b.shutdown r.shared).1 := .of_pool rfl rfl rfl rfl
          exact ⟨drained.breaker.trans same.breaker, drained.pipeline.trans same.pipeline⟩
        · exact same
  exact each r.names here ⟨rfl, rfl⟩

end Registry

/-! ## Exchanges -/

namespace Exchange

variable {ε ρ σ κ η : Type} {x y : Exchange ε ρ σ κ η} {move : Move ε ρ σ κ η}

def gate (x : Exchange ε ρ σ κ η) (kind : OperationKind) (place : Nat) (a : Adapter ε ρ σ κ) : Gate where
  breaker := a.breaker kind
  permit number := Part.permitAt kind place (x.part? number)

def notice? (x : Exchange ε ρ σ κ η) (kind : OperationKind) (place : Nat) (a : Adapter ε ρ σ κ) (number : Nat)
    (prompt : Prompt) : Option Notice :=
  match x.part? number with
  | some (there, part) => if there = place then part.notice? kind a x.registry.shared x.now prompt else none
  | none => none

def signal? (x : Exchange ε ρ σ κ η) (kind : OperationKind) (place : Nat) (move : Move ε ρ σ κ η) :
    Option Signal :=
  x.registry.adapters[place]?.bind fun a =>
    match move with
    | .step number cancelled => (x.notice? kind place a number (.step cancelled)).map (.notice x.now number)
    | .abandon number => (x.notice? kind place a number .giveUp).map (.notice x.now number)
    | .reset there => if there = place then some .reset else none
    | _ => none

/-- All that the breaker of a kind at a place hears in a run. -/
def record (x : Exchange ε ρ σ κ η) (kind : OperationKind) (place : Nat) :
    List (Move ε ρ σ κ η) → List Signal
  | [] => []
  | move :: moves => (x.signal? kind place move).toList ++ (x.perform move).record kind place moves

theorem part?_set {number : Nat} {before errand : Errand ε ρ σ κ η} (found : x.errands[number]? = some before)
    (errands : y.errands = x.errands.set number errand) (kind : OperationKind) (place : Nat) :
    (fun other => Part.permitAt kind place (y.part? other)) =
      Function.update (fun other => Part.permitAt kind place (x.part? other)) number
        (Part.permitAt kind place errand.part?) := by
  funext other
  by_cases same : other = number
  · subst same
    rw [Function.update_self, part?, errands, List.getElem?_set_self (List.getElem?_eq_some_iff.1 found).1]
    rfl
  · rw [Function.update_of_ne same, part?, part?, errands, List.getElem?_set_ne (Ne.symm same)]

theorem gate_kept {kind : OperationKind} {place : Nat} {a : Adapter ε ρ σ κ}
    (same : (fun number => Part.permitAt kind place (y.part? number)) =
      fun number => Part.permitAt kind place (x.part? number)) : y.gate kind place a = x.gate kind place a := by
  unfold gate
  rw [same]

theorem away (kind : OperationKind) {place number : Nat}
    (away : ∀ part, x.part? number ≠ some (place, part)) :
    Part.permitAt kind place (x.part? number) = none ∧
      ∀ a prompt, x.notice? kind place a number prompt = none := by
  unfold notice?
  cases known : x.part? number with
  | none => exact ⟨rfl, fun _ _ => rfl⟩
  | some entry =>
      obtain ⟨there, part⟩ := entry
      have apart : there ≠ place := by
        rintro rfl
        exact away part known
      exact ⟨Part.permitAt_away apart part, fun _ _ => if_neg apart⟩

theorem gate_elsewhere {before errand : Errand ε ρ σ κ η} {kind : OperationKind} {place number : Nat}
    (found : x.errands[number]? = some before) (errands : y.errands = x.errands.set number errand)
    (apart : ∀ part, x.part? number ≠ some (place, part))
    (after : Part.permitAt kind place errand.part? = none) (a : Adapter ε ρ σ κ) (prompt : Prompt) :
    y.gate kind place a = ((x.notice? kind place a number prompt).map (.notice x.now number)).toList.foldl
      Gate.hear (x.gate kind place a) := by
  obtain ⟨none, silent⟩ := x.away kind apart
  rw [silent]
  apply gate_kept
  rw [part?_set found errands, after, ← none, Function.update_eq_self]

theorem gate_acted {before errand : Errand ε ρ σ κ η} {call : Call ε ρ σ κ η} {number place : Nat}
    {prompt : Prompt} {part : Part ε ρ σ κ η} {fate : Part.Fate ε ρ σ κ η} {a next : Adapter ε ρ σ κ}
    {later : Shared ε} (found : x.errands[number]? = some before)
    (errands : y.errands = x.errands.set number errand) (working : x.part? number = some (place, part))
    (deed : part.Deed x.now a x.registry.shared prompt fate next later)
    (succeeds : call.Succeeds place fate errand) (kind : OperationKind) :
    y.gate kind place next = ((x.notice? kind place a number prompt).map (.notice x.now number)).toList.foldl
      Gate.hear (x.gate kind place a) := by
  have told : x.notice? kind place a number prompt = part.notice? kind a x.registry.shared x.now prompt := by
    rw [notice?, working]
    exact if_pos rfl
  have held : (x.gate kind place a).permit number = (part.attempt? kind).map Attempt.permit := by
    show Part.permitAt kind place (x.part? number) = _
    rw [working, Part.permitAt_here]
  rw [told, (deed.heeds.1 kind).hear rfl held]
  unfold gate
  rw [part?_set found errands, succeeds.permitAt, if_pos rfl]

theorem Change.gate_prompted (change : x.Change move y) {number : Nat} {prompt : Prompt}
    (prompted : move.prompt? = some (number, prompt)) (kind : OperationKind) {place : Nat} {a : Adapter ε ρ σ κ}
    (here : x.registry.adapters[place]? = some a) :
    ∃ next, y.registry.adapters[place]? = some next ∧
      y.gate kind place next =
        ((x.notice? kind place a number prompt).map (.notice x.now number)).toList.foldl Gate.hear
          (x.gate kind place a) := by
  cases change with
  | tended unprompted | began unprompted =>
      rw [unprompted] at prompted
      cases prompted
  | passed prompted' idle registry errands =>
      rw [prompted] at prompted'
      cases prompted'
      have nowhere : ∀ part, x.part? number ≠ some (place, part) := by
        intro part known
        obtain ⟨call, found, -⟩ := part?_iff.1 known
        exact idle call found
      refine ⟨a, by rw [registry, here], ?_⟩
      rw [(x.away kind nowhere).2]
      apply gate_kept
      funext other
      rw [part?, part?, errands]
  | left prompted' found vacant leaves registry errands =>
      rw [prompted] at prompted'
      cases prompted'
      refine ⟨a, by rw [registry, here], gate_elsewhere found errands ?_ (leaves.permitAt kind place) a prompt⟩
      intro part known
      obtain ⟨other, found', known⟩ := part?_iff.1 known
      rw [found] at found'
      cases found'
      rw [vacant place part known] at here
      cases here
  | @acted _ _ call _ there part b next later _ prompted' found known there' deed succeeds registry errands =>
      rw [prompted] at prompted'
      cases prompted'
      have working : x.part? number = some (there, part) := part?_iff.2 ⟨call, found, known⟩
      rw [registry]
      by_cases same : there = place
      · subst same
        rw [here] at there'
        cases there'
        exact ⟨next, List.getElem?_set_self (List.getElem?_eq_some_iff.1 here).1,
          gate_acted found errands working deed succeeds kind⟩
      · refine ⟨a, by rw [List.getElem?_set_ne same, here], gate_elsewhere found errands ?_ ?_ a prompt⟩
        · intro other working'
          rw [working] at working'
          cases working'
          exact same rfl
        · rw [succeeds.permitAt, if_neg same]

theorem Change.permits_kept (change : x.Change move y) (unprompted : move.prompt? = none) (kind : OperationKind)
    (place : Nat) :
    (fun number => Part.permitAt kind place (y.part? number)) =
      fun number => Part.permitAt kind place (x.part? number) := by
  funext number
  cases change with
  | tended _ errands => rw [part?, part?, errands]
  | @began call _ begins _ _ errands =>
      rw [part?, part?, errands]
      rcases Nat.lt_trichotomy number x.errands.length with old | rfl | beyond
      · rw [List.getElem?_append_left old]
      · rw [List.getElem?_concat_length, List.getElem?_eq_none (Nat.le_refl _)]
        exact Part.permitAt_fresh fun there part known _ => (begins there part known).isFresh
      · have longer : (x.errands ++ [Errand.running call]).length ≤ number := by
          rw [List.length_append, List.length_singleton]
          exact beyond
        rw [List.getElem?_eq_none longer, List.getElem?_eq_none (Nat.le_of_lt beyond)]
  | passed prompted | left prompted | acted prompted =>
      rw [unprompted] at prompted
      cases prompted

theorem perform_gate (x : Exchange ε ρ σ κ η) (move : Move ε ρ σ κ η) (kind : OperationKind) {place : Nat}
    {a : Adapter ε ρ σ κ} (here : x.registry.adapters[place]? = some a) :
    ∃ next, (x.perform move).registry.adapters[place]? = some next ∧
      (x.perform move).gate kind place next =
        (x.signal? kind place move).toList.foldl Gate.hear (x.gate kind place a) := by
  have change := x.perform_change move
  have quiet {next : Adapter ε ρ σ κ} (unprompted : move.prompt? = none) (guards : a.SameGuards next) :
      (x.perform move).gate kind place next = x.gate kind place a := by
    unfold gate
    rw [guards.breaker, change.permits_kept unprompted]
  have same : a.SameGuards a := ⟨rfl, rfl⟩
  unfold signal?
  rw [here, Option.bind_some]
  cases move with
  | step | abandon => exact change.gate_prompted rfl kind here
  | register connector name settings =>
      exact ⟨a, Registry.register_found here connector name settings, quiet rfl same⟩
  | publish | check | consume | checkAll | elapse | disturb => exact ⟨a, here, quiet rfl same⟩
  | closeIdle there =>
      refine ⟨_, Registry.change_found here there Adapter.closeIdle, quiet rfl ?_⟩
      split
      · exact .of_pool rfl rfl rfl rfl
      · exact same
  | close there =>
      refine ⟨_, Registry.change_found here there Adapter.shutdown, quiet rfl ?_⟩
      split
      · exact .of_pool rfl rfl rfl rfl
      · exact same
  | shutdown =>
      obtain ⟨next, found, guards⟩ := Registry.shutdown_found here
      exact ⟨next, found, quiet rfl guards⟩
  | reset there =>
      refine ⟨_, Registry.change_found here there _, ?_⟩
      dsimp only
      split
      · unfold gate
        rw [change.permits_kept rfl]
        cases kind <;> rfl
      · exact quiet rfl same

theorem run_gate (kind : OperationKind) {place : Nat} (moves : List (Move ε ρ σ κ η)) {x : Exchange ε ρ σ κ η}
    {a : Adapter ε ρ σ κ} (here : x.registry.adapters[place]? = some a) :
    ∃ next, (x.run moves).registry.adapters[place]? = some next ∧
      (x.run moves).gate kind place next = (x.record kind place moves).foldl Gate.hear (x.gate kind place a) := by
  induction moves generalizing x a with
  | nil => exact ⟨a, here, rfl⟩
  | cons move moves ih =>
      obtain ⟨next, found, heard⟩ := x.perform_gate move kind here
      obtain ⟨last, there, rest⟩ := ih found
      refine ⟨last, there, rest.trans ?_⟩
      rw [heard, record, List.foldl_append]

theorem Placed.gate_registered (placed : x.Placed) (kind : OperationKind) {place : Nat}
    (vacant : x.registry.adapters[place]? = none) {move : Move ε ρ σ κ η} {b : Adapter ε ρ σ κ}
    (found : (x.perform move).registry.adapters[place]? = some b) :
    ∃ name policy, (x.perform move).gate kind place b = .fresh name policy := by
  have change := x.perform_change move
  have blank (number : Nat) : Part.permitAt kind place (x.part? number) = none := by
    apply Part.permitAt_fresh
    rintro there part known rfl
    obtain ⟨call, errand, known⟩ := part?_iff.1 known
    exact placed number call there part errand known vacant
  have kept (unprompted : move.prompt? = none) := change.permits_kept unprompted kind place
  cases change with
  | began _ _ _ registry | passed _ _ registry | left _ _ _ _ registry =>
      rw [registry, vacant] at found
      cases found
  | acted _ _ _ here _ _ registry =>
      rw [registry] at found
      rcases getElem?_set_cases found with ⟨rfl, -⟩ | ⟨-, found⟩
      · rw [vacant] at here
        cases here
      · rw [vacant] at found
        cases found
  | tended unprompted errands tended =>
      have new : place = place → ∃ name policy, b.breaker kind = .new name policy := by
        refine Registry.Tended.each (P := fun there (b : Adapter ε ρ σ κ) =>
          there = place → ∃ name policy, b.breaker kind = .new name policy) ?_ ?_ tended ?_ place b found
        · intro there name transport settings destination source bucket _
          cases kind <;> exact ⟨_, _, rfl⟩
        · intro there b s next later tended new here
          obtain ⟨name, policy, new⟩ := new here
          cases tended with
          | closeIdle | shutdown => cases kind <;> exact ⟨name, policy, new⟩
          | reset => cases kind <;> exact ⟨_, _, rfl⟩
        · intro there b found here
          rw [here, vacant] at found
          cases found
      obtain ⟨name, policy, new⟩ := new rfl
      refine ⟨name, policy, ?_⟩
      unfold gate
      rw [new, kept unprompted]
      simp only [blank]
      rfl

theorem Placed.run_recorded (kind : OperationKind) {place : Nat} (moves : List (Move ε ρ σ κ η))
    {x : Exchange ε ρ σ κ η} (placed : x.Placed) (vacant : x.registry.adapters[place]? = none)
    {a : Adapter ε ρ σ κ} (found : (x.run moves).registry.adapters[place]? = some a) :
    a.breaker kind = ((x.record kind place moves).foldl Gate.hear
      (.fresh (a.breaker kind).name (a.breaker kind).policy)).breaker := by
  induction moves generalizing x with
  | nil =>
      rw [Exchange.run, List.foldl_nil, vacant] at found
      cases found
  | cons move moves ih =>
      have silent : x.signal? kind place move = none := by rw [signal?, vacant]; rfl
      rw [record, silent, Option.toList_none, List.nil_append]
      cases next : (x.perform move).registry.adapters[place]? with
      | none => exact ih (placed.change (x.perform_change move)) next found
      | some b =>
          obtain ⟨name, policy, fresh⟩ := placed.gate_registered kind vacant next
          obtain ⟨last, there, heard⟩ := run_gate kind moves next
          rw [show (x.perform move).run moves = x.run (move :: moves) from rfl, found] at there
          cases there
          rw [fresh] at heard
          have same : a.breaker kind = _ := congrArg Gate.breaker heard
          obtain ⟨name', policy'⟩ :=
            Gate.foldl_settings ((x.perform move).record kind place moves) (.fresh name policy)
          rw [← same] at name' policy'
          rw [name', policy']
          exact same

end Exchange

end Dispatch
