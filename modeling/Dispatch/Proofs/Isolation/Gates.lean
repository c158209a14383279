import Dispatch.Proofs.Cancellation.Permits

set_option autoImplicit false

namespace Dispatch

structure Gate where
  breaker : Breaker
  permit : Nat → Option Permit

inductive Signal where
  | notice (time : Instant) (caller : Nat) (notice : Notice)
  | reset
  deriving DecidableEq, Repr

namespace Gate

def fresh (name : String) (policy : BreakerPolicy) : Gate := ⟨.new name policy, fun _ => none⟩

def hear (g : Gate) : Signal → Gate
  | .notice now caller .asks =>
    let (answer, breaker, _) := g.breaker.request now
    match answer with
    | .ok permit => ⟨breaker, Function.update g.permit caller (some permit)⟩
    | .error _ => ⟨breaker, g.permit⟩
  | .notice now caller (.ends verdict) =>
    match g.permit caller with
    | some permit => ⟨g.breaker.record now permit verdict, Function.update g.permit caller none⟩
    | none => g
  | .reset => ⟨g.breaker.reset, g.permit⟩

theorem hear_settings (g : Gate) (signal : Signal) :
    (g.hear signal).breaker.name = g.breaker.name ∧ (g.hear signal).breaker.policy = g.breaker.policy := by
  cases signal with
  | reset => exact ⟨rfl, rfl⟩
  | notice now caller notice =>
      cases notice with
      | asks =>
          have settings := g.breaker.entry_settings now .ask
          simp only [hear]
          split
          · exact settings
          · exact settings
      | ends verdict =>
          simp only [hear]
          split
          · rename_i permit held
            exact g.breaker.entry_settings now (.settle permit verdict)
          · exact ⟨rfl, rfl⟩

theorem foldl_settings (signals : List Signal) (g : Gate) :
    (signals.foldl hear g).breaker.name = g.breaker.name ∧
      (signals.foldl hear g).breaker.policy = g.breaker.policy := by
  induction signals generalizing g with
  | nil => exact ⟨rfl, rfl⟩
  | cons signal signals ih =>
      obtain ⟨name, policy⟩ := g.hear_settings signal
      exact ⟨(ih _).1.trans name, (ih _).2.trans policy⟩

end Gate

theorem Breaker.Asked.request {b next : Breaker} {now : Instant} {answer : Except Failure Permit}
    (asked : b.Asked now answer next) : (b.request now).1 = answer ∧ (b.request now).2.1 = next := by
  cases asked with
  | pass closed => simp [Breaker.request, closed]
  | early cooling early => simp [Breaker.request, cooling, Nat.not_le_of_lt early]
  | due cooling due => simp [Breaker.request, cooling, due]
  | busy half probing => simp [Breaker.request, half, probing]
  | probe half free => simp [Breaker.request, half, free]

theorem Breaker.Heeds.hear {now : Instant} {prompt : Prompt} {b next : Breaker} {notice : Option Notice}
    {before after : Option Attempt} (heeds : b.Heeds now prompt notice before after next) {g : Gate} {caller : Nat}
    (breaker : g.breaker = b) (holds : g.permit caller = before.map Attempt.permit) :
    (notice.map (Signal.notice now caller)).toList.foldl Gate.hear g =
      ⟨next, Function.update g.permit caller (after.map Attempt.permit)⟩ := by
  subst breaker
  cases heeds with
  | quiet =>
      rw [← holds, Function.update_eq_self]
      rfl
  | refused asked =>
      obtain ⟨answer, later⟩ := asked.request
      have kept : Function.update g.permit caller none = g.permit := by
        rw [← show g.permit caller = none from holds, Function.update_eq_self]
      simp [Gate.hear, answer, later, kept]
  | begun prompted asked =>
      obtain ⟨answer, later⟩ := asked.request
      simp [Gate.hear, answer, later]
  | settled attempt verdict => simp [Gate.hear, holds]

namespace Part

variable {ε ρ σ κ η : Type}

def attempting : Part ε ρ σ κ η → Option OperationKind
  | .publishing _ (.leasing _ (.connecting _)) | .checking (.leasing (.connecting _))
  | .consuming _ _ (.opening _) => some .connect
  | .publishing _ (.sending _ _ _ _) => some .publish
  | _ => none

theorem notice?_other {part : Part ε ρ σ κ η} {kind : OperationKind} (other : part.attempting ≠ some kind)
    (a : Adapter ε ρ σ κ) (s : Shared ε) (now : Instant) (prompt : Prompt) :
    part.notice? kind a s now prompt = none := by
  cases part with
  | publishing message progress =>
      cases progress with
      | fresh | limiting | preparing => cases kind <;> rfl
      | leasing span acquisition =>
          cases acquisition with
          | arriving | queued | seated => cases kind <;> rfl
          | connecting =>
              cases kind with
              | connect => exact absurd rfl other
              | publish => rfl
      | sending =>
          cases kind with
          | connect => rfl
          | publish => exact absurd rfl other
  | checking progress =>
      cases progress with
      | pinging => cases kind <;> rfl
      | leasing acquisition =>
          cases acquisition with
          | arriving | queued | seated => cases kind <;> rfl
          | connecting =>
              cases kind with
              | connect => exact absurd rfl other
              | publish => rfl
  | consuming source handler progress =>
      cases progress with
      | receiving | handling | settling => cases kind <;> rfl
      | opening =>
          cases kind with
          | connect => exact absurd rfl other
          | publish => rfl

theorem notice?_breakers (kind : OperationKind) (a : Adapter ε ρ σ κ) (s : Shared ε) (now : Instant)
    (prompt : Prompt) (part : Part ε ρ σ κ η) (connectBreaker publishBreaker : Breaker) :
    part.notice? kind { a with connectBreaker, publishBreaker } s now prompt =
      part.notice? kind a s now prompt := by
  cases part with
  | publishing message progress => cases progress <;> cases kind <;> rfl
  | checking progress => cases progress <;> cases kind <;> rfl
  | consuming source handler progress => cases progress <;> cases kind <;> rfl

def permitAt (kind : OperationKind) (place : Nat) : Option (Nat × Part ε ρ σ κ η) → Option Permit
  | some (there, part) => if there = place then (part.attempt? kind).map Attempt.permit else none
  | none => none

variable {kind : OperationKind} {place : Nat}

theorem permitAt_here (part : Part ε ρ σ κ η) :
    permitAt kind place (some (place, part)) = (part.attempt? kind).map Attempt.permit := if_pos rfl

theorem permitAt_away {there : Nat} (away : there ≠ place) (part : Part ε ρ σ κ η) :
    permitAt kind place (some (there, part)) = none := if_neg away

theorem permitAt_fresh {known : Option (Nat × Part ε ρ σ κ η)}
    (fresh : ∀ there part, known = some (there, part) → there = place → part.isFresh) :
    permitAt kind place known = none := by
  cases known with
  | none => rfl
  | some entry =>
      obtain ⟨there, part⟩ := entry
      by_cases here : there = place
      · subst here
        rw [permitAt_here, attempt_fresh (fresh _ part rfl rfl)]
        rfl
      · exact permitAt_away here part

end Part

theorem Call.Succeeds.permitAt {ε ρ σ κ η : Type} {call : Call ε ρ σ κ η} {place : Nat}
    {fate : Part.Fate ε ρ σ κ η} {errand : Errand ε ρ σ κ η} (succeeds : call.Succeeds place fate errand)
    (kind : OperationKind) (there : Nat) :
    Part.permitAt kind there errand.part? =
      if place = there then (fate.attempt? kind).map Attempt.permit else none := by
  cases succeeds with
  | goesOn known => rw [Errand.part?, known]; rfl
  | settled => exact (ite_self _).symm
  | @checked name result left =>
      refine (Part.permitAt_fresh ?_).trans (ite_self _).symm
      intro place part known _
      cases left with
      | nil => cases known
      | cons first left => cases known; rfl

theorem Call.Leaves.permitAt {ε ρ σ κ η : Type} {call : Call ε ρ σ κ η} {errand : Errand ε ρ σ κ η}
    (leaves : call.Leaves errand) (kind : OperationKind) (place : Nat) :
    Part.permitAt kind place errand.part? = none := by
  cases leaves with
  | gone | checked => rfl
  | skipped checked progress first left =>
      apply Part.permitAt_fresh
      intro there part known _
      cases left with
      | nil => cases known
      | cons second left => cases known; rfl

end Dispatch
