import Dispatch.Proofs.Breaker.History
import Mathlib.Data.List.Basic

/-!
# A breaker and its callers

A `Circuit` is a breaker with a clock, the permits that are out and all that happened so far. A list of
moves is a run: any number of callers ask, and settle or drop what they hold in any order and at any
later time. Dropping a permit is to cancel it.
-/

set_option autoImplicit false

namespace Dispatch

/-- A permit that is out, with the length that the history had when it was given. -/
structure Held where
  permit : Permit
  issued : Nat

structure Circuit where
  now : Instant
  breaker : Breaker
  held : List Held
  history : List Entry

namespace Circuit

variable {α : Type}

inductive Move (α : Type) where
  | ask
  | succeed (holder : Nat)
  | fail (holder : Nat)
  | cancel (holder : Nat)
  | settle (holder : Nat) (result : Except Failure α)
  | elapse (duration : Duration)
  | reset

def Move.outcome? : Move α → Option (Nat × Verdict)
  | .succeed holder => some (holder, .success)
  | .fail holder => some (holder, .failure)
  | .cancel holder => some (holder, .cancelled)
  | .settle holder result => some (holder, .of result)
  | .ask | .elapse _ | .reset => none

def start (name : String) (policy : BreakerPolicy) : Circuit where
  now := 0
  breaker := .new name policy
  held := []
  history := []

def note (c : Circuit) (use : Breaker.Use) (held : List Held) : Circuit :=
  { c with
    breaker := (c.breaker.entry c.now use).after
    held
    history := c.history ++ [c.breaker.entry c.now use] }

def ask (c : Circuit) : Circuit :=
  match (c.breaker.request c.now).1 with
  | .ok permit => c.note .ask (c.held ++ [⟨permit, c.history.length⟩])
  | .error _ => c.note .ask c.held

def giveBack (c : Circuit) (holder : Nat) (verdict : Verdict) (after : Permit → Breaker) : Circuit :=
  match c.held[holder]? with
  | some held =>
    { c with
      breaker := after held.permit
      held := c.held.eraseIdx holder
      history := c.history ++ [⟨c.now, .settled held.permit verdict, c.breaker, after held.permit⟩] }
  | none => c

def perform (c : Circuit) : Move α → Circuit
  | .ask => c.ask
  | .succeed holder => c.giveBack holder .success fun permit => (c.breaker.succeed permit).1
  | .fail holder => c.giveBack holder .failure fun permit => (c.breaker.fail c.now permit).1
  | .cancel holder => c.giveBack holder .cancelled fun permit => c.breaker.cancel permit
  | .settle holder result =>
    c.giveBack holder (.of result) fun permit => (c.breaker.settle c.now permit result).1
  | .elapse duration => { c with now := c.now + duration }
  | .reset => c.note .reset c.held

def run (c : Circuit) (moves : List (Move α)) : Circuit := moves.foldl perform c

def settled (c : Circuit) (holder : Nat) (held : Held) (verdict : Verdict) : Circuit :=
  c.note (.settle held.permit verdict) (c.held.eraseIdx holder)

theorem perform_settled {c : Circuit} {move : Move α} {holder : Nat} {held : Held} {verdict : Verdict}
    (outcome : move.outcome? = some (holder, verdict)) (found : c.held[holder]? = some held) :
    c.perform move = c.settled holder held verdict := by
  have back {after : Permit → Breaker}
      (same : after held.permit = c.breaker.record c.now held.permit verdict) :
      c.giveBack holder verdict after = c.settled holder held verdict := by
    simp only [giveBack, found, same]
    rfl
  cases move with
  | ask | elapse | reset => cases outcome
  | succeed | fail | cancel =>
      cases outcome
      unfold perform
      exact back rfl
  | settle _ result =>
      cases outcome
      unfold perform
      exact back (Breaker.settle_record c.breaker c.now held.permit result)

theorem perform_idle {c : Circuit} {move : Move α} {holder : Nat} {verdict : Verdict}
    (outcome : move.outcome? = some (holder, verdict)) (missing : c.held[holder]? = none) :
    c.perform move = c := by
  cases move with
  | ask | elapse | reset => cases outcome
  | succeed | fail | cancel | settle =>
      cases outcome
      simp [perform, giveBack, missing]

inductive Change (c : Circuit) : Circuit → Prop
  | nothing : Change c c
  | elapse (duration : Duration) : Change c { c with now := c.now + duration }
  | admitted {permit : Permit} (answer : (c.breaker.request c.now).1 = .ok permit) :
      Change c (c.note .ask (c.held ++ [⟨permit, c.history.length⟩]))
  | refused {failure : Failure} (answer : (c.breaker.request c.now).1 = .error failure) :
      Change c (c.note .ask c.held)
  | settled {holder : Nat} {held : Held} (verdict : Verdict) (found : c.held[holder]? = some held) :
      Change c (c.settled holder held verdict)

theorem perform_change (c : Circuit) {move : Move α} (other : move ≠ .reset) :
    c.Change (c.perform move) := by
  cases outcome : move.outcome? with
  | none =>
      cases move with
      | ask =>
          simp only [perform, ask]
          split
          · rename_i answer
            exact .admitted answer
          · rename_i answer
            exact .refused answer
      | elapse duration => exact .elapse duration
      | reset => exact absurd rfl other
      | succeed | fail | cancel | settle => cases outcome
  | some told =>
      cases found : c.held[told.1]? with
      | none =>
          rw [perform_idle outcome found]
          exact .nothing
      | some held =>
          rw [perform_settled outcome found]
          exact .settled told.2 found

theorem run_induction {P : Circuit → Prop} (step : ∀ c next, c.Change next → P c → P next)
    (moves : List (Move α)) (reset : ∀ c, .reset ∈ moves → P c → P (c.note .reset c.held)) (c : Circuit)
    (start : P c) : P (c.run moves) := by
  induction moves generalizing c with
  | nil => exact start
  | cons move moves ih =>
      refine ih (fun c member => reset c (List.mem_cons_of_mem _ member)) _ ?_
      by_cases other : move = .reset
      · subst other
        exact reset c List.mem_cons_self start
      · exact step c _ (c.perform_change other) start

def WasReset (c : Circuit) : Prop := ∃ entry ∈ c.history, entry.isReset

theorem wasReset_note {c : Circuit} {use : Breaker.Use} {held : List Held} :
    (c.note use held).WasReset ↔ c.WasReset ∨ (c.breaker.entry c.now use).isReset := by
  simp [WasReset, note, or_and_right, exists_or]

theorem Change.wasReset {c next : Circuit} (change : c.Change next) :
    next.WasReset ↔ c.WasReset := by
  cases change with
  | nothing | elapse => rfl
  | admitted | refused | settled => exact wasReset_note.trans (by simp [Breaker.entry, Entry.isReset])

theorem run_steady {name : String} {policy : BreakerPolicy} {moves : List (Move α)}
    (steady : .reset ∉ moves) : ¬((start name policy).run moves).WasReset :=
  run_induction (P := fun c => ¬c.WasReset)
    (fun _ _ change unreset => mt change.wasReset.1 unreset) moves
    (fun _ member => absurd member steady) _ (by simp [WasReset, start])

theorem Change.traced {c next : Circuit} {first : Breaker} (change : c.Change next)
    (traced : Breaker.Traced first c.history c.breaker) :
    Breaker.Traced first next.history next.breaker := by
  cases change with
  | nothing | elapse => exact traced
  | admitted | refused | settled => exact traced.use c.now _

theorem run_traced (name : String) (policy : BreakerPolicy) (moves : List (Move α)) :
    Breaker.Traced (.new name policy) ((start name policy).run moves).history
      ((start name policy).run moves).breaker :=
  run_induction (P := fun c => Breaker.Traced (.new name policy) c.history c.breaker)
    (fun _ _ change traced => change.traced traced) moves
    (fun c _ traced => traced.use c.now .reset) _ .start

end Circuit

end Dispatch
