import Dispatch.Pool.Acquisition
import Dispatch.Proofs.Pool.Operations
import Dispatch.Proofs.Pool.Slots
import Mathlib.Data.List.Perm.Basic

/-!
# Passages through a pool

Where a caller stands with a pool is its `Standing`. A `Passage` is all that one act of a caller can do:
it takes the caller from one standing to the next and says what becomes of the pool and what is
reported. `Hall` is a pool with the callers around it and all that it reported; its steps are
passages and the changes that no caller makes. What holds of every hall that is `Reached` holds
wherever a pool is used.

An act covers at most one of the pool's critical sections: a lease ends in two acts, the resource goes
back in the first and the slot in the second, and a shutdown is made of three changes.
-/

set_option autoImplicit false

namespace Dispatch

inductive Standing (ρ : Type) where
  | outside
  | queued (ticket : Ticket)
  | seated
  | connecting
  | holding (lease : Lease ρ)
  | leaving

namespace Standing

variable {ρ : Type}

def lease? : Standing ρ → Option (Lease ρ)
  | .holding lease => some lease
  | _ => none

def ticket? : Standing ρ → Option Ticket
  | .queued ticket => some ticket
  | _ => none

def hasSlot : Standing ρ → Bool
  | .seated | .connecting | .holding _ | .leaving => true
  | _ => false

end Standing

def Acquisition.standing {ρ κ : Type} : Acquisition κ → Standing ρ
  | .arriving => .outside
  | .queued ticket _ => .queued ticket
  | .seated => .seated
  | .connecting _ => .connecting

theorem Acquisition.not_holding {ρ κ : Type} (acquisition : Acquisition κ) (lease : Lease ρ) :
    acquisition.standing ≠ .holding lease := by
  cases acquisition <;> simp [standing]

/-- What one act of a caller can do to a pool, and what is reported. -/
inductive Passage {ρ : Type} (now : Instant) (pool : Pool ρ) :
    Standing ρ → Standing ρ → Pool ρ → List (PoolEvent ρ) → Prop
  | stay (standing : Standing ρ) (events : List Event) :
      Passage now pool standing standing pool (events.map .reported)
  | enter (advisory : pool.slots = none) : Passage now pool .outside .seated pool []
  | sit {slots next : Slots} (capped : pool.slots = some slots) (taken : slots.take? = some next) :
      Passage now pool .outside .seated { pool with slots := some next } []
  | queue {slots : Slots} (capped : pool.slots = some slots) :
      Passage now pool .outside (.queued slots.join.1) { pool with slots := some slots.join.2 } []
  | claim {slots next : Slots} {ticket : Ticket} (capped : pool.slots = some slots)
      (claimed : slots.claim? ticket = some next) :
      Passage now pool (.queued ticket) .seated { pool with slots := some next } []
  | giveUp (ticket : Ticket) :
      Passage now pool (.queued ticket) .outside (Acquisition.leaveLine pool ticket) []
  | take {healthy : ρ → Bool} {lease : Lease ρ} {next : Pool ρ} {events : List (PoolEvent ρ)}
      (taken : pool.takeIdle healthy now = (some lease, next, events)) :
      Passage now pool .seated (.holding lease) next events
  | miss {healthy : ρ → Bool} {next : Pool ρ} {events : List (PoolEvent ρ)}
      (missed : pool.takeIdle healthy now = (none, next, events)) :
      Passage now pool .seated .connecting next events
  | connect (resource : ρ) (events : List Event) :
      Passage now pool .connecting (.holding (pool.addCreated resource now).1)
        (pool.addCreated resource now).2.1
        (events.map .reported ++ (pool.addCreated resource now).2.2)
  | finish (healthy : ρ → Bool) (discard : Bool) (lease : Lease ρ) :
      Passage now pool (.holding lease) .leaving (pool.takeBack healthy discard now lease).1
        (pool.takeBack healthy discard now lease).2
  | free {standing : Standing ρ} (events : List Event) (seated : standing.hasSlot)
      (unleased : standing.lease? = none) :
      Passage now pool standing .outside pool.freeSlot (events.map .reported)

namespace Acquisition

variable {ε ρ κ : Type}

def standingAfter (turn : Turn (Acquisition κ) (Except Failure (Lease ρ))) (before : Acquisition κ) :
    Standing ρ :=
  match turn with
  | .finished (.ok lease) => .holding lease
  | .finished (.error _) => .outside
  | .moved after => after.standing
  | .blocked _ | .overflowed => before.standing

theorem step_unseated (supply : Supply ε ρ κ) (now : Instant) (cancelled : Bool) (pool : Pool ρ)
    (breaker : Breaker) (environment : ε) (call : Acquisition κ)
    (unseated : (call.standing : Standing ρ).hasSlot = false) :
    let next := call.step supply now cancelled pool breaker environment
    (∃ slots, next.pool = { pool with slots }) ∧ next.events = [] ∧ next.breaker = breaker ∧
      next.environment = environment ∧ ∀ lease, next.turn ≠ .finished (.ok lease) := by
  cases call with
  | arriving =>
      simp only [step]
      split
      · exact ⟨⟨_, rfl⟩, rfl, rfl, rfl, by simp⟩
      · split
        · exact ⟨⟨_, rfl⟩, rfl, rfl, rfl, by simp⟩
        · split
          · exact ⟨⟨_, rfl⟩, rfl, rfl, rfl, by simp⟩
          · split
            · exact ⟨⟨_, rfl⟩, rfl, rfl, rfl, by simp⟩
            · exact ⟨⟨_, rfl⟩, rfl, rfl, rfl, by simp⟩
  | queued ticket deadline =>
      simp only [step]
      split
      · exact ⟨⟨_, rfl⟩, rfl, rfl, rfl, by simp⟩
      · split
        · exact ⟨⟨_, rfl⟩, rfl, rfl, rfl, by simp⟩
        · split
          · exact ⟨⟨_, rfl⟩, rfl, rfl, rfl, by simp⟩
          · split
            · exact ⟨⟨_, rfl⟩, rfl, rfl, rfl, by simp⟩
            · split
              · exact ⟨⟨_, rfl⟩, rfl, rfl, rfl, by simp⟩
              · exact ⟨⟨_, rfl⟩, rfl, rfl, rfl, by simp⟩
  | seated => cases unseated
  | connecting execution => cases unseated

theorem step_passage (supply : Supply ε ρ κ) (now : Instant) (cancelled : Bool) (pool : Pool ρ)
    (breaker : Breaker) (environment : ε) (call : Acquisition κ) :
    let next := call.step supply now cancelled pool breaker environment
    Passage now pool call.standing (standingAfter next.turn call) next.pool next.events := by
  cases call with
  | arriving =>
      simp only [step]
      split
      · exact .stay .outside []
      · split
        · exact .stay .outside []
        · split
          · rename_i advisory
            exact .enter advisory
          · rename_i slots capped
            split
            · rename_i next taken
              exact .sit capped taken
            · exact .queue capped
  | queued ticket deadline =>
      simp only [step]
      split
      · exact .giveUp ticket
      · rename_i slots capped
        split
        · exact .giveUp ticket
        · split
          · exact .giveUp ticket
          · split
            · rename_i next claimed
              exact .claim capped claimed
            · split
              · exact .giveUp ticket
              · exact .stay (.queued ticket) []
  | seated =>
      simp only [step]
      split
      · rename_i lease next events taken
        exact .take taken
      · rename_i next events missed
        exact .miss missed
  | connecting execution =>
      simp only [step]
      split
      · exact .stay .connecting _
      · exact .stay .connecting _
      · exact .stay .connecting _
      · exact .free _ rfl rfl
      · exact .connect _ _

theorem abandon_passage (supply : Supply ε ρ κ) (now : Instant) (pool : Pool ρ) (breaker : Breaker)
    (environment : ε) (call : Acquisition κ) :
    Passage now pool call.standing .outside (call.abandon supply pool breaker environment).1 [] := by
  cases call with
  | arriving => exact .stay .outside []
  | queued ticket deadline => exact .giveUp ticket
  | seated => exact .free [] rfl rfl
  | connecting execution => exact .free [] rfl rfl

end Acquisition

structure Hall (ρ : Type) where
  pool : Pool ρ
  standings : Multiset (Standing ρ)
  log : List (PoolEvent ρ)

namespace Hall

variable {ρ : Type}

inductive Step (now : Instant) : Hall ρ → Hall ρ → Prop
  | join (pool : Pool ρ) (standings : Multiset (Standing ρ)) (log : List (PoolEvent ρ)) :
      Step now ⟨pool, standings, log⟩ ⟨pool, .outside ::ₘ standings, log⟩
  | pass {pool next : Pool ρ} {before after : Standing ρ} {events : List (PoolEvent ρ)}
      (others : Multiset (Standing ρ)) (log : List (PoolEvent ρ))
      (passage : Passage now pool before after next events) :
      Step now ⟨pool, before ::ₘ others, log⟩ ⟨next, after ::ₘ others, log ++ events⟩
  | drain (hall : Hall ρ) :
      Step now hall ⟨hall.pool.closeIdle.1, hall.standings, hall.log ++ hall.pool.closeIdle.2⟩
  | refuse (hall : Hall ρ) : Step now hall { hall with pool := hall.pool.refuse }
  | closeSlots (hall : Hall ρ) : Step now hall { hall with pool := hall.pool.closeSlots }
  | announce (hall : Hall ρ) (events : List Event) :
      Step now hall { hall with log := hall.log ++ events.map .reported }

inductive Reached (policy : PoolPolicy) (connect : Pipeline) : Hall ρ → Prop
  | start : Reached policy connect ⟨.new policy connect, 0, []⟩
  | step {before after : Hall ρ} {now : Instant} (reached : Reached policy connect before)
      (step : Step now before after) : Reached policy connect after

theorem others {α : Type} {callers : List α} {number : Nat} {caller : α} (standing : α → Standing ρ)
    (found : callers[number]? = some caller) :
    ∃ others : Multiset (Standing ρ), (callers.map standing : Multiset _) = standing caller ::ₘ others ∧
      ∀ after, ((callers.set number after).map standing : Multiset _) = standing after ::ₘ others := by
  obtain ⟨bound, rfl⟩ := List.getElem?_eq_some_iff.1 found
  refine ⟨(callers.eraseIdx number).map standing, ?_, fun after => ?_⟩
  · exact Multiset.coe_eq_coe.2 ((List.getElem_cons_eraseIdx_perm bound).symm.map standing)
  · exact Multiset.coe_eq_coe.2 ((List.set_perm_cons_eraseIdx bound after).map standing)

theorem act {α : Type} {callers : List α} {number : Nat} {caller : α} {now : Instant}
    {pool next : Pool ρ} {events log : List (PoolEvent ρ)} (standing : α → Standing ρ)
    (found : callers[number]? = some caller) (after : α)
    (passage : Passage now pool (standing caller) (standing after) next events) :
    Step now ⟨pool, callers.map standing, log⟩
      ⟨next, (callers.set number after).map standing, log ++ events⟩ := by
  obtain ⟨others, before, rest⟩ := Hall.others standing found
  rw [before, rest]
  exact .pass others log passage

theorem Reached.outside {policy : PoolPolicy} {connect : Pipeline} {standings : List (Standing ρ)}
    (outside : ∀ standing ∈ standings, standing = .outside) :
    Reached policy connect ⟨.new policy connect, (standings : Multiset (Standing ρ)), []⟩ := by
  induction standings with
  | nil => exact .start
  | cons standing standings ih =>
      have first := outside standing List.mem_cons_self
      have rest := ih fun standing member => outside standing (List.mem_cons_of_mem _ member)
      rw [first]
      exact rest.step (Step.join _ _ _ : Step 0 _ _)

theorem reached_of_steps {policy : PoolPolicy} {connect : Pipeline} {now : Instant}
    {before after : Hall ρ} (reached : Reached policy connect before)
    (steps : Relation.ReflTransGen (Step now) before after) : Reached policy connect after := by
  induction steps with
  | refl => exact reached
  | tail _ step ih => exact .step ih step

end Hall

end Dispatch
