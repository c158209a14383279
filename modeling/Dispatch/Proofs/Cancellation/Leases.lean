import Dispatch.Proofs.Errands

set_option autoImplicit false

namespace Dispatch

namespace Adapter

variable {ε ρ σ κ : Type}

/-- An adapter took a lease back: the resource is idle again, or the transport closed it, and the slot is free.
The outside is read before and after. -/
inductive Regains (now : Instant) (lease : Lease ρ) (a next : Adapter ε ρ σ κ) (outside : ε) : ε → Prop
  | kept (pool : next.pool = { a.pool with
      idle := { lease with lastUsed := now } :: a.pool.idle
      leased := a.pool.leased - 1
      slots := a.pool.slots.map Slots.give }) : Regains now lease a next outside outside
  | closed (pool : next.pool = { a.pool with
      leased := a.pool.leased - 1
      closed := a.pool.closed + 1
      slots := a.pool.slots.map Slots.give }) :
      Regains now lease a next outside (a.transport.close lease.resource outside)

theorem release_regains (a : Adapter ε ρ σ κ) (s : Shared ε) (now : Instant) (lease : Lease ρ) :
    a.Regains now lease (a.release s now lease).1 s.surroundings.outside
      (a.release s now lease).2.surroundings.outside := by
  cases keeps : a.pool.keeps (!false && a.isUsable s lease.resource) now lease with
  | true =>
      obtain ⟨next, outcome, rfl⟩ := Pool.takeBack_kept keeps
      simp only [release, Pool.release, outcome]
      exact .kept rfl
  | false =>
      obtain ⟨next, event, outcome, rfl⟩ := Pool.takeBack_closed keeps
      simp only [release, Pool.release, outcome]
      exact .closed rfl

theorem Regains.of_pool {now : Instant} {lease : Lease ρ} {a b next : Adapter ε ρ σ κ} {outside later : ε}
    (regains : b.Regains now lease next outside later) (pool : b.pool = a.pool)
    (transport : b.transport = a.transport) : a.Regains now lease next outside later := by
  cases regains with
  | kept same => exact .kept (by rw [same, pool])
  | closed same =>
      rw [transport]
      exact .closed (by rw [same, pool])

end Adapter

inductive Turn.Leases {ε ρ σ κ μ α : Type} (now : Instant) (lease : Lease ρ) (standing : μ → Standing ρ)
    (a next : Adapter ε ρ σ κ) (later : ε) : Turn μ α → Prop
  | moved {after : μ} (pool : next.pool = a.pool) (held : standing after = .holding lease) :
      Leases now lease standing a next later (.moved after)
  | waited (pool : next.pool = a.pool) (wake : Option Instant) :
      Leases now lease standing a next later (.blocked wake)
  | broke (pool : next.pool = a.pool) : Leases now lease standing a next later .overflowed
  | returned (result : α) {outside : ε} (regains : a.Regains now lease next outside later) :
      Leases now lease standing a next later (.finished result)

theorem Turn.Leases.lift {ε ρ σ κ μ ν α β : Type} {now : Instant} {lease : Lease ρ} {standing : μ → Standing ρ}
    {a next : Adapter ε ρ σ κ} {later : ε} {turn : Turn μ α} (leases : turn.Leases now lease standing a next later)
    {standing' : ν → Standing ρ} {wrap : μ → ν} (same : ∀ call, standing' (wrap call) = standing call)
    (reply : α → β) :
    (turn.lift wrap fun result => .finished (reply result)).Leases now lease standing' a next later := by
  cases leases with
  | moved pool held => exact .moved pool ((same _).trans held)
  | waited pool wake => exact .waited pool wake
  | broke pool => exact .broke pool
  | returned result regains => exact .returned (reply result) regains

theorem Turn.Leases.of_pool {ε ρ σ κ μ α : Type} {now : Instant} {lease : Lease ρ} {standing : μ → Standing ρ}
    {a b next : Adapter ε ρ σ κ} {later : ε} {turn : Turn μ α} (leases : turn.Leases now lease standing b next later)
    (pool : b.pool = a.pool) (transport : b.transport = a.transport) :
    turn.Leases now lease standing a next later := by
  cases leases with
  | moved same held => exact .moved (same.trans pool) held
  | waited same wake => exact .waited (same.trans pool) wake
  | broke same => exact .broke (same.trans pool)
  | returned result regains => exact .returned result (regains.of_pool pool transport)

namespace Publishing

variable {ε ρ σ κ : Type}

theorem conclusion_leases (a : Adapter ε ρ σ κ) (s : Shared ε) (now : Instant) (destination : Destination)
    (span : Nat) (lease : Lease ρ) (result : Except BrokerError Receipt) :
    let next := conclusion a s now destination span lease result
    next.turn.Leases now lease standing a next.adapter next.shared.surroundings.outside := by
  have regains := a.release_regains s now lease
  simp only [conclusion]
  cases result with
  | ok receipt => exact .returned _ regains
  | error error => exact .returned _ regains

theorem step_leases (a : Adapter ε ρ σ κ) (s : Shared ε) (message : Outgoing) (now : Instant) (cancelled : Bool)
    {progress : Publishing ρ κ} {lease : Lease ρ} (holding : progress.standing = .holding lease) :
    let next := progress.step a s message now cancelled
    next.turn.Leases now lease standing a next.adapter next.shared.surroundings.outside := by
  cases progress with
  | fresh | limiting => cases holding
  | leasing span acquisition => exact absurd holding (acquisition.not_holding lease)
  | preparing span own =>
      cases holding
      simp only [step]
      split
      · exact conclusion_leases a s now message.destination span lease _
      · exact .moved rfl rfl
  | sending span own envelope execution =>
      cases holding
      simp only [step]
      split
      · exact (conclusion_leases _ _ now message.destination span lease _).of_pool rfl rfl
      · exact (conclusion_leases _ _ now message.destination span lease _).of_pool rfl rfl
      · exact .moved rfl rfl
      · refine .waited ?_ _
        rfl
      · refine .broke ?_
        rfl

theorem abandon_regains (a : Adapter ε ρ σ κ) (s : Shared ε) (now : Instant) {progress : Publishing ρ κ}
    {lease : Lease ρ} (holding : progress.standing = .holding lease) :
    ∃ outside, a.Regains now lease (progress.abandon a s now).1 outside
      (progress.abandon a s now).2.surroundings.outside := by
  cases progress with
  | fresh | limiting => cases holding
  | leasing span acquisition => exact absurd holding (acquisition.not_holding lease)
  | preparing span own =>
      cases holding
      exact ⟨_, a.release_regains s now lease⟩
  | sending span own envelope execution =>
      cases holding
      exact ⟨_, (Adapter.release_regains _ _ now lease).of_pool rfl rfl⟩

end Publishing

namespace Checking

variable {ε ρ σ κ : Type}

theorem step_leases (a : Adapter ε ρ σ κ) (s : Shared ε) (now : Instant) (cancelled : Bool) {progress : Checking ρ κ}
    {lease : Lease ρ} (holding : progress.standing = .holding lease) :
    let next := progress.step a s now cancelled
    next.turn.Leases now lease standing a next.adapter next.shared.surroundings.outside := by
  cases progress with
  | leasing acquisition => exact absurd holding (acquisition.not_holding lease)
  | pinging own =>
      cases holding
      exact .returned _ (a.release_regains s now lease)

theorem abandon_regains (a : Adapter ε ρ σ κ) (s : Shared ε) (now : Instant) {progress : Checking ρ κ}
    {lease : Lease ρ} (holding : progress.standing = .holding lease) :
    ∃ outside, a.Regains now lease (progress.abandon a s now).1 outside
      (progress.abandon a s now).2.surroundings.outside := by
  cases progress with
  | leasing acquisition => exact absurd holding (acquisition.not_holding lease)
  | pinging own =>
      cases holding
      exact ⟨_, a.release_regains s now lease⟩

end Checking

namespace Part

variable {ε ρ σ κ η : Type}

def standing : Part ε ρ σ κ η → Standing ρ
  | .publishing _ progress => progress.standing
  | .checking progress => progress.standing
  | .consuming _ _ _ => .outside

def Fate.standing : Fate ε ρ σ κ η → Standing ρ
  | .goesOn part => part.standing
  | .settled _ => .outside

theorem standing_fresh {part : Part ε ρ σ κ η} (fresh : part.isFresh) : part.standing = .outside := by
  rcases fresh_cases fresh with ⟨message, rfl⟩ | rfl | ⟨source, handler, rfl⟩ <;> rfl

theorem step_leases (a : Adapter ε ρ σ κ) (s : Shared ε) (now : Instant) (cancelled : Bool) {part : Part ε ρ σ κ η}
    {lease : Lease ρ} (holding : part.standing = .holding lease) :
    let next := part.step a s now cancelled
    next.turn.Leases now lease standing a next.adapter next.shared.surroundings.outside := by
  cases part with
  | publishing message progress =>
      have same (call : Publishing ρ κ) : (publishing message call : Part ε ρ σ κ η).standing = call.standing := rfl
      exact (progress.step_leases a s message now cancelled holding).lift same Reply.published
  | checking progress =>
      have same (call : Checking ρ κ) : (checking call : Part ε ρ σ κ η).standing = call.standing := rfl
      exact (progress.step_leases a s now cancelled holding).lift same Reply.checked
  | consuming => cases holding

theorem abandon_regains (a : Adapter ε ρ σ κ) (s : Shared ε) (now : Instant) {part : Part ε ρ σ κ η}
    {lease : Lease ρ} (holding : part.standing = .holding lease) :
    ∃ outside, a.Regains now lease (part.abandon a s now).1 outside (part.abandon a s now).2.surroundings.outside := by
  cases part with
  | publishing message progress => exact progress.abandon_regains a s now holding
  | checking progress => exact progress.abandon_regains a s now holding
  | consuming => cases holding

variable {now : Instant} {a next : Adapter ε ρ σ κ} {s later : Shared ε} {part : Part ε ρ σ κ η} {prompt : Prompt}
  {fate : Fate ε ρ σ κ η}

theorem Deed.lease (deed : part.Deed now a s prompt fate next later) {lease : Lease ρ}
    (holding : part.standing = .holding lease) :
    fate.standing = .holding lease ∨ (∃ reply, fate = .settled reply) ∧
      ∃ outside, a.Regains now lease next outside later.surroundings.outside := by
  cases deed with
  | @moved cancelled after turn =>
      have leases := part.step_leases a s now cancelled holding
      dsimp only at leases
      rw [turn] at leases
      cases leases with
      | moved pool held => exact .inl held
  | waited => exact .inl holding
  | @finished cancelled reply turn =>
      have leases := part.step_leases a s now cancelled holding
      dsimp only at leases
      rw [turn] at leases
      generalize (part.step a s now cancelled).shared.surroundings.outside = outside at leases ⊢
      cases leases with
      | returned _ regains => exact .inr ⟨⟨reply, rfl⟩, _, regains⟩
  | @broke cancelled last final turn left =>
      have leases := part.step_leases a s now cancelled holding
      have wiring := part.step_wiring a s now cancelled
      dsimp only at leases
      rw [turn] at leases
      obtain ⟨outside, regains⟩ := abandon_regains (part.step a s now cancelled).adapter
        (part.step a s now cancelled).shared now holding
      rw [left] at regains
      cases leases with
      | broke pool => exact .inr ⟨⟨_, rfl⟩, outside, regains.of_pool pool wiring.2⟩
  | gaveUp left =>
      obtain ⟨outside, regains⟩ := abandon_regains a s now holding
      rw [left] at regains
      exact .inr ⟨⟨_, rfl⟩, outside, regains⟩

end Part

namespace Exchange

variable {ε ρ σ κ η : Type} {x y : Exchange ε ρ σ κ η} {move : Move ε ρ σ κ η} {number place : Nat} {lease : Lease ρ}

def Holds (x : Exchange ε ρ σ κ η) (number place : Nat) (lease : Lease ρ) : Prop :=
  ∃ part, x.part? number = some (place, part) ∧ part.standing = .holding lease

structure Returns (x y : Exchange ε ρ σ κ η) (number place : Nat) (lease : Lease ρ) : Prop where
  gone : ¬y.Holds number place lease
  back : ∃ a next outside, x.registry.adapters[place]? = some a ∧ y.registry.adapters[place]? = some next ∧
    a.Regains x.now lease next outside y.registry.shared.surroundings.outside

theorem Change.keeps_lease (change : x.Change move y) (placed : x.Placed) (holds : x.Holds number place lease) :
    y.Holds number place lease ∨ x.Returns y number place lease := by
  obtain ⟨part, doing, holding⟩ := holds
  obtain ⟨call, found, known⟩ := part?_iff.1 doing
  by_cases own : ∃ prompt, move.prompt? = some (number, prompt)
  · obtain ⟨prompt, prompted⟩ := own
    cases here : x.registry.adapters[place]? with
    | none =>
        -- where there is no adapter there is no lease
        have fresh := placed number call place part found known here
        rw [Part.standing_fresh fresh] at holding
        cases holding
    | some a =>
        obtain ⟨own, fate, errand, next, later, running, deed, succeeds, errands, there, shared⟩ :=
          change.acts prompted doing here
        have after : y.errands[number]? = some errand := by
          rw [errands, List.getElem?_set_self (List.getElem?_eq_some_iff.1 running).1]
        rcases deed.lease holding with held | ⟨⟨reply, rfl⟩, outside, regains⟩
        · left
          cases succeeds with
          | settled | checked => cases held
          | goesOn known => exact ⟨_, part?_iff.2 ⟨_, after, known⟩, held⟩
        · right
          rw [← shared] at regains
          refine ⟨?_, a, next, outside, here, there, regains⟩
          rintro ⟨last, known, holding⟩
          obtain ⟨call, found, known⟩ := part?_iff.1 known
          rw [after] at found
          cases succeeds with
          | settled => cases found
          | @checked name result left =>
              cases found
              cases left with
              | nil => cases known
              | cons first left =>
                  cases known
                  cases holding
  · have kept := change.stays found fun prompt prompted => own ⟨prompt, prompted⟩
    exact .inl ⟨part, part?_iff.2 ⟨call, kept, known⟩, holding⟩

theorem placed_start (outside : ε) (process : String) : (start outside process : Exchange ε ρ σ κ η).Placed := by
  intro number call place part found
  cases found

theorem Placed.run (placed : x.Placed) (moves : List (Move ε ρ σ κ η)) : (x.run moves).Placed :=
  run_keeps (fun x move placed => placed.change (x.perform_change move)) moves placed

theorem lease_until_returned (placed : x.Placed) (holds : x.Holds number place lease)
    (later : List (Move ε ρ σ κ η)) :
    (x.run later).Holds number place lease ∨ ∃ before move after, later = before ++ move :: after ∧
      (x.run before).Holds number place lease ∧
      (x.run before).Returns ((x.run before).perform move) number place lease := by
  induction later generalizing x with
  | nil => exact .inl holds
  | cons move later ih =>
      have change := x.perform_change move
      rcases change.keeps_lease placed holds with held | returned
      · rcases ih (placed.change change) held with held | ⟨before, last, after, rfl, held, returned⟩
        · exact .inl held
        · exact .inr ⟨move :: before, last, after, rfl, held, returned⟩
      · exact .inr ⟨[], move, later, rfl, holds, returned⟩

end Exchange

end Dispatch
