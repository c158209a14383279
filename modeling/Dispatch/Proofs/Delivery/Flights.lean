import Dispatch.Proofs.Delivery.Parts
import Dispatch.Proofs.Publishing.Books

set_option autoImplicit false

namespace Dispatch

abbrev Shared.air (s : Shared MemoryBroker) : Air := s.reading MemoryBroker.air

def Publishing.flying : Publishing MemoryHandle MemoryCall → Option Nat
  | .sending _ lease _ execution =>
    if execution.flies (TransportCall.flies MemoryCall.flies) then some lease.resource.number else none
  | _ => none

def Part.flying {η : Type} : MemoryPart η → Option Nat
  | .publishing _ progress => progress.flying
  | _ => none

abbrev MemoryFate (η : Type) := Part.Fate MemoryBroker MemoryHandle Nat MemoryCall η

def Part.Fate.flying {η : Type} : MemoryFate η → Option Nat
  | .goesOn part => part.flying
  | .settled _ => none

namespace Part

variable {η : Type}

/-- What a deed does to the air: a frame arrives exactly when a publish call returns a receipt. -/
inductive Flight (settings : BackendSettings) (air : Air) (part : MemoryPart η) : MemoryFate η → Air → Prop
  | kept {fate : MemoryFate η} (same : fate.flying = part.flying)
      (unconfirmed : ∀ receipt, fate ≠ .settled (.published (.ok receipt))) : Flight settings air part fate air
  | tookOff {after : MemoryPart η} {number : Nat} (grounded : part.flying = none)
      (flying : after.flying = some number) : Flight settings air part (.goesOn after) (air.takeOff number)
  | landed {fate : MemoryFate η} {number : Nat} (flying : part.flying = some number) (down : fate.flying = none)
      (unconfirmed : ∀ receipt, fate ≠ .settled (.published (.ok receipt))) :
      Flight settings air part fate (air.land number true)
  | delivered {message : Outgoing} {span : Nat} {lease : Lease MemoryHandle} {envelope : Envelope}
      {execution : Execution (TransportCall MemoryHandle MemoryCall)} {receipt : Receipt}
      (sending : part = .publishing message (.sending span lease envelope execution))
      (flying : part.flying = some lease.resource.number) :
      Flight settings air part (.settled (.published (.ok receipt)))
        ((air.deliver (.ofSend settings lease envelope)).land lease.resource.number true)

theorem Flight.frames {settings : BackendSettings} {air later : Air} {part : MemoryPart η} {fate : MemoryFate η}
    (flight : part.Flight settings air fate later)
    (unconfirmed : ∀ receipt, fate ≠ .settled (.published (.ok receipt))) : later.frames = air.frames := by
  cases flight with
  | kept | tookOff | landed => rfl
  | delivered => exact absurd rfl (unconfirmed _)

def Flies (settings : BackendSettings) (air : Air) (part : MemoryPart η) (later : Air) :
    Turn (MemoryPart η) Reply → Prop
  | .moved after => part.Flight settings air (.goesOn after) later
  | .finished reply => part.Flight settings air (.settled reply) later
  | .blocked _ => later = air
  | .overflowed => later = air.ground part.flying

theorem Flight.down {settings : BackendSettings} {air : Air} {part : MemoryPart η} {fate : MemoryFate η}
    {number : Nat} {flying : Bool} (known : part.flying = if flying then some number else none)
    (down : fate.flying = none) (unconfirmed : ∀ receipt, fate ≠ .settled (.published (.ok receipt))) :
    part.Flight settings air fate (air.land number flying) := by
  cases flying with
  | true => exact .landed known down unconfirmed
  | false => exact .kept (down.trans known.symm) unconfirmed

end Part

namespace Publishing

theorem Onward.grounded {ε σ : Type} {a : Adapter ε MemoryHandle σ MemoryCall} {message : Outgoing}
    {progress after : Publishing MemoryHandle MemoryCall} (onward : progress.Onward a message after)
    (unsent : ∀ span lease envelope execution, progress ≠ .sending span lease envelope execution) :
    after.flying = none := by
  cases onward with
  | limiting | leasing | preparing | prepared => rfl
  | sending sent later => exact absurd sent (unsent _ _ _ _)

variable {η : Type} {a : MemoryAdapter} {settings : BackendSettings}

theorem send_flight (wired : a.OnMemory settings) (s : Shared MemoryBroker) (message : Outgoing) (now : Instant)
    (cancelled : Bool) (span : Nat) (lease : Lease MemoryHandle) (envelope : Envelope)
    (execution : Execution (TransportCall MemoryHandle MemoryCall)) :
    let next := Part.step a s now cancelled (.publishing message (.sending span lease envelope execution))
    (.publishing message (.sending span lease envelope execution) : MemoryPart η).Flies settings s.air
      next.shared.air next.turn := by
  have sends := (wired.sends lease envelope).execution a.publish now cancelled a.publishBreaker s.surroundings
    execution
  -- the lease goes back, and that is nothing to the air
  have ended (breaker : Breaker) (later : Shared MemoryBroker) (result : Except BrokerError Receipt)
      (flight : (Part.publishing message (.sending span lease envelope execution) : MemoryPart η).Flight settings s.air
        (.settled (.published result)) later.air) :
      let next := conclusion { a with publishBreaker := breaker } later now message.destination span lease result
      (Part.publishing message (.sending span lease envelope execution) : MemoryPart η).Flies settings s.air
        next.shared.air (next.turn.lift (.publishing message) fun result => .finished (.published result)) := by
    obtain ⟨turn, -, reading⟩ := conclusion_frame (a := { a with publishBreaker := breaker }) later now
      message.destination span lease result
    have same : (conclusion { a with publishBreaker := breaker } later now message.destination span lease
      result).shared.air = later.air := reading wired.spares_air
    dsimp only
    rw [turn, same]
    exact flight
  have known : (Part.publishing message (.sending span lease envelope execution) : MemoryPart η).flying =
    if execution.flies (TransportCall.flies MemoryCall.flies) then some lease.resource.number else none := rfl
  simp only [Part.step, step]
  generalize execution.step a.publish (sendOperation a lease envelope) now cancelled a.publishBreaker
    s.surroundings = next at sends ⊢
  obtain ⟨turn, breaker, surroundings, events⟩ := next
  dsimp only at sends ⊢
  generalize landing : surroundings.outside.air = later at sends
  have there : Shared.air ({ s with surroundings }.report events) = later := landing
  cases sends with
  | waited wake => exact landing
  | @moved next same =>
      refine there ▸ Part.Flight.kept ?_ fun receipt same => by cases same
      rw [known, ← same]
      rfl
  | @tookOff next grounded flying =>
      refine there ▸ Part.Flight.tookOff ?_ ?_
      · rw [known, grounded]
        rfl
      · exact if_pos flying
  | landed grounds =>
      cases grounds with
      | failed failure =>
          refine ended breaker _ _ (there ▸ .down known rfl fun receipt same => ?_)
          cases same
      | @moved next grounded =>
          refine there ▸ Part.Flight.down known ?_ fun receipt same => by cases same
          simp [Part.Fate.flying, Part.flying, flying, grounded]
      | overflowed =>
          refine there.trans ?_
          rw [known]
          cases execution.flies (TransportCall.flies MemoryCall.flies) <;> rfl
  | delivered flying =>
      exact ended breaker _ _ (there ▸ .delivered rfl (known.trans (if_pos flying)))

theorem step_flies (wired : a.OnMemory settings) (s : Shared MemoryBroker) (message : Outgoing) (now : Instant)
    (cancelled : Bool) (progress : Publishing MemoryHandle MemoryCall) :
    let next := Part.step a s now cancelled (.publishing message progress)
    (.publishing message progress : MemoryPart η).Flies settings s.air next.shared.air next.turn := by
  by_cases sending : ∃ span lease envelope execution, progress = .sending span lease envelope execution
  · obtain ⟨span, lease, envelope, execution, rfl⟩ := sending
    exact send_flight wired s message now cancelled span lease envelope execution
  · have unsent : ∀ span lease envelope execution, progress ≠ .sending span lease envelope execution :=
      fun span lease envelope execution same => sending ⟨span, lease, envelope, execution, same⟩
    have same : (progress.step a s message now cancelled).shared.air = s.air :=
      wired.spares_air.publish wired.create_air s message now cancelled unsent
    have grounded : (Part.publishing message progress : MemoryPart η).flying = none := by
      cases progress with
      | sending span lease envelope execution => exact absurd rfl (unsent span lease envelope execution)
      | fresh | limiting | leasing | preparing => rfl
    have starts (after : Publishing MemoryHandle MemoryCall)
        (turn : (progress.step a s message now cancelled).turn = .moved after) : after.flying = none :=
      (step_onward turn).grounded unsent
    have entry := progress.step_books a s message now cancelled
    simp only [Part.step, same]
    generalize (progress.step a s message now cancelled).turn = turn at starts entry
    generalize (progress.step a s message now cancelled).shared.books = books at entry
    cases turn with
    | moved after =>
        exact .kept ((starts after rfl).trans grounded.symm) fun receipt same => by cases same
    | finished result =>
        refine .kept grounded.symm ?_
        intro receipt same
        cases same
        cases entry with
        | finished known sent =>
            obtain ⟨span, lease, envelope, execution, same, -⟩ := sent receipt rfl
            exact unsent span lease envelope execution same
    | blocked wake => exact rfl
    | overflowed =>
        change s.air = s.air.ground (Part.publishing message progress : MemoryPart η).flying
        rw [grounded]
        rfl

theorem abandon_air (wired : a.OnMemory settings) (s : Shared MemoryBroker) (now : Instant)
    (progress : Publishing MemoryHandle MemoryCall) :
    (progress.abandon a s now).2.air = s.air.ground progress.flying := by
  cases progress with
  | fresh | limiting => rfl
  | leasing span acquisition => exact Transport.Spares.abandonLease wired.create_air s acquisition
  | preparing span lease => exact wired.spares_air.release s now lease
  | sending span lease envelope execution =>
      have landed := (wired.sends lease envelope).execution_abandon a.publishBreaker s.surroundings execution
      simp only [abandon]
      generalize execution.abandon (sendOperation a lease envelope) a.publishBreaker s.surroundings = next at landed ⊢
      obtain ⟨publishBreaker, surroundings⟩ := next
      have back := Transport.Spares.release (a := { a with publishBreaker }) wired.spares_air
        { s with surroundings } now lease
      refine (back.trans landed).trans ?_
      rw [flying]
      cases execution.flies (TransportCall.flies MemoryCall.flies) <;> rfl

end Publishing

namespace Part

variable {η : Type} {a next : MemoryAdapter} {settings : BackendSettings} {s later : Shared MemoryBroker}
  {now : Instant} {part : MemoryPart η} {prompt : Prompt} {fate : MemoryFate η}

theorem step_flies (wired : a.OnMemory settings) (s : Shared MemoryBroker) (now : Instant) (cancelled : Bool)
    (quiet : part.Quiet) :
    part.Flies settings s.air (part.step a s now cancelled).shared.air (part.step a s now cancelled).turn := by
  cases part with
  | publishing message progress => exact progress.step_flies wired s message now cancelled
  | checking progress =>
      have same : (progress.step a s now cancelled).shared.air = s.air :=
        wired.spares_air.check wired.create_air s now cancelled progress
      simp only [step, same]
      cases (progress.step a s now cancelled).turn with
      | moved after => exact .kept rfl fun receipt same => by cases same
      | finished result => exact .kept rfl fun receipt same => by cases same
      | blocked | overflowed => exact rfl
  | consuming source handler progress =>
      have air : handler.Spares MemoryBroker.air := fun delivery => (quiet delivery).comp Prod.fst
      have same : (progress.step a s source handler now cancelled).shared.air = s.air :=
        wired.spares_air.consume air s source now cancelled progress
      simp only [step, same]
      cases (progress.step a s source handler now cancelled).turn with
      | moved after => exact .kept rfl fun receipt same => by cases same
      | finished result => exact .kept rfl fun receipt same => by cases same
      | blocked | overflowed => exact rfl

theorem abandon_air (wired : a.OnMemory settings) (s : Shared MemoryBroker) (now : Instant) (quiet : part.Quiet) :
    (part.abandon a s now).2.air = s.air.ground part.flying := by
  cases part with
  | publishing message progress => exact progress.abandon_air wired s now
  | checking progress => exact wired.spares_air.stopChecking wired.create_air s now progress
  | consuming source handler progress =>
      have air : handler.Spares MemoryBroker.air := fun delivery => (quiet delivery).comp Prod.fst
      exact wired.spares_air.stopConsuming air s source progress

theorem Deed.flight (wired : a.OnMemory settings) (quiet : part.Quiet) (once : s.air.busy.Nodup)
    (deed : part.Deed now a s prompt fate next later) : part.Flight settings s.air fate later.air := by
  have dropped : part.Flight settings s.air (.settled .abandoned) (s.air.ground part.flying) := by
    cases flying : part.flying with
    | none => exact .kept flying.symm fun receipt same => by cases same
    | some number => exact .landed flying rfl fun receipt same => by cases same
  cases deed with
  | @moved cancelled after turn =>
      have flies := step_flies wired s now cancelled quiet
      rwa [turn] at flies
  | @waited cancelled wake turn =>
      have flies := step_flies wired s now cancelled quiet
      rw [turn] at flies
      rw [show _ = s.air from flies]
      exact .kept rfl fun receipt same => by cases same
  | @finished cancelled reply turn =>
      have flies := step_flies wired s now cancelled quiet
      rwa [turn] at flies
  | @broke cancelled next later turn left =>
      have flies := step_flies wired s now cancelled quiet
      rw [turn] at flies
      have again : (part.step a s now cancelled).adapter.OnMemory settings :=
        (part.step_wiring a s now cancelled).2.trans wired
      have gone := abandon_air again (part.step a s now cancelled).shared now quiet
      rw [left, show (part.step a s now cancelled).shared.air = _ from flies, Air.ground_twice once] at gone
      exact gone ▸ dropped
  | gaveUp left =>
      have gone := abandon_air wired s now quiet
      rw [left] at gone
      exact gone ▸ dropped

end Part

end Dispatch
