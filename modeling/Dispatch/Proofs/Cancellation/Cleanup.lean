import Dispatch.Proofs.Cancellation.Leases
import Dispatch.Proofs.Cancellation.Probes
import Dispatch.Proofs.Cancellation.Replies
import Dispatch.Proofs.Delivery.Receipts

set_option autoImplicit false

namespace Dispatch

/-! ## Connect attempts -/

namespace Adapter

variable {ε ρ σ κ : Type} {a : Adapter ε ρ σ κ}

theorem stepLease_unaware (connects : a.pool.connect.kind = .connect) (s : Shared ε) (now : Instant)
    (cancelled : Bool) (attempt : Nat) (permit : Permit) (call : TransportCall ρ κ) :
    a.stepLease s now cancelled (.connecting (.trying attempt permit call)) =
      a.stepLease s now false (.connecting (.trying attempt permit call)) := by
  have uncut (cancelled : Bool) : ¬(cancelled = true ∧ a.pool.connect.kind.abortsInFlight = true) := by
    rw [connects]
    simp [OperationKind.abortsInFlight]
  simp only [stepLease, Acquisition.step, Execution.step, if_neg (uncut _)]

theorem stepLease_ends (connects : a.pool.connect.kind = .connect) {s : Shared ε} {now : Instant} (cancelled : Bool)
    {attempt : Nat} {permit : Permit} {call : TransportCall ρ κ} {result : Except Failure ρ}
    (ended : (a.supply.create.step now s.surroundings call).1 = .finished result) :
    let next := a.stepLease s now cancelled (.connecting (.trying attempt permit call))
    next.2.1.connectBreaker = (a.connectBreaker.settle now permit result).1 ∧
      ∀ handle, result = .ok handle → ∃ lease, lease.resource = handle ∧ next.1 = .finished (.ok lease) := by
  rw [stepLease_unaware connects]
  simp only [stepLease, Acquisition.step, Execution.step, Bool.false_eq_true, false_and, if_false]
  generalize a.supply.create.step now s.surroundings call = outcome at ended ⊢
  obtain ⟨turn, environment⟩ := outcome
  cases ended
  cases result with
  | ok handle => exact ⟨rfl, fun given same => ⟨_, Except.ok.inj same, rfl⟩⟩
  | error failure =>
      refine ⟨?_, fun given same => by cases same⟩
      simp only [Execution.settled]
      split <;> rfl

theorem stepLease_runs (connects : a.pool.connect.kind = .connect) {s : Shared ε} {now : Instant} (cancelled : Bool)
    (attempt : Nat) (permit : Permit) {call : TransportCall ρ κ}
    (lasts : ∀ result, (a.supply.create.step now s.surroundings call).1 ≠ .finished result)
    (whole : (a.supply.create.step now s.surroundings call).1 ≠ .overflowed) :
    let next := a.stepLease s now cancelled (.connecting (.trying attempt permit call))
    next.2.1.connectBreaker = a.connectBreaker ∧
      ((∃ after, next.1 = .moved (.connecting (.trying attempt permit after))) ∨ ∃ wake, next.1 = .blocked wake) := by
  rw [stepLease_unaware connects]
  simp only [stepLease, Acquisition.step, Execution.step, Bool.false_eq_true, false_and, if_false]
  generalize a.supply.create.step now s.surroundings call = outcome at lasts whole ⊢
  obtain ⟨turn, environment⟩ := outcome
  cases turn with
  | finished result => exact absurd rfl (lasts result)
  | overflowed => exact absurd rfl whole
  | moved after => exact ⟨rfl, .inl ⟨after, rfl⟩⟩
  | blocked wake => exact ⟨rfl, .inr ⟨wake, rfl⟩⟩

end Adapter

namespace Part

variable {ε ρ σ κ η : Type} {part : Part ε ρ σ κ η} {acquisition : Adapter.Leasing ρ κ}

def acquiring? : Part ε ρ σ κ η → Option (Adapter.Leasing ρ κ)
  | .publishing _ (.leasing _ acquisition) | .checking (.leasing acquisition) => some acquisition
  | _ => none

theorem acquiring_cases (acquiring : part.acquiring? = some acquisition) :
    (∃ message span, part = .publishing message (.leasing span acquisition)) ∨
      part = .checking (.leasing acquisition) := by
  cases part with
  | publishing message progress =>
      cases progress with
      | leasing span own => cases acquiring; exact .inl ⟨message, span, rfl⟩
      | fresh | limiting | preparing | sending => cases acquiring
  | checking progress =>
      cases progress with
      | leasing own => cases acquiring; exact .inr rfl
      | pinging => cases acquiring
  | consuming => cases acquiring

theorem attempt_acquiring (acquiring : part.acquiring? = some acquisition) :
    part.attempt? .connect = acquisition.attempt? := by
  rcases acquiring_cases acquiring with ⟨message, span, rfl⟩ | rfl <;> rfl

theorem step_acquiring (a : Adapter ε ρ σ κ) (s : Shared ε) (now : Instant) (cancelled : Bool)
    (acquiring : part.acquiring? = some acquisition) :
    let next := part.step a s now cancelled
    let leasing := a.stepLease s now cancelled acquisition
    next.adapter = leasing.2.1 ∧
      (∀ lease, leasing.1 = .finished (.ok lease) →
        ∃ after, next.turn = .moved after ∧ after.standing = .holding lease) ∧
      (∀ own, leasing.1 = .moved own → ∃ after, next.turn = .moved after ∧ after.acquiring? = some own) ∧
      ∀ wake, leasing.1 = .blocked wake → next.turn = .blocked wake := by
  rcases acquiring_cases acquiring with ⟨message, span, rfl⟩ | rfl
  · simp only [step, Publishing.step]
    generalize a.stepLease s now cancelled acquisition = outcome
    obtain ⟨turn, next, later⟩ := outcome
    refine ⟨?_, ?_, ?_, ?_⟩
    · cases turn with
      | finished result => cases result <;> rfl
      | moved | blocked | overflowed => rfl
    · rintro lease rfl
      exact ⟨_, rfl, rfl⟩
    · rintro own rfl
      exact ⟨_, rfl, rfl⟩
    · rintro wake rfl
      rfl
  · unfold step Checking.step
    dsimp only
    generalize a.stepLease s now cancelled acquisition = outcome
    obtain ⟨turn, next, later⟩ := outcome
    refine ⟨rfl, ?_, ?_, ?_⟩
    · rintro lease rfl
      exact ⟨_, rfl, rfl⟩
    · rintro own rfl
      exact ⟨_, rfl, rfl⟩
    · rintro wake rfl
      rfl

theorem Deed.settles_connect {a next : Adapter ε ρ σ κ} {s later : Shared ε} {now : Instant} {cancelled : Bool}
    {fate : Fate ε ρ σ κ η} (deed : part.Deed now a s (.step cancelled) fate next later)
    (connects : a.pool.connect.kind = .connect) {attempt : Nat} {permit : Permit} {call : TransportCall ρ κ}
    {result : Except Failure ρ} (acquiring : part.acquiring? = some (.connecting (.trying attempt permit call)))
    (ended : (a.supply.create.step now s.surroundings call).1 = .finished result) :
    next.connectBreaker = (a.connectBreaker.settle now permit result).1 := by
  have adapter := (step_acquiring a s now cancelled acquiring).1
  have settled : (part.step a s now cancelled).adapter.connectBreaker =
      (a.connectBreaker.settle now permit result).1 := by
    rw [adapter]
    exact (Adapter.stepLease_ends connects cancelled ended).1
  cases deed with
  | moved | waited | finished => exact settled
  | @broke _ last final turn left =>
      -- the wait before the next attempt breaks the call, which gives the settled permit back once more
      obtain ⟨given, -⟩ :=
        part.abandon_guards (part.step a s now cancelled).adapter (part.step a s now cancelled).shared now
      rw [left] at given
      have own : part.attempt? .connect = some ⟨attempt, permit⟩ := attempt_acquiring acquiring
      have back : next.connectBreaker = (part.step a s now cancelled).adapter.connectBreaker.giveBack
          (part.attempt? .connect) := given .connect
      rw [back, own, settled, a.connectBreaker.settle_record, Breaker.giveBack, Breaker.cancel_record]

end Part

theorem Call.step_unaware {ε ρ σ κ η : Type} {r : Registry ε ρ σ κ} {now : Instant} {call : Call ε ρ σ κ η}
    {place : Nat} {part : Part ε ρ σ κ η} {a : Adapter ε ρ σ κ} {acquisition : Adapter.Leasing ρ κ}
    (known : call.part? = some (place, part)) (found : r.adapters[place]? = some a)
    (acquiring : part.acquiring? = some acquisition)
    (unaware : a.stepLease r.shared now true acquisition = a.stepLease r.shared now false acquisition) :
    call.step r now true = call.step r now false := by
  cases call with
  | publishing here message progress =>
      cases known
      rcases Part.acquiring_cases acquiring with ⟨_, span, same⟩ | same
      · cases same
        simp only [step, found, Publishing.step, unaware]
      · cases same
  | checking here progress =>
      cases known
      rcases Part.acquiring_cases acquiring with ⟨_, span, same⟩ | same
      · cases same
      · cases same
        simp only [step, found, Checking.step, unaware]
  | consuming =>
      cases known
      cases acquiring
  | checkingAll checked progress left =>
      cases left with
      | nil => cases known
      | cons first left =>
          cases known
          rcases Part.acquiring_cases acquiring with ⟨_, span, same⟩ | same
          · cases same
          · cases same
            simp only [step, found, Checking.step, unaware]

/-! ## Sends -/

theorem Part.step_aborted {ε ρ σ κ η : Type} {a : Adapter ε ρ σ κ} (sends : a.publish.kind = .publish) (s : Shared ε)
    (now : Instant) (message : Outgoing) (span : Nat) (lease : Lease ρ) (envelope : Envelope) (attempt : Nat)
    (permit : Permit) (call : TransportCall ρ κ) :
    let part : Part ε ρ σ κ η := .publishing message (.sending span lease envelope (.trying attempt permit call))
    let next := part.step a s now true
    next.turn = .finished (.published (.error (.cancelled a.backend))) ∧
      next.adapter.connectBreaker = a.connectBreaker ∧
      next.adapter.publishBreaker = a.publishBreaker.cancel permit ∧
      a.Regains now lease next.adapter ((a.transport.send lease.resource envelope).abandon s.surroundings call).outside
        next.shared.surroundings.outside := by
  have aborts : a.publish.kind.abortsInFlight = true := by
    rw [sends]
    rfl
  have stepped := Execution.step_aborted a.publish (Publishing.sendOperation a lease envelope) now a.publishBreaker
    s.surroundings attempt permit call aborts
  have regains := Adapter.release_regains { a with publishBreaker := a.publishBreaker.cancel permit }
    ({ s with surroundings := (a.transport.send lease.resource envelope).abandon s.surroundings call }.report []) now
    lease
  simp only [Part.step, Publishing.step, stepped]
  exact ⟨rfl, rfl, rfl, regains.of_pool rfl rfl⟩

/-! ## Exchanges -/

namespace Exchange

variable {ε ρ σ κ η : Type} {x : Exchange ε ρ σ κ η} {number place : Nat} {a : Adapter ε ρ σ κ}

theorem step_acted {part : Part ε ρ σ κ η} (doing : x.part? number = some (place, part))
    (here : x.registry.adapters[place]? = some a) (cancelled : Bool) :
    let y := x.perform (.step number cancelled)
    ∃ call errand next later, x.errands[number]? = some (.running call) ∧
      part.Deed x.now a x.registry.shared (.step cancelled)
        (.of part (part.step a x.registry.shared x.now cancelled).turn) next later ∧
      call.Succeeds place (.of part (part.step a x.registry.shared x.now cancelled).turn) errand ∧
      y.errands = x.errands.set number errand ∧ y.registry.adapters[place]? = some next ∧
      y.registry.shared = later := by
  obtain ⟨call, fate, errand, next, later, found, deed, succeeds, errands, there, shared⟩ :=
    (x.perform_change (.step number cancelled)).acts rfl doing here
  obtain rfl := deed.fate_of
  exact ⟨call, errand, next, later, found, deed, succeeds, errands, there, shared⟩

structure Aborts (x : Exchange ε ρ σ κ η) (number place : Nat) (a : Adapter ε ρ σ κ) (lease : Lease ρ)
    (permit : Permit) (abandoned : ε) : Prop where
  reply : (x.perform (.step number true)).errands[number]? =
    some (.ended (.published (.error (.cancelled a.backend))))
  adapter : ∃ next, (x.perform (.step number true)).registry.adapters[place]? = some next ∧
    next.connectBreaker = a.connectBreaker ∧
    next.publishBreaker = { a.publishBreaker with probing := a.publishBreaker.probing && !permit.probe } ∧
    a.Regains x.now lease next abandoned (x.perform (.step number true)).registry.shared.surroundings.outside

theorem Guards.cancel (guards : x.Guards place a) (permit : Permit) :
    a.publishBreaker.cancel permit =
      { a.publishBreaker with probing := a.publishBreaker.probing && !permit.probe } := by
  have half : a.publishBreaker.ProbesHalfOpen := guards.half .publish
  generalize a.publishBreaker = b at half ⊢
  unfold Breaker.cancel
  cases probe : permit.probe with
  | false => simp
  | true =>
      by_cases state : b.state = .halfOpen
      · simp [state]
      · have free : b.probing = false := Bool.eq_false_iff.2 fun probing => state (half probing)
        simp [state, ← free]

theorem Guarded.aborts (guarded : x.Guarded) {message : Outgoing} {span : Nat} {lease : Lease ρ}
    {envelope : Envelope} {attempt : Nat} {permit : Permit} {call : TransportCall ρ κ}
    (doing : x.part? number =
      some (place, .publishing message (.sending span lease envelope (.trying attempt permit call))))
    (here : x.registry.adapters[place]? = some a) :
    x.Aborts number place a lease permit
      ((a.transport.send lease.resource envelope).abandon x.registry.shared.surroundings call).outside := by
  have guards := guarded place a here
  obtain ⟨turn, connect, publish, regains⟩ := Part.step_aborted (η := η) (guards.kinds .publish) x.registry.shared
    x.now message span lease envelope attempt permit call
  obtain ⟨_, errand, next, later, found, deed, succeeds, errands, there, shared⟩ := step_acted doing here true
  obtain ⟨rfl, rfl⟩ := deed.whole (by simp [turn])
  rw [turn] at succeeds
  constructor
  · rw [errands, List.getElem?_set_self (List.getElem?_eq_some_iff.1 found).1]
    cases succeeds with
    | settled reply => rfl
  · rw [shared]
    exact ⟨_, there, connect, publish.trans (guards.cancel permit), regains⟩

/-! ### Connect attempts of calls -/

structure Connects (x : Exchange ε ρ σ κ η) (number place : Nat) (a : Adapter ε ρ σ κ) (attempt : Nat)
    (permit : Permit) (call : TransportCall ρ κ) : Prop where
  unaware : x.perform (.step number true) = x.perform (.step number false)
  settles : ∀ result, (a.supply.create.step x.now x.registry.shared.surroundings call).1 = .finished result →
    ∃ next, (x.perform (.step number true)).registry.adapters[place]? = some next ∧
      next.connectBreaker = (a.connectBreaker.settle x.now permit result).1
  opens : ∀ handle, (a.supply.create.step x.now x.registry.shared.surroundings call).1 = .finished (.ok handle) →
    ∃ lease, lease.resource = handle ∧ (x.perform (.step number true)).Holds number place lease
  goesOn : (∀ result, (a.supply.create.step x.now x.registry.shared.surroundings call).1 ≠ .finished result) →
    (a.supply.create.step x.now x.registry.shared.surroundings call).1 ≠ .overflowed →
    (x.perform (.step number true)).attempt? .connect number = some (place, ⟨attempt, permit⟩) ∧
      ∃ next, (x.perform (.step number true)).registry.adapters[place]? = some next ∧
        next.connectBreaker = a.connectBreaker

theorem Guarded.connects (guarded : x.Guarded) {part : Part ε ρ σ κ η} (doing : x.part? number = some (place, part))
    (here : x.registry.adapters[place]? = some a) {attempt : Nat} {permit : Permit} {call : TransportCall ρ κ}
    (acquiring : part.acquiring? = some (.connecting (.trying attempt permit call))) :
    x.Connects number place a attempt permit call := by
  have connects : a.pool.connect.kind = .connect := (guarded place a here).kinds .connect
  obtain ⟨adapter, holds, moves, waits⟩ := Part.step_acquiring a x.registry.shared x.now true acquiring
  obtain ⟨whole, errand, next, later, found, deed, succeeds, errands, there, shared⟩ := step_acted doing here true
  have bound := (List.getElem?_eq_some_iff.1 found).1
  have goes (after : Part ε ρ σ κ η) (fate : Part.Fate.of part
      (part.step a x.registry.shared x.now true).turn = .goesOn after) :
      (x.perform (.step number true)).part? number = some (place, after) := by
    rw [fate] at succeeds
    cases succeeds with
    | goesOn known => exact part?_iff.2 ⟨_, by rw [errands, List.getElem?_set_self bound], known⟩
  constructor
  case unaware =>
    obtain ⟨own, found, known⟩ := part?_iff.1 doing
    have same := Call.step_unaware known here acquiring
      (Adapter.stepLease_unaware connects x.registry.shared x.now true attempt permit call)
    simp only [perform, found, advance, same]
  case settles =>
    intro result ended
    exact ⟨next, there, deed.settles_connect connects acquiring ended⟩
  case opens =>
    intro handle ended
    obtain ⟨lease, same, finished⟩ := (Adapter.stepLease_ends connects true ended).2 handle rfl
    obtain ⟨after, turn, holding⟩ := holds lease finished
    exact ⟨lease, same, after, goes after (by rw [turn]; rfl), holding⟩
  case goesOn =>
    intro lasts whole
    obtain ⟨breaker, ran⟩ := Adapter.stepLease_runs connects true attempt permit lasts whole
    have kept (unbroken : (part.step a x.registry.shared x.now true).turn ≠ .overflowed) :
        next.connectBreaker = a.connectBreaker := by
      rw [(deed.whole unbroken).1, adapter]
      exact breaker
    rcases ran with ⟨own, moved⟩ | ⟨wake, blocked⟩
    · obtain ⟨after, turn, still⟩ := moves _ moved
      have known := goes after (by rw [turn]; rfl)
      exact ⟨attempt?_iff.2 ⟨after, known, Part.attempt_acquiring still⟩, next, there, kept (by simp [turn])⟩
    · have turn := waits wake blocked
      have known := goes part (by rw [turn]; rfl)
      exact ⟨attempt?_iff.2 ⟨part, known, Part.attempt_acquiring acquiring⟩, next, there, kept (by simp [turn])⟩

/-! ### What calls own -/

/-- All that is leased at an adapter, all its slots that are not available, its tickets and its probes are those
of calls that run; a call that is over stands outside and has no attempt. -/
structure Owned (x : Exchange ε ρ σ κ η) (place : Nat) (a : Adapter ε ρ σ κ) : Prop where
  leased : a.pool.leased = x.errands.countP fun errand => (errand.standing place).lease?.isSome
  slots : ∀ slots, a.pool.slots = some slots →
    slots.available + x.errands.countP (fun errand => (errand.standing place).hasSlot) =
      min a.pool.policy.maxSize Slots.limit
  tickets : ∀ slots, a.pool.slots = some slots → ∀ ticket ∈ slots.tickets,
    ∃ errand ∈ x.errands, (errand.standing place).ticket? = some ticket
  probes : ∀ kind, (a.breaker kind).probing = true → (a.breaker kind).state = .halfOpen ∧
    ∃ number attempt, x.attempt? kind number = some (place, attempt) ∧ attempt.permit.probe = true

theorem countP_standings (x : Exchange ε ρ σ κ η) (place : Nat) (test : Standing ρ → Bool) :
    (x.standings place : Multiset (Standing ρ)).countP (test ·) =
      x.errands.countP fun errand => test (errand.standing place) := by
  simp [standings, List.countP_map, Function.comp_def]

theorem Sound.owned (sound : x.Sound) (guarded : x.Guarded) (here : x.registry.adapters[place]? = some a) :
    x.Owned place a := by
  obtain ⟨policy, connect, log, reached⟩ := (sound.tracks place a here).housed
  have seats (slots : Slots) (capped : a.pool.slots = some slots) :
      Seats slots a.pool.idle.length (x.standings place : Multiset (Standing ρ))
        (min a.pool.policy.maxSize Slots.limit) := by
    have sized := reached.settings.2.2
    simp only [capped, Option.isSome_some] at sized
    obtain ⟨own, same, seats⟩ := reached.seats (of_decide_eq_true sized.symm)
    obtain rfl := Option.some.inj (same.symm.trans capped)
    have policy' : a.pool.policy = policy := reached.settings.1
    rw [policy']
    exact seats
  constructor
  case leased => exact reached.balanced.leased.trans ((Hall.card_held _).trans (x.countP_standings place _))
  case slots =>
    intro slots capped
    rw [← countP_standings]
    exact (seats slots capped).whole
  case tickets =>
    intro slots capped ticket member
    obtain ⟨standing, present, queued⟩ :=
      (Multiset.mem_filterMap _ _).1 ((seats slots capped).serves.issued ticket member)
    obtain ⟨errand, listed, rfl⟩ := List.mem_map.1 present
    exact ⟨errand, listed, queued⟩
  case probes =>
    intro kind probing
    exact ⟨(guarded place a here).half kind probing, (guarded place a here).probes kind probing⟩

/-! ## Cancellation -/

structure Cancellable (x : Exchange ε ρ σ κ η) : Prop where
  quiet : ∀ number later, Cancels number later → ∀ kind running,
    (x.run later).attempt? kind number = some running → x.attempt? kind number = some running
  sending : ∀ number place message span lease envelope attempt permit call a,
    x.part? number = some (place, .publishing message (.sending span lease envelope (.trying attempt permit call))) →
    x.registry.adapters[place]? = some a →
    x.Aborts number place a lease permit
      ((a.transport.send lease.resource envelope).abandon x.registry.shared.surroundings call).outside
  connecting : ∀ number place part attempt permit call a, x.part? number = some (place, part) →
    part.acquiring? = some (.connecting (.trying attempt permit call)) → x.registry.adapters[place]? = some a →
    x.Connects number place a attempt permit call
  permits : ∀ kind number place attempt, x.attempt? kind number = some (place, attempt) → ∀ move,
    (x.perform move).attempt? kind number = some (place, attempt) ∨ x.Settles (x.perform move) kind place attempt
  leases : ∀ number place lease, x.Holds number place lease → ∀ later, (x.run later).Holds number place lease ∨
    ∃ before move after, later = before ++ move :: after ∧ (x.run before).Holds number place lease ∧
      (x.run before).Returns ((x.run before).perform move) number place lease
  owned : ∀ place a, x.registry.adapters[place]? = some a → x.Owned place a

theorem cancellable (sound : x.Sound) (guarded : x.Guarded) (placed : x.Placed) : x.Cancellable where
  quiet _ _ cancels _ _ running := attempt_of_cancelled cancels running
  sending _ _ _ _ _ _ _ _ _ _ doing here := guarded.aborts doing here
  connecting _ _ _ _ _ _ _ doing acquiring here := guarded.connects doing here acquiring
  permits _ _ _ _ running move := (x.perform_change move).keeps_permit placed running
  leases _ _ _ holds later := lease_until_returned placed holds later
  owned _ _ here := sound.owned guarded here

end Exchange

namespace Watch

variable {η : Type} {w : OnMemory η}

def Unsent (w : OnMemory η) : Prop :=
  ∀ number place message span lease envelope attempt permit call, w.exchange.part? number =
    some (place, .publishing message (.sending span lease envelope (.trying attempt permit call))) →
    (w.perform (.step number true)).frames = w.frames

theorem Delivering.unsent (delivering : w.Delivering) (guarded : w.exchange.Guarded) (placed : w.exchange.Placed) :
    w.Unsent := by
  intro number place message span lease envelope attempt permit call doing
  obtain ⟨own, found, known⟩ := Exchange.part?_iff.1 doing
  cases here : w.exchange.registry.adapters[place]? with
  | none => cases placed number own place _ found known here
  | some a =>
      obtain ⟨turn, -⟩ := Part.step_aborted (η := η) ((guarded place a here).kinds .publish)
        w.exchange.registry.shared w.exchange.now message span lease envelope attempt permit call
      obtain ⟨-, -, next, later, -, deed, -, -, -, shared⟩ := Exchange.step_acted doing here true
      obtain ⟨⟨settings, wired⟩, -⟩ := delivering.orderly.wired place a here
      have quiet := delivering.orderly.quiet number own place _ found known
      have flight := deed.flight wired quiet delivering.orderly.once
      rw [turn] at flight
      change (w.exchange.perform (.step number true)).registry.shared.air.frames = _
      rw [shared]
      exact flight.frames fun receipt same => by cases same

end Watch

namespace Exchange

variable {ε ρ σ κ η : Type}

/-- Calls may be cancelled at any moment of any run: a call that is cancelled begins no attempt, its send is given
up and leaves no frame, its connect attempt is neither given up nor lost, and whatever it had goes back. Only a
call that is cancelled is told so. -/
theorem cancelled_calls_leave_nothing (outside : ε) (process : String) (moves : List (Move ε ρ σ κ η))
    (incidents : List (Incident η)) :
    let x := (start outside process).run moves
    let w := (Watch.start MemoryBroker.new process : Watch.OnMemory η).run (incidents.map Incident.move)
    x.Cancellable ∧ Warranted moves x ∧ w.Unsent := by
  intro x w
  refine ⟨?_, warranted outside process moves, ?_⟩
  · have sound : x.Sound := (Sound.start outside process).run moves
    have guarded : x.Guarded := (guarded_start outside process).run moves
    exact cancellable sound guarded ((placed_start outside process).run moves)
  · have same : w.exchange = (start MemoryBroker.new process).run (incidents.map Incident.move) :=
      Watch.run_exchange _ _
    have delivering : w.Delivering := (Watch.Delivering.start process).run incidents
    apply delivering.unsent
    · rw [same]
      exact (guarded_start MemoryBroker.new process).run _
    · rw [same]
      exact (placed_start MemoryBroker.new process).run _

-- a send that hangs, cancelled after its attempt began
example :
    let incidents : List (Incident Unit) :=
      [.fault (.hangSends true), .register "broker" (.amqp .standard), .publish 0 (.envelope default default)] ++
        List.replicate 9 (.step 0 false)
    let w := (Watch.start MemoryBroker.new "process").run (incidents.map Incident.move)
    w.exchange.attempt? .publish 0 = some (0, ⟨1, ⟨false⟩⟩) ∧
      (w.perform (.step 0 true)).exchange.attempt? .publish 0 = none ∧ (w.perform (.step 0 true)).frames = [] := by
  decide

end Exchange

end Dispatch
