import Dispatch.Proofs.Pool.Traffic

set_option autoImplicit false

namespace Dispatch

variable {ε ρ κ : Type}

def Pooled.forget (entry : Pooled (Numbered ρ)) : Pooled ρ where
  resource := entry.resource.resource
  createdAt := entry.createdAt
  lastUsed := entry.lastUsed

def PoolEvent.forget : PoolEvent (Numbered ρ) → PoolEvent ρ
  | .opened made => .opened made.resource
  | .resized idle leased => .resized idle leased
  | .disposed made => .disposed made.resource
  | .closed => .closed
  | .reported event => .reported event

def Pool.forget (pool : Pool (Numbered ρ)) : Pool ρ where
  policy := pool.policy
  connect := pool.connect
  idle := pool.idle.map Pooled.forget
  leased := pool.leased
  created := pool.created
  closed := pool.closed
  shutDown := pool.shutDown
  slots := pool.slots

def Turn.relabel {α β : Type} (f : α → β) (turn : Turn κ (Except Failure α)) :
    Turn κ (Except Failure β) :=
  turn.lift id fun result => .finished (result.map f)

def Execution.Outcome.forget (outcome : Execution.Outcome (ε × Nat) κ (Numbered ρ)) :
    Execution.Outcome ε κ ρ where
  turn := outcome.turn.relabel Numbered.resource
  breaker := outcome.breaker
  environment := outcome.environment.1
  events := outcome.events

def Acquisition.Outcome.forget (outcome : Acquisition.Outcome (ε × Nat) (Numbered ρ) κ) :
    Acquisition.Outcome ε ρ κ where
  turn := outcome.turn.relabel Pooled.forget
  pool := outcome.pool.forget
  breaker := outcome.breaker
  environment := outcome.environment.1
  events := outcome.events.map PoolEvent.forget

/-! ## Creating -/

theorem Supply.forget_create (supply : Supply ε ρ κ) (now : Instant) (world : ε × Nat) (call : κ) :
    supply.create.step now world.1 call =
      ((supply.numbered.create.step now world call).1.relabel Numbered.resource,
        (supply.numbered.create.step now world call).2.1) := by
  simp only [numbered]
  split <;> simp_all [Turn.relabel, Turn.lift, Except.map]

namespace Execution

theorem conclude_relabel {α β : Type} (f : α → β) (p : Pipeline) (now : Instant) (attempt : Nat)
    (result : Except Failure α) :
    conclude (κ := κ) p now attempt (result.map f) =
      ((conclude p now attempt result).1.relabel f, (conclude (κ := κ) p now attempt result).2) := by
  cases result with
  | ok value => rfl
  | error failure =>
      simp only [Except.map, conclude]
      split
      · split <;> rfl
      · split <;> rfl

theorem settled_forget (p : Pipeline) (now : Instant) (attempt : Nat) (permit : Permit)
    (breaker : Breaker) (world : ε × Nat) (result : Except Failure (Numbered ρ)) :
    (settled (κ := κ) p now attempt permit breaker world result).forget =
      settled p now attempt permit breaker world.1 (result.map Numbered.resource) := by
  have recorded : breaker.settle now permit (result.map Numbered.resource) =
      breaker.settle now permit result := by cases result <;> rfl
  simp only [settled, recorded, conclude_relabel]
  rfl

theorem forget_step (p : Pipeline) (supply : Supply ε ρ κ) (now : Instant) (cancelled : Bool)
    (breaker : Breaker) (world : ε × Nat) (execution : Execution κ) :
    (execution.step p supply.numbered.create now cancelled breaker world).forget =
      execution.step p supply.create now cancelled breaker world.1 := by
  cases execution with
  | ready made =>
      simp only [step]
      split
      · rfl
      · split <;> rfl
  | trying attempt permit call =>
      simp only [step]
      split
      · exact settled_forget p now attempt permit breaker _ _
      · rw [supply.forget_create]
        generalize supply.numbered.create.step now world call = outcome
        obtain ⟨turn, world⟩ := outcome
        cases turn with
        | finished result => exact settled_forget p now attempt permit breaker world result
        | moved call => rfl
        | blocked wake => rfl
        | overflowed => rfl
  | resting attempt resumeAt =>
      simp only [step]
      cases RetryPolicy.rest now cancelled resumeAt with
      | finished result => cases result <;> rfl
      | moved wait => rfl
      | blocked wake => rfl
      | overflowed => rfl

end Execution

/-! ## Leasing -/

namespace Pool

variable (pool : Pool (Numbered ρ)) (healthy : ρ → Bool) (now : Instant)

theorem forget_closing (entries : List (Pooled (Numbered ρ))) :
    (closing entries).map PoolEvent.forget = closing (entries.map Pooled.forget) := by
  induction entries with
  | nil => rfl
  | cons entry entries ih =>
      simp only [closing, List.flatMap_cons, List.map_append, List.map_cons] at ih ⊢
      rw [ih]
      rfl

theorem forget_farewell (entries : List (Pooled (Numbered ρ))) :
    (farewell entries).map PoolEvent.forget = farewell (entries.map Pooled.forget) := by
  cases entries with
  | nil => rfl
  | cons entry entries =>
      have closed := forget_closing (entry :: entries)
      simp only [farewell, List.isEmpty_cons, List.map_cons, List.length_cons, List.length_map] at closed ⊢
      rw [if_neg Bool.false_ne_true, if_neg Bool.false_ne_true, List.map_cons, closed]
      rfl

theorem forget_resized : pool.forget.resized = pool.resized.forget := by
  simp only [resized, forget, PoolEvent.forget, List.length_map]

theorem forget_takeIdle :
    let next := pool.takeIdle (healthy ∘ Numbered.resource) now
    pool.forget.takeIdle healthy now =
      (next.1.map Pooled.forget, next.2.1.forget, next.2.2.map PoolEvent.forget) := by
  -- the supply cannot see numbers, so the same entries are passed over
  let unusable (entry : Pooled (Numbered ρ)) : Bool :=
    !isUsable (healthy ∘ Numbered.resource) pool now entry
  have above : pool.forget.idle.takeWhile (fun entry => !isUsable healthy pool.forget now entry) =
      (pool.idle.takeWhile unusable).map Pooled.forget := List.takeWhile_map ..
  have below : pool.forget.idle.drop (pool.idle.takeWhile unusable).length =
      (pool.idle.drop (pool.idle.takeWhile unusable).length).map Pooled.forget := List.map_drop.symm
  simp only [takeIdle, above, List.length_map, below, ← forget_farewell]
  cases pool.idle.drop (pool.idle.takeWhile unusable).length with
  | nil => rfl
  | cons entry rest =>
      have told := forget_resized { pool with
        idle := rest, leased := pool.leased + 1
        closed := pool.closed + (pool.idle.takeWhile unusable).length }
      exact Prod.ext rfl (Prod.ext rfl (congrArg (· :: _) told))

theorem forget_addCreated (made : Numbered ρ) :
    let next := pool.addCreated made now
    pool.forget.addCreated made.resource now =
      (next.1.forget, next.2.1.forget, next.2.2.map PoolEvent.forget) := by
  simp only [addCreated, forget, resized, report, List.map_cons, List.map_nil, List.length_map,
    PoolEvent.forget]
  rfl

theorem forget_takeBack (discard : Bool) (lease : Lease (Numbered ρ)) :
    let next := pool.takeBack (healthy ∘ Numbered.resource) discard now lease
    pool.forget.takeBack healthy discard now lease.forget =
      (next.1.forget, next.2.map PoolEvent.forget) := by
  have keeps : pool.forget.keeps (!discard && healthy lease.forget.resource) now lease.forget =
      pool.keeps (!discard && healthy lease.resource.resource) now lease := by
    simp only [Pool.keeps, Pool.forget, List.length_map]
    rfl
  by_cases decided : pool.keeps (!discard && healthy lease.resource.resource) now lease = true
  · have told := forget_resized { pool with
      idle := { lease with lastUsed := now } :: pool.idle, leased := pool.leased - 1 }
    have made : pool.takeBack (healthy ∘ Numbered.resource) discard now lease = _ := if_pos decided
    have plain : pool.forget.takeBack healthy discard now lease.forget = _ :=
      if_pos (keeps.trans decided)
    rw [made, plain]
    exact Prod.ext rfl (congrArg (fun event => [event]) told)
  · have told := forget_resized { pool with leased := pool.leased - 1, closed := pool.closed + 1 }
    have made : pool.takeBack (healthy ∘ Numbered.resource) discard now lease = _ := if_neg decided
    have plain : pool.forget.takeBack healthy discard now lease.forget = _ :=
      if_neg fun kept => decided (keeps.symm.trans kept)
    rw [made, plain]
    exact Prod.ext rfl (congrArg (· :: _) told)

theorem forget_closeIdle :
    pool.forget.closeIdle = (pool.closeIdle.1.forget, pool.closeIdle.2.map PoolEvent.forget) := by
  simp only [closeIdle, forget, resized, List.map_cons, List.map_nil, List.length_map, PoolEvent.forget,
    List.length_nil, List.map_reverse, List.length_reverse, forget_closing]

end Pool

namespace Acquisition

variable (supply : Supply ε ρ κ) (pool : Pool (Numbered ρ)) (breaker : Breaker) (world : ε × Nat)
  (call : Acquisition κ)

theorem forget_step (now : Instant) (cancelled : Bool) :
    (call.step supply.numbered now cancelled pool breaker world).forget =
      call.step supply now cancelled pool.forget breaker world.1 := by
  cases call with
  | arriving =>
      obtain ⟨policy, connect, idle, leased, created, closed, shutDown, slots⟩ := pool
      cases cancelled with
      | true => rfl
      | false =>
          cases shutDown with
          | true => rfl
          | false =>
              cases slots with
              | none => rfl
              | some slots =>
                  simp only [step, Pool.forget]
                  cases slots.take? <;> rfl
  | queued ticket deadline =>
      obtain ⟨policy, connect, idle, leased, created, closed, shutDown, slots⟩ := pool
      cases slots with
      | none => rfl
      | some slots =>
          simp only [step, Pool.forget]
          split
          · rfl
          · split
            · rfl
            · cases slots.claim? ticket with
              | some slots => rfl
              | none =>
                  by_cases late : deadline ≤ now
                  · simp only [if_pos late]
                    rfl
                  · simp only [if_neg late]
                    rfl
  | seated =>
      have taken := pool.forget_takeIdle (supply.healthy world.1) now
      have taken' : pool.takeIdle (supply.numbered.healthy world) now =
          pool.takeIdle (supply.healthy world.1 ∘ Numbered.resource) now := rfl
      simp only [step, taken, taken']
      generalize pool.takeIdle (supply.healthy world.1 ∘ Numbered.resource) now = outcome
      obtain ⟨lease | lease, next, events⟩ := outcome
      · rfl
      · rfl
  | connecting execution =>
      have same : execution.step pool.forget.connect supply.create now cancelled breaker world.1 = _ :=
        (execution.forget_step pool.connect supply now cancelled breaker world).symm
      simp only [step, same]
      generalize execution.step pool.connect supply.numbered.create now cancelled breaker world =
        outcome
      obtain ⟨turn, breaker, world, events⟩ := outcome
      have quiet : (events.map PoolEvent.reported).map PoolEvent.forget =
          events.map (PoolEvent.reported : Event → PoolEvent ρ) := List.map_map ..
      cases turn with
      | finished result =>
          cases result with
          | ok made =>
              have opened := pool.forget_addCreated now made
              simp only [Outcome.forget, List.map_append, quiet, Execution.Outcome.forget, Turn.relabel,
                Turn.lift, Except.map, opened]
          | error failure =>
              simp only [Outcome.forget, quiet]
              rfl
      | moved execution =>
          simp only [Outcome.forget, quiet]
          rfl
      | blocked wake =>
          simp only [Outcome.forget, quiet]
          rfl
      | overflowed =>
          simp only [Outcome.forget, quiet]
          rfl

theorem forget_abandon :
    let next := call.abandon supply.numbered pool breaker world
    call.abandon supply pool.forget breaker world.1 = (next.1.forget, next.2.1, next.2.2.1) := by
  cases call with
  | arriving => rfl
  | queued ticket deadline => rfl
  | seated => rfl
  | connecting execution => cases execution <;> rfl

end Acquisition

/-! ## Runs -/

def Caller.forget : Caller (Numbered ρ) κ → Caller ρ κ
  | .away => .away
  | .acquiring lent call => .acquiring lent call
  | .holding lent lease => .holding lent lease.forget
  | .leaving => .leaving

/-- A pool and everything that uses it, without numbers and without a memory. -/
structure Usage (ε ρ κ : Type) where
  now : Instant
  pool : Pool ρ
  breaker : Breaker
  environment : ε
  callers : List (Caller ρ κ)
  log : List (PoolEvent ρ)

def Traffic.forget (t : Traffic ε ρ κ) : Usage ε ρ κ where
  now := t.now
  pool := t.pool.forget
  breaker := t.breaker
  environment := t.environment
  callers := t.callers.map Caller.forget
  log := t.log.map PoolEvent.forget

namespace Usage

def setCaller (u : Usage ε ρ κ) (number : Nat) (caller : Caller ρ κ) : Usage ε ρ κ :=
  { u with callers := u.callers.set number caller }

def giveUp (supply : Supply ε ρ κ) (u : Usage ε ρ κ) (number : Nat) (call : Acquisition κ) : Usage ε ρ κ :=
  let (pool, breaker, environment) := call.abandon supply u.pool u.breaker u.environment
  { u with pool, breaker, environment }.setCaller number .away

def advance (supply : Supply ε ρ κ) (u : Usage ε ρ κ) (number : Nat) (cancelled lent : Bool)
    (call : Acquisition κ) : Usage ε ρ κ :=
  let next := call.step supply u.now cancelled u.pool u.breaker u.environment
  let u := { u with
    pool := next.pool, breaker := next.breaker, environment := next.environment
    log := u.log ++ next.events }
  match next.turn with
  | .finished (.ok lease) => u.setCaller number (.holding lent lease)
  | .finished (.error _) => u.setCaller number .away
  | .moved call => u.setCaller number (.acquiring lent call)
  | .blocked _ => u
  | .overflowed => u.giveUp supply number call

def conclude (supply : Supply ε ρ κ) (u : Usage ε ρ κ) (number : Nat) (discard : Bool) (lease : Lease ρ) :
    Usage ε ρ κ :=
  let (pool, events) := u.pool.takeBack (supply.healthy u.environment) discard u.now lease
  { u with pool, log := u.log ++ events }.setCaller number .leaving

def perform (supply : Supply ε ρ κ) (u : Usage ε ρ κ) : Traffic.Move ε → Usage ε ρ κ
  | .join => { u with callers := u.callers ++ [.away] }
  | .arrive number lent =>
    match u.callers[number]? with
    | some .away => u.setCaller number (.acquiring lent .arriving)
    | _ => u
  | .step number cancelled =>
    match u.callers[number]? with
    | some (.acquiring lent call) => u.advance supply number cancelled lent call
    | _ => u
  | .abandon number =>
    match u.callers[number]? with
    | some (.acquiring _ call) => u.giveUp supply number call
    | some (.holding _ lease) => u.conclude supply number false lease
    | _ => u
  | .finish number discard =>
    match u.callers[number]? with
    | some (.holding lent lease) => u.conclude supply number (discard && !lent) lease
    | _ => u
  | .leave number =>
    match u.callers[number]? with
    | some .leaving => { u with pool := u.pool.freeSlot }.setCaller number .away
    | _ => u
  | .drain => { u with pool := u.pool.closeIdle.1, log := u.log ++ u.pool.closeIdle.2 }
  | .refuse => { u with pool := u.pool.refuse }
  | .closeSlots => { u with pool := u.pool.closeSlots }
  | .elapse duration => { u with now := u.now + duration }
  | .disturb change => { u with environment := change u.environment }
  | .share change => { u with breaker := change u.breaker }

def run (supply : Supply ε ρ κ) (u : Usage ε ρ κ) (moves : List (Traffic.Move ε)) : Usage ε ρ κ :=
  moves.foldl (perform supply) u

end Usage

namespace Traffic

variable (supply : Supply ε ρ κ) (t : Traffic ε ρ κ) (number : Nat)

theorem forget_setCaller (caller : Caller (Numbered ρ) κ) :
    (t.setCaller number caller).forget = t.forget.setCaller number caller.forget := by
  simp only [setCaller, forget, Usage.setCaller, List.map_set]

theorem forget_giveUp (call : Acquisition κ) :
    (t.giveUp supply number call).forget = t.forget.giveUp supply number call := by
  have plain : call.abandon supply t.forget.pool t.forget.breaker t.forget.environment = _ :=
    call.forget_abandon supply t.pool t.breaker t.world
  simp only [giveUp, Usage.giveUp, forget_setCaller, plain, become, List.append_nil]
  rfl

theorem forget_advance (cancelled lent : Bool) (call : Acquisition κ) :
    (t.advance supply number cancelled lent call).forget =
      t.forget.advance supply number cancelled lent call := by
  have plain : call.step supply t.forget.now cancelled t.forget.pool t.forget.breaker
      t.forget.environment = _ := (call.forget_step supply t.pool t.breaker t.world t.now cancelled).symm
  have moved : (t.after supply cancelled call).forget =
      let next := (call.step supply.numbered t.now cancelled t.pool t.breaker t.world).forget
      { t.forget with
        pool := next.pool, breaker := next.breaker, environment := next.environment
        log := t.forget.log ++ next.events } := by
    simp only [after, become, forget, Acquisition.Outcome.forget, List.map_append]
  simp only [advance, Usage.advance, plain]
  generalize t.after supply cancelled call = later at moved
  generalize call.step supply.numbered t.now cancelled t.pool t.breaker t.world = next at moved
  obtain ⟨turn, pool, breaker, world, events⟩ := next
  cases turn with
  | finished result =>
      cases result with
      | ok lease =>
          rw [forget_setCaller, moved]
          rfl
      | error failure =>
          rw [forget_setCaller, moved]
          rfl
  | moved call =>
      rw [forget_setCaller, moved]
      rfl
  | blocked wake => exact moved
  | overflowed =>
      rw [forget_giveUp, moved]
      rfl

theorem forget_conclude (discard : Bool) (lease : Lease (Numbered ρ)) :
    (t.conclude supply number discard lease).forget =
      t.forget.conclude supply number discard lease.forget := by
  have plain : t.forget.pool.takeBack (supply.healthy t.forget.environment) discard t.forget.now
      lease.forget = _ := t.pool.forget_takeBack (supply.healthy t.environment) t.now discard lease
  simp only [conclude, Usage.conclude, forget_setCaller, plain, become]
  simp only [forget, List.map_append]
  rfl

theorem forget_perform (move : Move ε) :
    (t.perform supply move).forget = t.forget.perform supply move := by
  have seen (number : Nat) : t.forget.callers[number]? = t.callers[number]?.map Caller.forget :=
    List.getElem?_map ..
  cases move with
  | join => simp only [perform, Usage.perform, forget, List.map_append, List.map_cons, List.map_nil]; rfl
  | arrive number lent =>
      simp only [perform, Usage.perform, seen]
      rcases t.callers[number]? with _ | (_ | _ | _ | _)
      · rfl
      · exact forget_setCaller ..
      · rfl
      · rfl
      · rfl
  | step number cancelled =>
      simp only [perform, Usage.perform, seen]
      rcases t.callers[number]? with _ | (_ | _ | _ | _)
      · rfl
      · rfl
      · exact forget_advance ..
      · rfl
      · rfl
  | abandon number =>
      simp only [perform, Usage.perform, seen]
      rcases t.callers[number]? with _ | (_ | _ | _ | _)
      · rfl
      · rfl
      · exact forget_giveUp ..
      · exact forget_conclude ..
      · rfl
  | finish number discard =>
      simp only [perform, Usage.perform, seen]
      rcases t.callers[number]? with _ | (_ | _ | _ | _)
      · rfl
      · rfl
      · rfl
      · exact forget_conclude ..
      · rfl
  | leave number =>
      simp only [perform, Usage.perform, seen]
      rcases t.callers[number]? with _ | (_ | _ | _ | _)
      · rfl
      · rfl
      · rfl
      · rfl
      · simp only [forget_setCaller, become, List.append_nil]
        rfl
  | drain =>
      simp only [perform, Usage.perform, become, forget, Pool.forget_closeIdle, List.map_append]
  | refuse =>
      simp only [perform, Usage.perform, become, forget, List.append_nil]
      rfl
  | closeSlots =>
      simp only [perform, Usage.perform, become, forget, List.append_nil]
      rfl
  | elapse duration => rfl
  | disturb change => rfl
  | share change => rfl

theorem forget_run (moves : List (Move ε)) :
    (t.run supply moves).forget = t.forget.run supply moves := by
  induction moves generalizing t with
  | nil => rfl
  | cons move moves ih =>
      simp only [run, Usage.run, List.foldl_cons] at ih ⊢
      rw [ih, forget_perform]

end Traffic

end Dispatch
