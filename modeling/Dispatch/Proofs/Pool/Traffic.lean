import Dispatch.Proofs.Execution
import Dispatch.Proofs.Pool.Passage

/-!
# Traffic in a pool

`Traffic` is one pool together with everything that uses it: a supply that may be anything, any number
of callers, each of them away, on its way to a lease, holding one or leaving, a clock, and a breaker
that others may use as well. A `Move` is one thing that can happen next, and a list of moves is a
run: nothing is said about which move follows which, so a run is any interleaving of callers that
acquire, hold, end and drop leases, are cancelled at any moment and drop their calls wherever they
wait, while resources break and recover and time goes by.

So that a resource can be followed through a run, it carries the number under which it was made. Neither
the pool nor the supply can see numbers (`Supply.numbered`). Beside the state that the library has,
`Traffic` keeps what happened: when resources were made and put to rest, and what the pool reported.
-/

set_option autoImplicit false

namespace Dispatch

theorem getElem?_set_cases {α : Type} {entries : List α} {here there : Nat} {next entry : α}
    (found : (entries.set here next)[there]? = some entry) :
    there = here ∧ entry = next ∨ there ≠ here ∧ entries[there]? = some entry := by
  by_cases same : here = there
  · subst same
    have bound : here < entries.length := by simpa using (List.getElem?_eq_some_iff.1 found).1
    rw [List.getElem?_set_self bound] at found
    exact Or.inl ⟨rfl, (Option.some.inj found).symm⟩
  · rw [List.getElem?_set_ne same] at found
    exact Or.inr ⟨Ne.symm same, found⟩

theorem getElem?_concat_cases {α : Type} {entries : List α} {there : Nat} {next entry : α}
    (found : (entries ++ [next])[there]? = some entry) :
    entries[there]? = some entry ∨ there = entries.length ∧ entry = next := by
  rcases Nat.lt_or_ge there entries.length with old | beyond
  · rw [List.getElem?_append_left old] at found
    exact Or.inl found
  · rw [List.getElem?_append_right beyond] at found
    obtain ⟨last, same⟩ := List.getElem?_eq_some_iff.1 found
    rw [List.length_singleton] at last
    exact Or.inr ⟨by omega, by simpa using same.symm⟩

structure Numbered (ρ : Type) where
  number : Nat
  resource : ρ

def Supply.numbered {ε ρ κ : Type} (supply : Supply ε ρ κ) : Supply (ε × Nat) (Numbered ρ) κ where
  create :=
    { start := supply.create.start
      step := fun now world call =>
        match supply.create.step now world.1 call with
        | (.finished (.ok resource), environment) =>
          (.finished (.ok ⟨world.2, resource⟩), environment, world.2 + 1)
        | (.finished (.error failure), environment) =>
          (.finished (.error failure), environment, world.2)
        | (.moved call, environment) => (.moved call, environment, world.2)
        | (.blocked wake, environment) => (.blocked wake, environment, world.2)
        | (.overflowed, environment) => (.overflowed, environment, world.2)
      abandon := fun world call => (supply.create.abandon world.1 call, world.2) }
  healthy world made := supply.healthy world.1 made.resource

def Supply.switched : Supply Bool Unit Unit where
  create :=
    { start := ()
      step := fun _ on _ =>
        (.finished (if on then .ok () else .error (.permanent "unreachable")), on)
      abandon := fun on _ => on }
  healthy on _ := on

/-- A user of a pool. A lease that is `lent` belongs to one piece of work and cannot be
discarded. -/
inductive Caller (ρ κ : Type) where
  | away
  | acquiring (lent : Bool) (call : Acquisition κ)
  | holding (lent : Bool) (lease : Lease ρ)
  | leaving

def Caller.standing {ρ κ : Type} : Caller ρ κ → Standing ρ
  | .away => .outside
  | .acquiring _ call => call.standing
  | .holding _ lease => .holding lease
  | .leaving => .leaving

/-- `rests` says of every number when its resource was last put on the idle stack, or made if it never
was; `births` says when it was made. `unreported` counts the resources that acquires closed without
finding a usable one since the last snapshot. -/
structure Traffic (ε ρ κ : Type) where
  now : Instant
  pool : Pool (Numbered ρ)
  breaker : Breaker
  environment : ε
  callers : List (Caller (Numbered ρ) κ)
  births : List Instant
  rests : List Instant
  log : List (PoolEvent (Numbered ρ))
  unreported : Nat

namespace Traffic

variable {ε ρ κ : Type}

def start (policy : PoolPolicy) (connect : Pipeline) (breaker : Breaker) (environment : ε) :
    Traffic ε ρ κ where
  now := 0
  pool := .new policy connect
  breaker
  environment
  callers := []
  births := []
  rests := []
  log := []
  unreported := 0

/-- What can happen next. A shutdown is `refuse`, `closeSlots` and `drain`, one after the other. -/
inductive Move (ε : Type) where
  | join
  | arrive (caller : Nat) (lent : Bool)
  | step (caller : Nat) (cancelled : Bool)
  | abandon (caller : Nat)
  | finish (caller : Nat) (discard : Bool)
  | leave (caller : Nat)
  | drain
  | refuse
  | closeSlots
  | elapse (duration : Duration)
  | disturb (change : ε → ε)
  | share (change : Breaker → Breaker)

def world (t : Traffic ε ρ κ) : ε × Nat := (t.environment, t.births.length)

def setCaller (t : Traffic ε ρ κ) (number : Nat) (caller : Caller (Numbered ρ) κ) : Traffic ε ρ κ :=
  { t with callers := t.callers.set number caller }

def become (t : Traffic ε ρ κ) (pool : Pool (Numbered ρ)) (events : List (PoolEvent (Numbered ρ))) :
    Traffic ε ρ κ :=
  { t with
    pool
    log := t.log ++ events
    unreported := if (PoolEvent.lastSize events).isSome then 0 else t.unreported }

def giveUp (supply : Supply ε ρ κ) (t : Traffic ε ρ κ) (number : Nat) (call : Acquisition κ) :
    Traffic ε ρ κ :=
  let (pool, breaker, world) := call.abandon supply.numbered t.pool t.breaker t.world
  { t.become pool [] with breaker, environment := world.1 }.setCaller number .away

def missed (supply : Supply ε ρ κ) (t : Traffic ε ρ κ) : Acquisition κ → Nat
  | .seated =>
    match t.pool.takeIdle (supply.numbered.healthy t.world) t.now with
    | (none, _, _) => t.pool.idle.length
    | (some _, _, _) => 0
  | _ => 0

def after (supply : Supply ε ρ κ) (t : Traffic ε ρ κ) (cancelled : Bool) (call : Acquisition κ) :
    Traffic ε ρ κ :=
  let next := call.step supply.numbered t.now cancelled t.pool t.breaker t.world
  let made := List.replicate (next.environment.2 - t.births.length) t.now
  { t.become next.pool next.events with
    breaker := next.breaker
    environment := next.environment.1
    births := t.births ++ made
    rests := t.rests ++ made
    unreported := (t.become next.pool next.events).unreported + t.missed supply call }

def advance (supply : Supply ε ρ κ) (t : Traffic ε ρ κ) (number : Nat) (cancelled lent : Bool)
    (call : Acquisition κ) : Traffic ε ρ κ :=
  let after := t.after supply cancelled call
  match (call.step supply.numbered t.now cancelled t.pool t.breaker t.world).turn with
  | .finished (.ok lease) => after.setCaller number (.holding lent lease)
  | .finished (.error _) => after.setCaller number .away
  | .moved call => after.setCaller number (.acquiring lent call)
  | .blocked _ => after
  | .overflowed => after.giveUp supply number call

def conclude (supply : Supply ε ρ κ) (t : Traffic ε ρ κ) (number : Nat) (discard : Bool)
    (lease : Lease (Numbered ρ)) : Traffic ε ρ κ :=
  let (pool, events) := t.pool.takeBack (supply.numbered.healthy t.world) discard t.now lease
  let rests :=
    if t.pool.idle.length < pool.idle.length then t.rests.set lease.resource.number t.now
    else t.rests
  { t.become pool events with rests }.setCaller number .leaving

def perform (supply : Supply ε ρ κ) (t : Traffic ε ρ κ) : Move ε → Traffic ε ρ κ
  | .join => { t with callers := t.callers ++ [.away] }
  | .arrive number lent =>
    match t.callers[number]? with
    | some .away => t.setCaller number (.acquiring lent .arriving)
    | _ => t
  | .step number cancelled =>
    match t.callers[number]? with
    | some (.acquiring lent call) => t.advance supply number cancelled lent call
    | _ => t
  | .abandon number =>
    match t.callers[number]? with
    | some (.acquiring _ call) => t.giveUp supply number call
    | some (.holding _ lease) => t.conclude supply number false lease
    | _ => t
  | .finish number discard =>
    match t.callers[number]? with
    | some (.holding lent lease) => t.conclude supply number (discard && !lent) lease
    | _ => t
  | .leave number =>
    match t.callers[number]? with
    | some .leaving => (t.become t.pool.freeSlot []).setCaller number .away
    | _ => t
  | .drain => t.become t.pool.closeIdle.1 t.pool.closeIdle.2
  | .refuse => t.become t.pool.refuse []
  | .closeSlots => t.become t.pool.closeSlots []
  | .elapse duration => { t with now := t.now + duration }
  | .disturb change => { t with environment := change t.environment }
  | .share change => { t with breaker := change t.breaker }

def run (supply : Supply ε ρ κ) (t : Traffic ε ρ κ) (moves : List (Move ε)) : Traffic ε ρ κ :=
  moves.foldl (perform supply) t

inductive Change (supply : Supply ε ρ κ) (t : Traffic ε ρ κ) : Traffic ε ρ κ → Prop
  | nothing : Change supply t t
  | join : Change supply t { t with callers := t.callers ++ [.away] }
  | arrive {number : Nat} (lent : Bool) (found : t.callers[number]? = some .away) :
      Change supply t (t.setCaller number (.acquiring lent .arriving))
  | advance {number : Nat} {lent : Bool} {call : Acquisition κ} (cancelled : Bool)
      (found : t.callers[number]? = some (.acquiring lent call)) :
      Change supply t (t.advance supply number cancelled lent call)
  | giveUp {number : Nat} {lent : Bool} {call : Acquisition κ}
      (found : t.callers[number]? = some (.acquiring lent call)) :
      Change supply t (t.giveUp supply number call)
  | conclude {number : Nat} {lent : Bool} {lease : Lease (Numbered ρ)} (discard : Bool)
      (found : t.callers[number]? = some (.holding lent lease)) :
      Change supply t (t.conclude supply number discard lease)
  | leave {number : Nat} (found : t.callers[number]? = some .leaving) :
      Change supply t ((t.become t.pool.freeSlot []).setCaller number .away)
  | drain : Change supply t (t.become t.pool.closeIdle.1 t.pool.closeIdle.2)
  | refuse : Change supply t (t.become t.pool.refuse [])
  | closeSlots : Change supply t (t.become t.pool.closeSlots [])
  | world (duration : Duration) (environment : ε) (breaker : Breaker) :
      Change supply t { t with now := t.now + duration, environment, breaker }

theorem perform_change (supply : Supply ε ρ κ) (t : Traffic ε ρ κ) (move : Move ε) :
    t.Change supply (t.perform supply move) := by
  cases move with
  | join => exact .join
  | arrive number lent =>
      simp only [perform]
      split
      · rename_i found
        exact .arrive lent found
      · exact .nothing
  | step number cancelled =>
      simp only [perform]
      split
      · rename_i found
        exact .advance cancelled found
      · exact .nothing
  | abandon number =>
      simp only [perform]
      split
      · rename_i found
        exact .giveUp found
      · rename_i found
        exact .conclude false found
      · exact .nothing
  | finish number discard =>
      simp only [perform]
      split
      · rename_i found
        exact .conclude _ found
      · exact .nothing
  | leave number =>
      simp only [perform]
      split
      · rename_i found
        exact .leave found
      · exact .nothing
  | drain => exact .drain
  | refuse => exact .refuse
  | closeSlots => exact .closeSlots
  | elapse duration => exact .world duration t.environment t.breaker
  | disturb change => exact .world 0 (change t.environment) t.breaker
  | share change => exact .world 0 t.environment (change t.breaker)

theorem perform_end {supply : Supply ε ρ κ} {t : Traffic ε ρ κ} {caller : Nat} {lent : Bool}
    {lease : Lease (Numbered ρ)} (found : t.callers[caller]? = some (.holding lent lease)) {move : Move ε}
    (ends : move ∈ [Move.finish caller false, .abandon caller]) :
    t.perform supply move = t.conclude supply caller false lease := by
  simp only [List.mem_cons, List.not_mem_nil, or_false] at ends
  rcases ends with rfl | rfl
  · simp [perform, found]
  · simp [perform, found]

theorem advance_cases (supply : Supply ε ρ κ) (t : Traffic ε ρ κ) (number : Nat)
    (cancelled lent : Bool) (call : Acquisition κ) :
    (∃ caller, t.advance supply number cancelled lent call =
        (t.after supply cancelled call).setCaller number caller) ∨
      t.advance supply number cancelled lent call = t.after supply cancelled call ∨
      t.advance supply number cancelled lent call =
        (t.after supply cancelled call).giveUp supply number call := by
  unfold advance
  dsimp only
  split
  · exact Or.inl ⟨_, rfl⟩
  · exact Or.inl ⟨_, rfl⟩
  · exact Or.inl ⟨_, rfl⟩
  · exact Or.inr (Or.inl rfl)
  · exact Or.inr (Or.inr rfl)

theorem advance_log (supply : Supply ε ρ κ) (t : Traffic ε ρ κ) (number : Nat) (cancelled lent : Bool)
    (call : Acquisition κ) :
    (t.advance supply number cancelled lent call).log =
      t.log ++ (call.step supply.numbered t.now cancelled t.pool t.breaker t.world).events := by
  rcases t.advance_cases supply number cancelled lent call with ⟨caller, same⟩ | same | same
  · rw [same]
    rfl
  · rw [same]
    rfl
  · rw [same]
    exact List.append_nil _

section Conclude

variable {supply : Supply ε ρ κ} {t : Traffic ε ρ κ} (number : Nat) {discard : Bool}
  {lease : Lease (Numbered ρ)}

theorem conclude_kept
    (keeps : t.pool.keeps (!discard && supply.numbered.healthy t.world lease.resource) t.now lease) :
    t.conclude supply number discard lease =
      { t with
        pool := { t.pool with
          idle := { lease with lastUsed := t.now } :: t.pool.idle, leased := t.pool.leased - 1 }
        callers := t.callers.set number .leaving
        rests := t.rests.set lease.resource.number t.now
        log := t.log ++ [.resized (t.pool.idle.length + 1) (t.pool.leased - 1)]
        unreported := 0 } := by
  obtain ⟨next, outcome, rfl⟩ := Pool.takeBack_kept keeps
  simp only [conclude, outcome, become, setCaller, List.length_cons, Nat.lt_succ_self, if_true]
  rfl

theorem conclude_closed
    (refused : t.pool.keeps (!discard && supply.numbered.healthy t.world lease.resource) t.now lease =
      false) :
    ∃ event, t.conclude supply number discard lease =
      { t with
        pool := { t.pool with leased := t.pool.leased - 1, closed := t.pool.closed + 1 }
        callers := t.callers.set number .leaving
        log := t.log ++ .resized t.pool.idle.length (t.pool.leased - 1) :: .reported event ::
          Pool.closing [lease]
        unreported := 0 } := by
  obtain ⟨next, event, outcome, rfl⟩ := Pool.takeBack_closed refused
  refine ⟨event, ?_⟩
  simp only [conclude, outcome, become, setCaller, Nat.lt_irrefl, if_false]
  rfl

end Conclude

theorem run_append (supply : Supply ε ρ κ) (t : Traffic ε ρ κ) (first rest : List (Move ε)) :
    t.run supply (first ++ rest) = (t.run supply first).run supply rest :=
  List.foldl_append

theorem run_induction (supply : Supply ε ρ κ) {P : Traffic ε ρ κ → Prop}
    (step : ∀ t next, t.Change supply next → P t → P next) (moves : List (Move ε)) (t : Traffic ε ρ κ)
    (start : P t) : P (t.run supply moves) := by
  induction moves generalizing t with
  | nil => exact start
  | cons move moves ih => exact ih _ (step t _ (t.perform_change supply move) start)

end Traffic

/-! ## Numbers -/

section Numbers

variable {ε ρ κ : Type} (supply : Supply ε ρ κ) (now : Instant) (environment : ε) (made : Nat)

theorem Supply.numbered_step (call : κ) :
    let next := supply.numbered.create.step now (environment, made) call
    (∃ resource, next.1 = .finished (.ok ⟨made, resource⟩) ∧ next.2.2 = made + 1) ∨
      ((∀ resource, next.1 ≠ .finished (.ok resource)) ∧ next.2.2 = made) := by
  intro next
  simp only [next, numbered]
  split
  · exact Or.inl ⟨_, rfl, rfl⟩
  all_goals exact Or.inr ⟨by simp, rfl⟩

variable (cancelled : Bool) (breaker : Breaker)

theorem Execution.step_numbered (p : Pipeline) (execution : Execution κ) :
    let next := execution.step p supply.numbered.create now cancelled breaker (environment, made)
    (∃ resource, next.turn = .finished (.ok ⟨made, resource⟩) ∧ next.environment.2 = made + 1) ∨
      ((∀ resource, next.turn ≠ .finished (.ok resource)) ∧ next.environment.2 = made) := by
  intro next
  -- only an attempt that is not cut short runs the operation
  by_cases trying : ∃ attempt permit call, execution = .trying attempt permit call
  · obtain ⟨attempt, permit, call, rfl⟩ := trying
    by_cases cut : cancelled ∧ p.kind.abortsInFlight
    · obtain ⟨world, valueless⟩ := step_cut p supply.numbered.create now breaker (environment, made)
        attempt permit call cut
      exact Or.inr ⟨valueless, by rw [world]; rfl⟩
    · obtain ⟨world, value⟩ := step_trying p supply.numbered.create now breaker (environment, made)
        attempt permit call cut
      rcases supply.numbered_step now environment made call with ⟨resource, given, count⟩ | ⟨none, count⟩
      · exact Or.inl ⟨resource, (value _).2 given, by rw [world]; exact count⟩
      · exact Or.inr ⟨fun resource given => none resource ((value _).1 given), by
          rw [world]; exact count⟩
  · obtain ⟨world, valueless⟩ := step_between p supply.numbered.create now breaker
      (environment, made) fun attempt permit call same => trying ⟨attempt, permit, call, same⟩
    exact Or.inr ⟨valueless, by rw [world]⟩

theorem Acquisition.step_numbered (pool : Pool (Numbered ρ)) (call : Acquisition κ) :
    let next := call.step supply.numbered now cancelled pool breaker (environment, made)
    (∃ resource, next.turn = .finished (.ok ⟨⟨made, resource⟩, now, now⟩) ∧
        PoolEvent.openings next.events = [⟨made, resource⟩] ∧ next.environment.2 = made + 1) ∨
      (PoolEvent.openings next.events = [] ∧ next.environment.2 = made) := by
  intro next
  cases call with
  | arriving =>
      obtain ⟨-, silent, -, same, -⟩ :=
        step_unseated supply.numbered now cancelled pool breaker (environment, made) .arriving rfl
      exact Or.inr ⟨by simp [next, silent], by simp [next, same]⟩
  | queued ticket deadline =>
      obtain ⟨-, silent, -, same, -⟩ := step_unseated supply.numbered now cancelled pool breaker
        (environment, made) (.queued ticket deadline) rfl
      exact Or.inr ⟨by simp [next, silent], by simp [next, same]⟩
  | seated =>
      apply Or.inr
      simp only [next, step]
      split
      · rename_i taken
        obtain ⟨unusable, rest, -, -, -, -, rfl⟩ := Pool.takeIdle_some taken
        simp [Pool.resized, PoolEvent.opened?]
      · rename_i missed
        obtain ⟨-, -, rfl⟩ := Pool.takeIdle_none missed
        simp
  | connecting execution =>
      simp only [next, step]
      rcases execution.step_numbered supply now environment made cancelled breaker pool.connect with
        ⟨resource, given, count⟩ | ⟨none, count⟩
      · refine Or.inl ⟨resource, ?_⟩
        simp [given, count, Pool.addCreated, Pool.report, PoolEvent.opened?, Pool.resized]
      · apply Or.inr
        split
        · simp [count]
        · simp [count]
        · simp [count]
        · simp [count]
        · rename_i given
          exact absurd given (none _)

end Numbers

/-! ## The hall of a traffic -/

namespace Traffic

variable {ε ρ κ : Type} {supply : Supply ε ρ κ}

def hall (t : Traffic ε ρ κ) : Hall (Numbered ρ) := ⟨t.pool, t.callers.map Caller.standing, t.log⟩

theorem hall_act {t : Traffic ε ρ κ} {number : Nat} {caller : Caller (Numbered ρ) κ}
    (found : t.callers[number]? = some caller) (after : Caller (Numbered ρ) κ)
    {next : Pool (Numbered ρ)} {events : List (PoolEvent (Numbered ρ))}
    (passage : Passage t.now t.pool caller.standing after.standing next events) :
    Hall.Step t.now t.hall ((t.become next events).setCaller number after).hall :=
  Hall.act Caller.standing found after passage

theorem giveUp_step {t : Traffic ε ρ κ} {number : Nat} {lent : Bool} {call : Acquisition κ}
    (found : t.callers[number]? = some (.acquiring lent call)) :
    Hall.Step t.now t.hall (t.giveUp supply number call).hall :=
  hall_act found .away
    (call.abandon_passage supply.numbered t.now t.pool t.breaker t.world)

theorem conclude_step {t : Traffic ε ρ κ} {number : Nat} {lent : Bool} {lease : Lease (Numbered ρ)}
    (found : t.callers[number]? = some (.holding lent lease)) (discard : Bool) :
    Hall.Step t.now t.hall (t.conclude supply number discard lease).hall :=
  hall_act found .leaving (.finish (supply.numbered.healthy t.world) discard lease)

theorem advance_steps {t : Traffic ε ρ κ} {number : Nat} {lent : Bool} {call : Acquisition κ}
    (found : t.callers[number]? = some (.acquiring lent call)) (cancelled : Bool) :
    Relation.ReflTransGen (Hall.Step t.now) t.hall
      (t.advance supply number cancelled lent call).hall := by
  have passage := call.step_passage supply.numbered t.now cancelled t.pool t.breaker t.world
  -- a call that is blocked leaves its caller where it is
  have same : t.callers.set number (.acquiring lent call) = t.callers := by
    obtain ⟨bound, here⟩ := List.getElem?_eq_some_iff.1 found
    rw [← here, List.set_getElem_self]
  have still {next : Pool (Numbered ρ)} {events : List (PoolEvent (Numbered ρ))}
      (passage : Passage t.now t.pool call.standing call.standing next events) :
      Hall.Step t.now t.hall (t.become next events).hall := by
    have step := hall_act found (.acquiring lent call) passage
    simpa only [setCaller, hall, become, same] using step
  unfold advance
  dsimp only at passage ⊢
  split
  · rename_i lease turn
    rw [turn] at passage
    exact .single (hall_act found (.holding lent lease) passage)
  · rename_i failure turn
    rw [turn] at passage
    exact .single (hall_act found .away passage)
  · rename_i after turn
    rw [turn] at passage
    exact .single (hall_act found (.acquiring lent after) passage)
  · rename_i wake turn
    rw [turn] at passage
    exact .single (still passage)
  · rename_i turn
    rw [turn] at passage
    exact .tail (.single (still passage))
      (giveUp_step (t := t.after supply cancelled call) found)

theorem Change.steps {t next : Traffic ε ρ κ} (change : t.Change supply next) :
    Relation.ReflTransGen (Hall.Step t.now) t.hall next.hall := by
  cases change with
  | nothing | world => exact .refl
  | join =>
      have grown : (((t.callers ++ [Caller.away]).map Caller.standing :
          List (Standing (Numbered ρ))) : Multiset (Standing (Numbered ρ))) =
          .outside ::ₘ (t.callers.map Caller.standing : Multiset _) := by
        rw [List.map_append, Multiset.cons_coe, Multiset.coe_eq_coe]
        exact List.perm_append_singleton _ _
      have step : Hall.Step t.now _ _ := .join t.pool (t.callers.map Caller.standing) t.log
      rw [← grown] at step
      exact .single step
  | arrive lent found =>
      have step := hall_act found (.acquiring lent .arriving) (.stay .outside [])
      simp only [hall, become, setCaller, List.map_nil, List.append_nil] at step
      exact .single step
  | advance cancelled found => exact advance_steps found cancelled
  | giveUp found => exact .single (giveUp_step found)
  | conclude discard found => exact .single (conclude_step found discard)
  | leave found => exact .single (hall_act found .away (.free [] rfl rfl))
  | drain => exact .single (.drain t.hall)
  | refuse =>
      have step : Hall.Step t.now _ _ := .refuse t.hall
      apply Relation.ReflTransGen.single
      simpa [hall, become] using step
  | closeSlots =>
      have step : Hall.Step t.now _ _ := .closeSlots t.hall
      apply Relation.ReflTransGen.single
      simpa [hall, become] using step

theorem run_reached (policy : PoolPolicy) (connect : Pipeline) (breaker : Breaker) (environment : ε)
    (moves : List (Move ε)) :
    Hall.Reached policy connect
      ((start policy connect breaker environment : Traffic ε ρ κ).run supply moves).hall :=
  run_induction supply (P := fun t => Hall.Reached policy connect t.hall)
    (fun _ _ change reached => Hall.reached_of_steps reached change.steps) moves _ .start

end Traffic

end Dispatch
