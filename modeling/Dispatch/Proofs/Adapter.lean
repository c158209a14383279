import Dispatch.Consume
import Dispatch.Health
import Dispatch.Proofs.Metrics
import Dispatch.Proofs.Pool.Snapshots
import Dispatch.Publish

set_option autoImplicit false

namespace Dispatch

theorem Backend.name_injective {a b : Backend} (same : a.name = b.name) : a = b := by
  cases a <;> cases b <;> first | rfl | simp [Backend.name] at same

namespace Adapter

variable {ε ρ σ κ : Type}

/-- The names of backends begin with different letters, so adapters of different names have gauges of
their own. -/
theorem key_apart {a b : Adapter ε ρ σ κ} (apart : a.name ≠ b.name) :
    a.key.isSame b.key = false := by
  have letters : a.name.toList ≠ b.name.toList := fun same => apart (String.toList_inj.1 same)
  simp only [key, MetricsKey.isSame, decide_eq_false_iff_not, ← String.toList_inj, String.toList_append]
  cases a.transport.kind <;> cases b.transport.kind <;> simp [Backend.name, letters]

theorem absorb_gauges (a : Adapter ε ρ σ κ) (s : Shared ε) (events : List (PoolEvent ρ)) :
    (a.absorb s events).metrics.gauges =
      (s.metrics.tell a.key (PoolEvent.lastSize events)).gauges := by
  induction events generalizing s with
  | nil => rfl
  | cons event events ih =>
      have tail : (a.absorb s (event :: events)).metrics.gauges = _ := ih (absorbOne a s event)
      rw [tail, PoolEvent.lastSize_cons]
      cases event with
      | resized idle leased => exact s.metrics.tell_tell (some (idle, leased)) _
      | opened | disposed | closed | reported =>
          simp only [PoolEvent.size?, Option.or_none]
          cases PoolEvent.lastSize events <;> rfl

end Adapter

/-- What one caller can do to a pool between two of its standings. -/
structure Shift {ρ : Type} (now : Instant) (before after : Standing ρ) (pool next : Pool ρ)
    (events : List (PoolEvent ρ)) : Prop where
  steps : ∀ others log, Relation.ReflTransGen (Hall.Step now) ⟨pool, before ::ₘ others, log⟩
    ⟨next, after ::ₘ others, log ++ events⟩
  snapshot : PoolEvent.lastSize events = some (next.idle.length, next.leased) ∨
    PoolEvent.lastSize events = none ∧ next.leased = pool.leased ∧ next.idle.length ≤ pool.idle.length
  counted : before.held.card ≤ pool.leased →
    ((PoolEvent.lastSize events).isSome ↔ next.leased ≠ pool.leased)

namespace Shift

variable {ρ : Type} {now : Instant}

theorem stay (standing : Standing ρ) (pool : Pool ρ) : Shift now standing standing pool pool [] where
  steps others log := by rw [List.append_nil]
  snapshot := Or.inr ⟨rfl, rfl, Nat.le_refl _⟩
  counted _ := by simp

theorem ofPassage {before after : Standing ρ} {pool next : Pool ρ} {events : List (PoolEvent ρ)}
    (passage : Passage now pool before after next events) : Shift now before after pool next events where
  steps others log := .single (.pass others log passage)
  snapshot := passage.snapshot
  counted := passage.reports_iff

theorem release (healthy : ρ → Bool) (discard : Bool) (pool : Pool ρ) (lease : Lease ρ) :
    Shift now (.holding lease) .outside pool (pool.release healthy discard now lease).1
      (pool.release healthy discard now lease).2 := by
  have back : Passage now pool (.holding lease) .leaving _ _ := .finish healthy discard lease
  -- between the two acts the caller is leaving, with the slot still in hand
  have free : Passage now (pool.takeBack healthy discard now lease).1 .leaving .outside _ _ :=
    .free [] rfl rfl
  refine ⟨fun others log => ?_, back.snapshot, back.reports_iff⟩
  have freed := Hall.Step.pass others (log ++ (pool.takeBack healthy discard now lease).2) free
  rw [List.map_nil, List.append_nil] at freed
  exact .tail (.single (.pass others log back)) freed

end Shift

namespace Adapter

variable {ε ρ σ κ : Type}

structure Act (now : Instant) (before after : Standing ρ) (a next : Adapter ε ρ σ κ)
    (s later : Shared ε) (events : List (PoolEvent ρ)) : Prop where
  name : next.name = a.name
  transport : next.transport = a.transport
  shift : Shift now before after a.pool next.pool events
  gauges : later.metrics.gauges = (s.metrics.tell a.key (PoolEvent.lastSize events)).gauges

namespace Act

variable {now : Instant} {before after : Standing ρ} {a next : Adapter ε ρ σ κ} {s later : Shared ε}
  {events : List (PoolEvent ρ)}

theorem stay (standing : Standing ρ) (name : next.name = a.name)
    (transport : next.transport = a.transport) (pool : next.pool = a.pool)
    (gauges : later.metrics.gauges = s.metrics.gauges) :
    Act now standing standing a next s later [] where
  name := name
  transport := transport
  shift := by
    rw [pool]
    exact .stay standing a.pool
  gauges := gauges

theorem then_stay (act : Act now before after a next s later events) {last : Adapter ε ρ σ κ}
    {final : Shared ε} (name : last.name = next.name) (transport : last.transport = next.transport)
    (pool : last.pool = next.pool) (gauges : final.metrics.gauges = later.metrics.gauges) :
    Act now before after a last s final events where
  name := name.trans act.name
  transport := transport.trans act.transport
  shift := pool ▸ act.shift
  gauges := gauges.trans act.gauges

theorem after_stay (act : Act now before after a next s later events) {first : Adapter ε ρ σ κ}
    {initial : Shared ε} (name : a.name = first.name) (transport : a.transport = first.transport)
    (pool : a.pool = first.pool) (gauges : s.metrics.gauges = initial.metrics.gauges) :
    Act now before after first next initial later events where
  name := act.name.trans name
  transport := act.transport.trans transport
  shift := pool ▸ act.shift
  gauges := by
    have key : a.key = first.key := by rw [key, key, name, transport]
    rw [act.gauges, key]
    exact MetricsRegistry.tell_congr gauges _

end Act

/-! ## Leases -/

theorem stepLease_act (a : Adapter ε ρ σ κ) (s : Shared ε) (now : Instant) (cancelled : Bool)
    (leasing : Leasing ρ κ) :
    let next := a.stepLease s now cancelled leasing
    ∃ events, Act now leasing.standing (Acquisition.standingAfter next.1 leasing) a next.2.1 s next.2.2
      events := by
  have passage := leasing.step_passage a.supply now cancelled a.pool a.connectBreaker s.surroundings
  exact ⟨_, rfl, rfl, .ofPassage passage, a.absorb_gauges _ _⟩

theorem abandonLease_act (a : Adapter ε ρ σ κ) (s : Shared ε) (now : Instant)
    (leasing : Leasing ρ κ) :
    Act now leasing.standing .outside a (a.abandonLease s leasing).1 s (a.abandonLease s leasing).2
      [] := by
  have passage := leasing.abandon_passage a.supply now a.pool a.connectBreaker s.surroundings
  exact ⟨rfl, rfl, .ofPassage passage, rfl⟩

theorem release_act (a : Adapter ε ρ σ κ) (s : Shared ε) (now : Instant) (lease : Lease ρ) :
    ∃ events, Act now (.holding lease) .outside a (a.release s now lease).1 s
      (a.release s now lease).2 events :=
  ⟨_, rfl, rfl, .release (a.isUsable s) false a.pool lease, a.absorb_gauges _ _⟩

theorem supply_step (a : Adapter ε ρ σ κ) (now : Instant) (s : Surroundings ε) (call : TransportCall ρ κ) :
    (a.supply.create.step now s call).1 = (a.transport.connect.step now s call).1.lift id
        (fun result => .finished (result.mapError TransportError.failure)) ∧
      (a.supply.create.step now s call).2.outside = (a.transport.connect.step now s call).2.outside := by
  unfold supply
  generalize a.transport.connect.step = stepping
  dsimp only
  rcases stepping now s call with ⟨turn, later⟩
  cases turn with
  | finished result => cases result <;> exact ⟨rfl, rfl⟩
  | moved | blocked | overflowed => exact ⟨rfl, rfl⟩

/-! ## Draining -/

structure Drain (now : Instant) (a next : Adapter ε ρ σ κ) (s later : Shared ε) : Prop where
  name : next.name = a.name
  transport : next.transport = a.transport
  steps : ∀ standings log, ∃ log', Relation.ReflTransGen (Hall.Step now) ⟨a.pool, standings, log⟩
    ⟨next.pool, standings, log'⟩
  gauges : later.metrics.gauges =
    (s.metrics.tell a.key (some (next.pool.idle.length, next.pool.leased))).gauges

theorem closeIdle_drain (a : Adapter ε ρ σ κ) (s : Shared ε) (now : Instant) :
    Drain now a (a.closeIdle s).1 s (a.closeIdle s).2 where
  name := rfl
  transport := rfl
  steps standings log := ⟨_, .single (.drain ⟨a.pool, standings, log⟩)⟩
  gauges := by
    simp only [closeIdle, absorb_gauges, Pool.closeIdle, Pool.resized, PoolEvent.lastSize_cons,
      Pool.lastSize_closing, PoolEvent.size?, Option.none_or]

theorem shutdown_drain (a : Adapter ε ρ σ κ) (s : Shared ε) (now : Instant) :
    Drain now a (a.shutdown s).1 s (a.shutdown s).2 where
  name := rfl
  transport := rfl
  steps standings log :=
    ⟨_, .tail (.tail (.single (.refuse ⟨a.pool, standings, log⟩)) (.closeSlots _)) (.drain _)⟩
  gauges := by
    simp only [shutdown, absorb_gauges, Pool.shutdown, Pool.closeIdle, Pool.resized, Pool.report,
      PoolEvent.lastSize_append, PoolEvent.lastSize_cons, PoolEvent.lastSize_nil,
      Pool.lastSize_closing, PoolEvent.size?, Option.none_or]

end Adapter

def Turn.standing {ρ κ α : Type} (standing : κ → Standing ρ) (before : κ) : Turn κ α → Standing ρ
  | .finished _ => .outside
  | .moved after => standing after
  | .blocked _ | .overflowed => standing before

theorem Turn.standing_outside {ρ κ α : Type} (turn : Turn κ α) (before : κ) :
    turn.standing (fun _ => (.outside : Standing ρ)) before = .outside := by
  cases turn <;> rfl

theorem Turn.standing_lift {ρ κ μ α β : Type} {standing : κ → Standing ρ} {standing' : μ → Standing ρ}
    {wrap : κ → μ} {finish : α → Turn μ β} {before : κ} (same : ∀ call, standing' (wrap call) = standing call)
    (ended : ∀ result, (finish result).standing standing' (wrap before) = .outside) (turn : Turn κ α) :
    (turn.lift wrap finish).standing standing' (wrap before) = turn.standing standing before := by
  cases turn with
  | finished result => exact ended result
  | moved after => exact same after
  | blocked wake => exact same before
  | overflowed => exact same before

section Lifts

variable {κ μ α β : Type} {wrap : κ → μ} {finish : α → β} {turn : Turn κ α}

theorem Turn.of_lift_moved {next : μ} (lifted : turn.lift wrap (fun result => .finished (finish result)) = .moved next) :
    ∃ after, turn = .moved after ∧ next = wrap after := by
  cases turn with
  | moved after => exact ⟨after, rfl, (Turn.moved.inj lifted).symm⟩
  | finished | blocked | overflowed => cases lifted

theorem Turn.of_lift_finished {answer : β}
    (lifted : turn.lift wrap (fun result => .finished (finish result)) = .finished answer) :
    ∃ result, turn = .finished result ∧ answer = finish result := by
  cases turn with
  | finished result => exact ⟨result, rfl, (Turn.finished.inj lifted).symm⟩
  | moved | blocked | overflowed => cases lifted

end Lifts

/-! ## Publish calls -/

namespace Publishing

variable {ε ρ σ κ : Type}

def standing : Publishing ρ κ → Standing ρ
  | .fresh | .limiting _ => .outside
  | .leasing _ acquisition => acquisition.standing
  | .preparing _ lease | .sending _ lease _ _ => .holding lease

theorem conclude_frame (a : Adapter ε ρ σ κ) (s : Shared ε) (destination : Destination) (span : Nat)
    (result : Except BrokerError Receipt) :
    (conclude a s destination span result).turn = .finished result ∧
      (conclude a s destination span result).adapter = a ∧
      (conclude a s destination span result).shared.metrics.gauges = s.metrics.gauges := by
  cases result <;> exact ⟨rfl, rfl, rfl⟩

@[simp] theorem conclude_turn (a : Adapter ε ρ σ κ) (s : Shared ε) (destination : Destination) (span : Nat)
    (result : Except BrokerError Receipt) : (conclude a s destination span result).turn = .finished result :=
  (conclude_frame a s destination span result).1

@[simp] theorem conclusion_turn (a : Adapter ε ρ σ κ) (s : Shared ε) (now : Instant) (destination : Destination)
    (span : Nat) (lease : Lease ρ) (result : Except BrokerError Receipt) :
    (conclusion a s now destination span lease result).turn = .finished result :=
  conclude_turn (a.release s now lease).1 (a.release s now lease).2 destination span result

theorem conclusion_act (a : Adapter ε ρ σ κ) (s : Shared ε) (now : Instant)
    (destination : Destination) (span : Nat) (lease : Lease ρ) (result : Except BrokerError Receipt)
    (before : Publishing ρ κ) :
    let next := conclusion a s now destination span lease result
    ∃ events, Adapter.Act now (.holding lease) (next.turn.standing standing before) a next.adapter s
      next.shared events := by
  obtain ⟨events, act⟩ := a.release_act s now lease
  obtain ⟨turn, adapter, gauges⟩ :=
    conclude_frame (a.release s now lease).1 (a.release s now lease).2 destination span result
  refine ⟨events, ?_⟩
  simp only [conclusion, turn]
  exact act.then_stay (congrArg Adapter.name adapter) (congrArg Adapter.transport adapter)
    (congrArg Adapter.pool adapter) gauges

theorem step_act (a : Adapter ε ρ σ κ) (s : Shared ε) (message : Outgoing) (now : Instant)
    (cancelled : Bool) (progress : Publishing ρ κ) :
    let next := progress.step a s message now cancelled
    ∃ events, Adapter.Act now progress.standing (next.turn.standing standing progress) a next.adapter s
      next.shared events := by
  cases progress with
  | fresh =>
      refine ⟨[], ?_⟩
      simp only [step]
      cases a.bucket.isSome with
      | true => exact .stay .outside rfl rfl rfl rfl
      | false => exact .stay .outside rfl rfl rfl rfl
  | limiting span =>
      refine ⟨[], ?_⟩
      simp only [step]
      split
      · exact .stay .outside rfl rfl rfl rfl
      · split
        · exact .stay .outside rfl rfl rfl rfl
        · exact .stay .outside rfl rfl rfl rfl
        · exact .stay .outside rfl rfl rfl rfl
  | leasing span acquisition =>
      obtain ⟨events, act⟩ := a.stepLease_act s now cancelled acquisition
      refine ⟨events, ?_⟩
      simp only [step]
      generalize a.stepLease s now cancelled acquisition = outcome at act
      obtain ⟨turn, next, later⟩ := outcome
      cases turn with
      | finished result =>
          cases result with
          | ok lease => exact act
          | error failure => exact act.then_stay rfl rfl rfl rfl
      | moved acquisition => exact act
      | blocked wake => exact act
      | overflowed => exact act
  | preparing span lease =>
      simp only [step]
      split
      · exact conclusion_act a s now message.destination span lease _ _
      · exact ⟨[], .stay (.holding lease) rfl rfl rfl rfl⟩
  | sending span lease envelope execution =>
      have sent (next : Adapter ε ρ σ κ) (later : Shared ε) (result : Except BrokerError Receipt)
          (name : next.name = a.name) (transport : next.transport = a.transport)
          (pool : next.pool = a.pool) (gauges : later.metrics.gauges = s.metrics.gauges) :=
        (conclusion_act next later now message.destination span lease result
          (.sending span lease envelope execution)).imp
            fun _ act => act.after_stay name transport pool gauges
      simp only [step]
      split
      · exact sent _ _ _ rfl rfl rfl rfl
      · exact sent _ _ _ rfl rfl rfl rfl
      · exact ⟨[], .stay (.holding lease) rfl rfl rfl rfl⟩
      · exact ⟨[], .stay (.holding lease) rfl rfl rfl rfl⟩
      · exact ⟨[], .stay (.holding lease) rfl rfl rfl rfl⟩

theorem abandon_act (a : Adapter ε ρ σ κ) (s : Shared ε) (now : Instant) (progress : Publishing ρ κ) :
    ∃ events, Adapter.Act now progress.standing .outside a (progress.abandon a s now).1 s
      (progress.abandon a s now).2 events := by
  cases progress with
  | fresh => exact ⟨[], .stay .outside rfl rfl rfl rfl⟩
  | limiting span => exact ⟨[], .stay .outside rfl rfl rfl rfl⟩
  | leasing span acquisition =>
      exact ⟨[], (a.abandonLease_act s now acquisition).then_stay rfl rfl rfl rfl⟩
  | preparing span lease =>
      obtain ⟨events, act⟩ := a.release_act s now lease
      exact ⟨events, act.then_stay rfl rfl rfl rfl⟩
  | sending span lease envelope execution =>
      obtain ⟨events, act⟩ := Adapter.release_act
        { a with publishBreaker := (execution.abandon (sendOperation a lease envelope) a.publishBreaker
          s.surroundings).1 }
        { s with surroundings := (execution.abandon (sendOperation a lease envelope) a.publishBreaker
          s.surroundings).2 } now lease
      have whole : Adapter.Act now (.holding lease) .outside a _ s _ events :=
        act.after_stay rfl rfl rfl rfl
      exact ⟨events, whole.then_stay rfl rfl rfl rfl⟩

theorem conclude_options (a : Adapter ε ρ σ κ) (s : Shared ε) (destination : Destination) (span : Nat)
    (result : Except BrokerError Receipt) : (conclude a s destination span result).adapter.options = a.options := by
  rw [(conclude_frame a s destination span result).2.1]

theorem step_options (a : Adapter ε ρ σ κ) (s : Shared ε) (message : Outgoing) (now : Instant) (cancelled : Bool)
    (progress : Publishing ρ κ) : (progress.step a s message now cancelled).adapter.options = a.options := by
  cases progress with
  | fresh => rfl
  | limiting span =>
      simp only [step]
      split
      · rfl
      · split
        · exact conclude_options a s message.destination span _
        · rfl
        · rfl
  | leasing span acquisition =>
      simp only [step]
      split
      · rfl
      · exact conclude_options _ _ message.destination span _
      · rfl
      · rfl
      · rfl
  | preparing span lease =>
      simp only [step]
      split
      · exact conclude_options _ _ message.destination span _
      · rfl
  | sending span lease envelope execution =>
      simp only [step]
      split
      · exact conclude_options _ _ message.destination span _
      · exact conclude_options _ _ message.destination span _
      · rfl
      · rfl
      · rfl

theorem abandon_options (a : Adapter ε ρ σ κ) (s : Shared ε) (now : Instant) (progress : Publishing ρ κ) :
    (progress.abandon a s now).1.options = a.options := by
  cases progress <;> rfl

inductive Onward (a : Adapter ε ρ σ κ) (message : Outgoing) (before : Publishing ρ κ) : Publishing ρ κ → Prop
  | limiting (span : Nat) : Onward a message before (.limiting span)
  | leasing (span : Nat) (acquisition : Adapter.Leasing ρ κ) : Onward a message before (.leasing span acquisition)
  | preparing (span : Nat) (lease : Lease ρ) : Onward a message before (.preparing span lease)
  | prepared {span : Nat} {lease : Lease ρ} {original : Envelope} (content : message.content = .ok original) :
      Onward a message before (.sending span lease (prepare a original).1 (.ready 0))
  | sending {span : Nat} {lease : Lease ρ} {envelope : Envelope} {execution : Execution (TransportCall ρ κ)}
      (sent : before = .sending span lease envelope execution) (later : Execution (TransportCall ρ κ)) :
      Onward a message before (.sending span lease envelope later)

theorem step_onward {a : Adapter ε ρ σ κ} {s : Shared ε} {message : Outgoing} {now : Instant} {cancelled : Bool}
    {progress after : Publishing ρ κ} (turn : (progress.step a s message now cancelled).turn = .moved after) :
    progress.Onward a message after := by
  cases progress with
  | fresh =>
      simp only [step] at turn
      cases turn
      split
      · exact .limiting _
      · exact .leasing _ _
  | limiting span =>
      simp only [step] at turn
      split at turn
      · cases turn
        exact .leasing _ _
      · split at turn
        · rw [conclude_turn] at turn
          cases turn
        · cases turn
        · cases turn
          exact .leasing _ _
  | leasing span acquisition =>
      simp only [step] at turn
      split at turn
      · cases turn
        exact .preparing _ _
      · rw [conclude_turn] at turn
        cases turn
      · cases turn
        exact .leasing _ _
      · cases turn
      · cases turn
  | preparing span lease =>
      simp only [step] at turn
      split at turn
      · rw [conclusion_turn] at turn
        cases turn
      · rename_i original content
        cases turn
        exact .prepared content
  | sending span lease envelope execution =>
      simp only [step] at turn
      split at turn
      · rw [conclusion_turn] at turn
        cases turn
      · rw [conclusion_turn] at turn
        cases turn
      · cases turn
        exact .sending rfl _
      · cases turn
      · cases turn

end Publishing

/-! ## Health checks -/

namespace Checking

variable {ε ρ σ κ : Type}

def standing : Checking ρ κ → Standing ρ
  | .leasing acquisition => acquisition.standing
  | .pinging lease => .holding lease

theorem step_act (a : Adapter ε ρ σ κ) (s : Shared ε) (now : Instant) (cancelled : Bool)
    (progress : Checking ρ κ) :
    let next := progress.step a s now cancelled
    ∃ events, Adapter.Act now progress.standing (next.turn.standing standing progress) a next.adapter s
      next.shared events := by
  cases progress with
  | leasing acquisition =>
      obtain ⟨events, act⟩ := a.stepLease_act s now cancelled acquisition
      refine ⟨events, ?_⟩
      simp only [step]
      generalize a.stepLease s now cancelled acquisition = outcome at act
      obtain ⟨turn, next, later⟩ := outcome
      cases turn with
      | finished result => cases result <;> exact act
      | moved acquisition => exact act
      | blocked wake => exact act
      | overflowed => exact act
  | pinging lease =>
      obtain ⟨events, act⟩ := a.release_act s now lease
      exact ⟨events, act⟩

theorem abandon_act (a : Adapter ε ρ σ κ) (s : Shared ε) (now : Instant) (progress : Checking ρ κ) :
    ∃ events, Adapter.Act now progress.standing .outside a (progress.abandon a s now).1 s
      (progress.abandon a s now).2 events := by
  cases progress with
  | leasing acquisition => exact ⟨[], a.abandonLease_act s now acquisition⟩
  | pinging lease => exact a.release_act s now lease

theorem step_options (a : Adapter ε ρ σ κ) (s : Shared ε) (now : Instant) (cancelled : Bool)
    (progress : Checking ρ κ) : (progress.step a s now cancelled).adapter.options = a.options := by
  cases progress <;> rfl

theorem abandon_options (a : Adapter ε ρ σ κ) (s : Shared ε) (now : Instant) (progress : Checking ρ κ) :
    (progress.abandon a s now).1.options = a.options := by
  cases progress <;> rfl

end Checking

/-! ## Consumers -/

namespace Consuming

variable {ε ρ σ κ η : Type}

theorem step_act (a : Adapter ε ρ σ κ) (s : Shared ε) (source : String) (handler : Handler ε η)
    (now : Instant) (cancelled : Bool) (progress : Consuming ρ σ κ η) :
    let next := progress.step a s source handler now cancelled
    Adapter.Act now .outside (next.turn.standing (fun _ => .outside) progress) a next.adapter s
      next.shared [] := by
  simp only [Turn.standing_outside]
  cases progress with
  | opening execution =>
      simp only [step]
      split <;> exact .stay .outside rfl rfl rfl rfl
  | receiving subscription summary call =>
      simp only [step]
      split
      · exact .stay .outside rfl rfl rfl rfl
      · split <;> exact .stay .outside rfl rfl rfl rfl
  | handling subscription summary delivery call =>
      simp only [step]
      split <;> exact .stay .outside rfl rfl rfl rfl
  | settling subscription summary accepted call =>
      simp only [step]
      split <;> exact .stay .outside rfl rfl rfl rfl

theorem abandon_act (a : Adapter ε ρ σ κ) (s : Shared ε) (source : String) (handler : Handler ε η)
    (now : Instant) (progress : Consuming ρ σ κ η) :
    Adapter.Act now .outside .outside a (progress.abandon a s source handler).1 s
      (progress.abandon a s source handler).2 [] := by
  cases progress <;> exact .stay .outside rfl rfl rfl rfl

theorem step_options (a : Adapter ε ρ σ κ) (s : Shared ε) (source : String) (handler : Handler ε η)
    (now : Instant) (cancelled : Bool) (progress : Consuming ρ σ κ η) :
    (progress.step a s source handler now cancelled).adapter.options = a.options := by
  cases progress with
  | opening execution =>
      simp only [step]
      split <;> rfl
  | receiving subscription summary call =>
      simp only [step]
      split
      · rfl
      · split <;> rfl
  | handling subscription summary delivery call =>
      simp only [step]
      split <;> rfl
  | settling subscription summary accepted call =>
      simp only [step]
      split <;> rfl

theorem abandon_options (a : Adapter ε ρ σ κ) (s : Shared ε) (source : String) (handler : Handler ε η)
    (progress : Consuming ρ σ κ η) : (progress.abandon a s source handler).1.options = a.options := by
  cases progress <;> rfl

end Consuming

end Dispatch
