import Dispatch.Proofs.Gauges
import Mathlib.Algebra.BigOperators.Group.List.Basic

/-!
# What one move does

A call works at one adapter at a time, and what it does there is its `Part`. A `Part.Deed` is all that a
move makes of a part, of its adapter and of what adapters share. `Exchange.Change` says for every move what
becomes of the registry and of the errands, so that a property of all runs has to be proved for deeds and
for what is done to a registry between calls (`Registry.Tended`). `Exchange.total` sums up what calls have
at adapters: only the call that acts changes its share.
-/

set_option autoImplicit false

namespace Dispatch

inductive Part (ε ρ σ κ η : Type) where
  | publishing (message : Outgoing) (progress : Publishing ρ κ)
  | checking (progress : Checking ρ κ)
  | consuming (source : String) (handler : Handler ε η) (progress : Consuming ρ σ κ η)

inductive Prompt where
  | step (cancelled : Bool)
  | giveUp

namespace Part

variable {ε ρ σ κ η : Type}

structure Outcome (ε ρ σ κ η : Type) where
  turn : Turn (Part ε ρ σ κ η) Reply
  adapter : Adapter ε ρ σ κ
  shared : Shared ε

def step (a : Adapter ε ρ σ κ) (s : Shared ε) (now : Instant) (cancelled : Bool) :
    Part ε ρ σ κ η → Outcome ε ρ σ κ η
  | .publishing message progress =>
    let next := progress.step a s message now cancelled
    ⟨next.turn.lift (.publishing message) fun result => .finished (.published result), next.adapter,
      next.shared⟩
  | .checking progress =>
    let next := progress.step a s now cancelled
    ⟨next.turn.lift .checking fun result => .finished (.checked result), next.adapter, next.shared⟩
  | .consuming source handler progress =>
    let next := progress.step a s source handler now cancelled
    ⟨next.turn.lift (.consuming source handler) fun result => .finished (.consumed result), next.adapter,
      next.shared⟩

def abandon (a : Adapter ε ρ σ κ) (s : Shared ε) (now : Instant) :
    Part ε ρ σ κ η → Adapter ε ρ σ κ × Shared ε
  | .publishing _ progress => progress.abandon a s now
  | .checking progress => progress.abandon a s now
  | .consuming source handler progress => progress.abandon a s source handler

def isFresh : Part ε ρ σ κ η → Bool
  | .publishing _ .fresh | .checking (.leasing .arriving) | .consuming _ _ (.opening (.ready 0)) => true
  | _ => false

theorem fresh_cases {part : Part ε ρ σ κ η} (fresh : part.isFresh) :
    (∃ message, part = .publishing message .fresh) ∨ part = .checking .start ∨
      ∃ source handler, part = .consuming source handler .start := by
  cases part with
  | publishing message progress =>
      cases progress with
      | fresh => exact .inl ⟨message, rfl⟩
      | limiting | leasing | preparing | sending => cases fresh
  | checking progress =>
      cases progress with
      | pinging => cases fresh
      | leasing acquisition =>
          cases acquisition with
          | arriving => exact .inr (.inl rfl)
          | queued | seated | connecting => cases fresh
  | consuming source handler progress =>
      cases progress with
      | receiving | handling | settling => cases fresh
      | opening execution =>
          cases execution with
          | trying | resting => cases fresh
          | ready made =>
              cases made with
              | zero => exact .inr (.inr ⟨source, handler, rfl⟩)
              | succ made => cases fresh

inductive Fate (ε ρ σ κ η : Type) where
  | goesOn (part : Part ε ρ σ κ η)
  | settled (reply : Reply)

/-- What a move makes of a part, its adapter and what adapters share. A part whose wait leaves the range of
durations is given up in the same move. -/
inductive Deed (now : Instant) (a : Adapter ε ρ σ κ) (s : Shared ε) (part : Part ε ρ σ κ η) :
    Prompt → Fate ε ρ σ κ η → Adapter ε ρ σ κ → Shared ε → Prop
  | moved {cancelled : Bool} {next : Part ε ρ σ κ η}
      (turn : (part.step a s now cancelled).turn = .moved next) :
      Deed now a s part (.step cancelled) (.goesOn next) (part.step a s now cancelled).adapter
        (part.step a s now cancelled).shared
  | waited {cancelled : Bool} {wake : Option Instant}
      (turn : (part.step a s now cancelled).turn = .blocked wake) :
      Deed now a s part (.step cancelled) (.goesOn part) (part.step a s now cancelled).adapter
        (part.step a s now cancelled).shared
  | finished {cancelled : Bool} {reply : Reply}
      (turn : (part.step a s now cancelled).turn = .finished reply) :
      Deed now a s part (.step cancelled) (.settled reply) (part.step a s now cancelled).adapter
        (part.step a s now cancelled).shared
  | broke {cancelled : Bool} {next : Adapter ε ρ σ κ} {later : Shared ε}
      (turn : (part.step a s now cancelled).turn = .overflowed)
      (left : part.abandon (part.step a s now cancelled).adapter (part.step a s now cancelled).shared now =
        (next, later)) :
      Deed now a s part (.step cancelled) (.settled .abandoned) next later
  | gaveUp {next : Adapter ε ρ σ κ} {later : Shared ε} (left : part.abandon a s now = (next, later)) :
      Deed now a s part .giveUp (.settled .abandoned) next later

theorem step_wiring (a : Adapter ε ρ σ κ) (s : Shared ε) (now : Instant) (cancelled : Bool)
    (part : Part ε ρ σ κ η) :
    (part.step a s now cancelled).adapter.name = a.name ∧
      (part.step a s now cancelled).adapter.transport = a.transport := by
  cases part with
  | publishing message progress =>
      obtain ⟨events, act⟩ := progress.step_act a s message now cancelled
      exact ⟨act.name, act.transport⟩
  | checking progress =>
      obtain ⟨events, act⟩ := progress.step_act a s now cancelled
      exact ⟨act.name, act.transport⟩
  | consuming source handler progress =>
      have act := progress.step_act a s source handler now cancelled
      exact ⟨act.name, act.transport⟩

theorem abandon_wiring (a : Adapter ε ρ σ κ) (s : Shared ε) (now : Instant) (part : Part ε ρ σ κ η) :
    (part.abandon a s now).1.name = a.name ∧ (part.abandon a s now).1.transport = a.transport := by
  cases part with
  | publishing message progress =>
      obtain ⟨events, act⟩ := progress.abandon_act a s now
      exact ⟨act.name, act.transport⟩
  | checking progress =>
      obtain ⟨events, act⟩ := progress.abandon_act a s now
      exact ⟨act.name, act.transport⟩
  | consuming source handler progress =>
      have act := progress.abandon_act a s source handler now
      exact ⟨act.name, act.transport⟩

variable {now : Instant} {a next : Adapter ε ρ σ κ} {s later : Shared ε} {part : Part ε ρ σ κ η}
  {prompt : Prompt} {fate : Fate ε ρ σ κ η}

theorem Deed.wiring (deed : part.Deed now a s prompt fate next later) :
    next.name = a.name ∧ next.transport = a.transport := by
  have given (a next : Adapter ε ρ σ κ) (s later : Shared ε) (left : part.abandon a s now = (next, later)) :
      next.name = a.name ∧ next.transport = a.transport := by
    have same := part.abandon_wiring a s now
    rwa [left] at same
  cases deed with
  | moved | waited | finished => exact part.step_wiring a s now _
  | broke turn left =>
      have stepped := part.step_wiring a s now
      have gone := given _ _ _ _ left
      exact ⟨gone.1.trans (stepped _).1, gone.2.trans (stepped _).2⟩
  | gaveUp left => exact given _ _ _ _ left

theorem step_options (a : Adapter ε ρ σ κ) (s : Shared ε) (now : Instant) (cancelled : Bool)
    (part : Part ε ρ σ κ η) : (part.step a s now cancelled).adapter.options = a.options := by
  cases part with
  | publishing message progress => exact progress.step_options a s message now cancelled
  | checking progress => exact progress.step_options a s now cancelled
  | consuming source handler progress => exact progress.step_options a s source handler now cancelled

theorem abandon_options (a : Adapter ε ρ σ κ) (s : Shared ε) (now : Instant) (part : Part ε ρ σ κ η) :
    (part.abandon a s now).1.options = a.options := by
  cases part with
  | publishing message progress => exact progress.abandon_options a s now
  | checking progress => exact progress.abandon_options a s now
  | consuming source handler progress => exact progress.abandon_options a s source handler

theorem Deed.options (deed : part.Deed now a s prompt fate next later) : next.options = a.options := by
  have given {a next : Adapter ε ρ σ κ} {s later : Shared ε} (left : part.abandon a s now = (next, later)) :
      next.options = a.options := by
    rw [← part.abandon_options a s now, left]
  cases deed with
  | moved | waited | finished => exact part.step_options a s now _
  | broke turn left => exact (given left).trans (part.step_options a s now _)
  | gaveUp left => exact given left

def Fate.of (part : Part ε ρ σ κ η) : Turn (Part ε ρ σ κ η) Reply → Fate ε ρ σ κ η
  | .moved next => .goesOn next
  | .blocked _ => .goesOn part
  | .finished reply => .settled reply
  | .overflowed => .settled .abandoned

theorem Deed.fate_of {cancelled : Bool} (deed : part.Deed now a s (.step cancelled) fate next later) :
    fate = .of part (part.step a s now cancelled).turn := by
  cases deed with
  | moved turn | waited turn | finished turn | broke turn => rw [turn]; rfl

theorem Deed.whole {cancelled : Bool} (deed : part.Deed now a s (.step cancelled) fate next later)
    (whole : (part.step a s now cancelled).turn ≠ .overflowed) :
    next = (part.step a s now cancelled).adapter ∧ later = (part.step a s now cancelled).shared := by
  cases deed with
  | moved | waited | finished => exact ⟨rfl, rfl⟩
  | broke turn => exact absurd turn whole

theorem Deed.published {result : Except BrokerError Receipt}
    (deed : part.Deed now a s prompt (.settled (.published result)) next later) :
    ∃ cancelled message progress, prompt = .step cancelled ∧ part = .publishing message progress ∧
      (progress.step a s message now cancelled).turn = .finished result ∧
      later = (progress.step a s message now cancelled).shared := by
  cases deed with
  | @finished cancelled _ turn =>
      cases part with
      | publishing message progress =>
          obtain ⟨answer, stepped, same⟩ := Turn.of_lift_finished turn
          cases same
          exact ⟨cancelled, message, progress, rfl, rfl, stepped, rfl⟩
      | checking progress =>
          obtain ⟨answer, -, same⟩ := Turn.of_lift_finished turn
          cases same
      | consuming source handler progress =>
          obtain ⟨answer, -, same⟩ := Turn.of_lift_finished turn
          cases same

theorem Deed.sending {message : Outgoing} {span : Nat} {lease : Lease ρ} {envelope : Envelope}
    {execution : Execution (TransportCall ρ κ)}
    (deed : part.Deed now a s prompt (.goesOn (.publishing message (.sending span lease envelope execution)))
      next later) :
    (∃ earlier, part = .publishing message (.sending span lease envelope earlier)) ∨
      ∃ original, message.content = .ok original ∧ envelope = (Publishing.prepare a original).1 := by
  cases deed with
  | waited turn => exact .inl ⟨execution, rfl⟩
  | moved turn =>
      cases part with
      | publishing message progress =>
          obtain ⟨after, stepped, same⟩ := Turn.of_lift_moved turn
          cases same
          cases Publishing.step_onward stepped with
          | prepared content => exact .inr ⟨_, content, rfl⟩
          | sending was => exact .inl ⟨_, by rw [was]⟩
      | checking progress =>
          obtain ⟨after, -, same⟩ := Turn.of_lift_moved turn
          cases same
      | consuming source handler progress =>
          obtain ⟨after, -, same⟩ := Turn.of_lift_moved turn
          cases same

end Part

/-! ## Calls and their parts -/

namespace Call

variable {ε ρ σ κ η : Type}

def part? : Call ε ρ σ κ η → Option (Nat × Part ε ρ σ κ η)
  | .publishing place message progress => some (place, .publishing message progress)
  | .checking place progress => some (place, .checking progress)
  | .consuming place source handler progress => some (place, .consuming source handler progress)
  | .checkingAll _ _ [] => none
  | .checkingAll _ progress ((_, place) :: _) => some (place, .checking progress)

def checks : Call ε ρ σ κ η → List (String × Except BrokerError Unit)
  | .checkingAll checked _ _ => checked
  | _ => []

inductive Turns (call : Call ε ρ σ κ η) (place : Nat) :
    Turn (Part ε ρ σ κ η) Reply → Turn (Call ε ρ σ κ η) Reply → Prop
  | moved {part : Part ε ρ σ κ η} {next : Call ε ρ σ κ η} (known : next.part? = some (place, part))
      (checks : next.checks = call.checks) : Turns call place (.moved part) (.moved next)
  | blocked (wake : Option Instant) : Turns call place (.blocked wake) (.blocked wake)
  | overflowed : Turns call place .overflowed .overflowed
  | finished (reply : Reply) : Turns call place (.finished reply) (.finished reply)
  | checked {name : String} {result : Except BrokerError Unit} {left : List (String × Nat)} :
      Turns call place (.finished (.checked result))
        (.moved (.checkingAll (call.checks ++ [(name, result)]) .start left))

theorem step_part (r : Registry ε ρ σ κ) (now : Instant) (cancelled : Bool) {call : Call ε ρ σ κ η}
    {place : Nat} {part : Part ε ρ σ κ η} {a : Adapter ε ρ σ κ} (known : call.part? = some (place, part))
    (found : r.adapters[place]? = some a) :
    call.Turns place (part.step a r.shared now cancelled).turn (call.step r now cancelled).1 ∧
      (call.step r now cancelled).2 =
        { r with
          adapters := r.adapters.set place (part.step a r.shared now cancelled).adapter
          shared := (part.step a r.shared now cancelled).shared } := by
  cases call with
  | publishing here message progress =>
      cases known
      simp only [step, found, Part.step]
      refine ⟨?_, trivial⟩
      cases (progress.step a r.shared message now cancelled).turn with
      | finished result => exact .finished _
      | moved next => exact .moved rfl rfl
      | blocked wake => exact .blocked wake
      | overflowed => exact .overflowed
  | checking here progress =>
      cases known
      simp only [step, found, Part.step]
      refine ⟨?_, trivial⟩
      cases (progress.step a r.shared now cancelled).turn with
      | finished result => exact .finished _
      | moved next => exact .moved rfl rfl
      | blocked wake => exact .blocked wake
      | overflowed => exact .overflowed
  | consuming here source handler progress =>
      cases known
      simp only [step, found, Part.step]
      refine ⟨?_, trivial⟩
      cases (progress.step a r.shared source handler now cancelled).turn with
      | finished result => exact .finished _
      | moved next => exact .moved rfl rfl
      | blocked wake => exact .blocked wake
      | overflowed => exact .overflowed
  | checkingAll checked progress left =>
      cases left with
      | nil => cases known
      | cons first left =>
          cases known
          simp only [step, found, Part.step]
          refine ⟨?_, trivial⟩
          cases (progress.step a r.shared now cancelled).turn with
          | finished result => exact .checked
          | moved next => exact .moved rfl rfl
          | blocked wake => exact .blocked wake
          | overflowed => exact .overflowed

theorem abandon_part (r : Registry ε ρ σ κ) (now : Instant) {call : Call ε ρ σ κ η} {place : Nat}
    {part : Part ε ρ σ κ η} {a : Adapter ε ρ σ κ} (known : call.part? = some (place, part))
    (found : r.adapters[place]? = some a) :
    call.abandon r now =
      { r with
        adapters := r.adapters.set place (part.abandon a r.shared now).1
        shared := (part.abandon a r.shared now).2 } := by
  cases call with
  | publishing | checking | consuming =>
      cases known
      simp only [abandon, Registry.change, found, Part.abandon]
  | checkingAll checked progress left =>
      cases left with
      | nil => cases known
      | cons first left =>
          cases known
          simp only [abandon, Registry.change, found, Part.abandon]

inductive Leaves : Call ε ρ σ κ η → Errand ε ρ σ κ η → Prop
  | gone (call : Call ε ρ σ κ η) : Leaves call (.ended .abandoned)
  | checked (checked : List (String × Except BrokerError Unit)) (progress : Checking ρ κ) :
      Leaves (.checkingAll checked progress []) (.ended (.checkedAll checked))
  | skipped (checked : List (String × Except BrokerError Unit)) (progress : Checking ρ κ)
      (first : String × Nat) (left : List (String × Nat)) :
      Leaves (.checkingAll checked progress (first :: left)) (.running (.checkingAll checked .start left))

def Vacant (r : Registry ε ρ σ κ) (call : Call ε ρ σ κ η) : Prop :=
  ∀ place part, call.part? = some (place, part) → r.adapters[place]? = none

theorem abandon_vacant {r : Registry ε ρ σ κ} (now : Instant) {call : Call ε ρ σ κ η}
    (vacant : call.Vacant r) : call.abandon r now = r := by
  cases call with
  | publishing | checking | consuming => simp only [abandon, Registry.change, vacant _ _ rfl]
  | checkingAll checked progress left =>
      cases left with
      | nil => rfl
      | cons first left => simp only [abandon, Registry.change, vacant _ _ rfl]

theorem step_vacant {r : Registry ε ρ σ κ} (now : Instant) (cancelled : Bool) {call : Call ε ρ σ κ η}
    (vacant : call.Vacant r) :
    (call.step r now cancelled).2 = r ∧
      ∃ errand, call.Leaves errand ∧
        ((∃ reply, (call.step r now cancelled).1 = .finished reply ∧ errand = .ended reply) ∨
          ∃ next, (call.step r now cancelled).1 = .moved next ∧ errand = .running next) := by
  cases call with
  | publishing | checking | consuming =>
      simp only [step, vacant _ _ rfl]
      exact ⟨trivial, _, .gone _, .inl ⟨_, rfl, rfl⟩⟩
  | checkingAll checked progress left =>
      cases left with
      | nil => exact ⟨rfl, _, .checked checked progress, .inl ⟨_, rfl, rfl⟩⟩
      | cons first left =>
          simp only [step, vacant _ _ rfl]
          exact ⟨trivial, _, .skipped checked progress first left, .inr ⟨_, rfl, rfl⟩⟩

inductive Succeeds (call : Call ε ρ σ κ η) (place : Nat) :
    Part.Fate ε ρ σ κ η → Errand ε ρ σ κ η → Prop
  | goesOn {part : Part ε ρ σ κ η} {next : Call ε ρ σ κ η} (known : next.part? = some (place, part))
      (checks : next.checks = call.checks) : Succeeds call place (.goesOn part) (.running next)
  | settled (reply : Reply) : Succeeds call place (.settled reply) (.ended reply)
  | checked {name : String} {result : Except BrokerError Unit} {left : List (String × Nat)} :
      Succeeds call place (.settled (.checked result))
        (.running (.checkingAll (call.checks ++ [(name, result)]) .start left))

end Call

def Errand.part? {ε ρ σ κ η : Type} : Errand ε ρ σ κ η → Option (Nat × Part ε ρ σ κ η)
  | .running call => call.part?
  | .ended _ => none

/-! ## Registries between calls -/

inductive Adapter.Tended {ε ρ σ κ : Type} (a : Adapter ε ρ σ κ) (s : Shared ε) :
    Adapter ε ρ σ κ → Shared ε → Prop
  | closeIdle : Tended a s (a.closeIdle s).1 (a.closeIdle s).2
  | shutdown : Tended a s (a.shutdown s).1 (a.shutdown s).2
  | reset : Tended a s a.reset s

/-- What one move does to a registry without any call: it is built, an adapter is looked after, the outside
changes, a registration or a shutdown is reported. -/
inductive Registry.Tended {ε ρ σ κ η : Type} (move : Exchange.Move ε ρ σ κ η) (r : Registry ε ρ σ κ) :
    Registry ε ρ σ κ → Prop
  | enlisted (key : MetricsKey) :
      Tended move r { r with shared := { r.shared with metrics := r.shared.metrics.enlist key } }
  | added {connector : Connector ε ρ σ κ} {name : String} {settings : BackendSettings}
      (bucket : Option Bucket) (names : List (String × Nat)) (asked : move = .register connector name settings) :
      Tended move r
        { adapters := r.adapters ++
            [.new name (.ofSettings connector settings) settings.pool settings.destination
              (defaultSource settings) bucket]
          names
          shared := { r.shared with
            metrics := r.shared.metrics.enlist { backend := settings.backend.name, pool := name } } }
  | changed {place : Nat} {a next : Adapter ε ρ σ κ} {later : Shared ε}
      (found : r.adapters[place]? = some a) (tended : a.Tended r.shared next later) :
      Tended move r { r with adapters := r.adapters.set place next, shared := later }
  | reported {event : Event}
      (about : event.message = "broker registered" ∨ event.message = "broker registry shut down") :
      Tended move r { r with shared := r.shared.report [event] }
  | disturbed {change : ε → ε} (asked : move = .disturb change) :
      Tended move r { r with shared := r.shared.update change }

namespace Registry

variable {ε ρ σ κ η : Type} {move : Exchange.Move ε ρ σ κ η}

theorem change_tended (r : Registry ε ρ σ κ) (place : Nat)
    {f : Adapter ε ρ σ κ → Shared ε → Adapter ε ρ σ κ × Shared ε}
    (tended : ∀ a : Adapter ε ρ σ κ, a.Tended r.shared (f a r.shared).1 (f a r.shared).2) :
    Relation.ReflTransGen (Registry.Tended move) r (r.change place f) := by
  unfold Registry.change
  cases found : r.adapters[place]? with
  | none => exact .refl
  | some a => exact .single (.changed found (tended a))

theorem shutdown_tended (r : Registry ε ρ σ κ) :
    Relation.ReflTransGen (Registry.Tended move) r r.shutdown := by
  have each (names : List (String × Nat)) (r : Registry ε ρ σ κ) :
      Relation.ReflTransGen (Registry.Tended move) r
        (names.foldl (fun r entry => r.change entry.2 Adapter.shutdown) r) := by
    induction names generalizing r with
    | nil => exact .refl
    | cons entry names ih => exact (r.change_tended entry.2 fun a => .shutdown).trans (ih _)
  exact (each r.names r).tail (.reported (.inr rfl))

theorem register_tended (r : Registry ε ρ σ κ) (connector : Connector ε ρ σ κ) (name : String)
    (settings : BackendSettings) :
    Relation.ReflTransGen (Registry.Tended (.register (η := η) connector name settings)) r
      (r.register connector name settings).2 := by
  unfold register
  split
  · exact .refl
  · split
    · exact .refl
    · simp only [add]
      cases settings.pool.bucket with
      | error error => exact .single (.enlisted _)
      | ok bucket =>
          exact .tail (.single (.added bucket (insertSorted name r.adapters.length r.names) rfl))
            (.reported (.inl rfl))

def Extends (r next : Registry ε ρ σ κ) : Prop :=
  ∀ (place : Nat) (a : Adapter ε ρ σ κ), r.adapters[place]? = some a →
    ∃ b, next.adapters[place]? = some b ∧ b.name = a.name ∧ b.transport = a.transport ∧ b.options = a.options

namespace Extends

variable {r next last : Registry ε ρ σ κ}

theorem of_eq (same : next.adapters = r.adapters) : r.Extends next :=
  fun place a found => ⟨a, by rw [same, found], rfl, rfl, rfl⟩

theorem trans (first : r.Extends next) (second : next.Extends last) : r.Extends last := by
  intro place a found
  obtain ⟨b, found, name, transport, options⟩ := first place a found
  obtain ⟨c, found, name', transport', options'⟩ := second place b found
  exact ⟨c, found, name'.trans name, transport'.trans transport, options'.trans options⟩

theorem set {place : Nat} {a b : Adapter ε ρ σ κ} {later : Shared ε} (found : r.adapters[place]? = some a)
    (name : b.name = a.name) (transport : b.transport = a.transport) (options : b.options = a.options) :
    r.Extends { r with adapters := r.adapters.set place b, shared := later } := by
  intro there c held
  by_cases same : place = there
  · subst same
    rw [found] at held
    cases held
    exact ⟨b, List.getElem?_set_self (List.getElem?_eq_some_iff.1 found).1, name, transport, options⟩
  · exact ⟨c, by rw [List.getElem?_set_ne same, held], rfl, rfl, rfl⟩

theorem vacant (extends_ : r.Extends next) {place : Nat} (vacant : next.adapters[place]? = none) :
    r.adapters[place]? = none := by
  cases found : r.adapters[place]? with
  | none => rfl
  | some a =>
      obtain ⟨b, held, -⟩ := extends_ place a found
      rw [vacant] at held
      cases held

end Extends

theorem Tended.extends {r next : Registry ε ρ σ κ} (tended : r.Tended move next) : r.Extends next := by
  cases tended with
  | enlisted | reported | disturbed => exact .of_eq rfl
  | added =>
      intro place a found
      exact ⟨a, by rw [List.getElem?_append_left (List.getElem?_eq_some_iff.1 found).1, found], rfl, rfl, rfl⟩
  | changed found tended =>
      cases tended with
      | closeIdle | shutdown | reset => exact .set found rfl rfl rfl

theorem Tended.each {P : Nat → Adapter ε ρ σ κ → Prop}
    (new : ∀ place name transport settings destination source bucket,
      P place (.new name transport settings destination source bucket))
    (kept : ∀ place a s b later, a.Tended s b later → P place a → P place b) {r next : Registry ε ρ σ κ}
    (tended : Relation.ReflTransGen (Registry.Tended move) r next)
    (each : ∀ place a, r.adapters[place]? = some a → P place a) :
    ∀ place a, next.adapters[place]? = some a → P place a := by
  induction tended with
  | refl => exact each
  | tail _ last ih =>
      intro place b found
      cases last with
      | enlisted | reported | disturbed => exact ih place b found
      | added bucket names asked =>
          rcases getElem?_concat_cases found with found | ⟨-, rfl⟩
          · exact ih place b found
          · exact new place _ _ _ _ _ _
      | changed here tended =>
          rcases getElem?_set_cases found with ⟨rfl, rfl⟩ | ⟨-, found⟩
          · exact kept _ _ _ _ _ tended (ih _ _ here)
          · exact ih place b found

theorem Tended.keeps {P : Adapter ε ρ σ κ → Prop}
    (kept : ∀ {a b : Adapter ε ρ σ κ} {s later : Shared ε}, a.Tended s b later → P a → P b)
    {r next : Registry ε ρ σ κ} (tended : Relation.ReflTransGen (Registry.Tended move) r next) {place : Nat}
    {a : Adapter ε ρ σ κ} (found : r.adapters[place]? = some a) (holds : P a) :
    ∃ b, next.adapters[place]? = some b ∧ P b := by
  induction tended with
  | refl => exact ⟨a, found, holds⟩
  | tail _ last ih =>
      obtain ⟨b, found, holds⟩ := ih
      have bound := (List.getElem?_eq_some_iff.1 found).1
      cases last with
      | enlisted | reported | disturbed => exact ⟨b, found, holds⟩
      | added => exact ⟨b, (List.getElem?_append_left bound).trans found, holds⟩
      | @changed there c next later here tended =>
          by_cases same : there = place
          · subst same
            rw [here] at found
            cases found
            exact ⟨next, List.getElem?_set_self bound, kept tended holds⟩
          · exact ⟨b, (List.getElem?_set_ne same).trans found, holds⟩

end Registry

/-! ## Moves -/

namespace Exchange

variable {ε ρ σ κ η : Type}

def Move.prompt? : Move ε ρ σ κ η → Option (Nat × Prompt)
  | .step number cancelled => some (number, .step cancelled)
  | .abandon number => some (number, .giveUp)
  | _ => none

theorem Move.eq_step {move : Move ε ρ σ κ η} {number : Nat} {cancelled : Bool}
    (prompted : move.prompt? = some (number, .step cancelled)) : move = .step number cancelled := by
  cases move with
  | step => cases prompted; rfl
  | register | publish | check | consume | checkAll | abandon | closeIdle | close | shutdown | reset | elapse
  | disturb => cases prompted

end Exchange

inductive Part.Begins {ε ρ σ κ η : Type} (move : Exchange.Move ε ρ σ κ η) (place : Nat) : Part ε ρ σ κ η → Prop
  | publishing {message : Outgoing} (asked : move = .publish place message) :
      Begins move place (.publishing message .fresh)
  | checking : Begins move place (.checking .start)
  | consuming {source : String} {handler : Handler ε η} (asked : move = .consume place source handler) :
      Begins move place (.consuming source handler .start)

theorem Part.Begins.isFresh {ε ρ σ κ η : Type} {move : Exchange.Move ε ρ σ κ η} {place : Nat} {part : Part ε ρ σ κ η}
    (begins : part.Begins move place) : part.isFresh := by
  cases begins <;> rfl

namespace Exchange

variable {ε ρ σ κ η : Type}

inductive Change (x : Exchange ε ρ σ κ η) (move : Move ε ρ σ κ η) (y : Exchange ε ρ σ κ η) : Prop
  | tended (unprompted : move.prompt? = none) (errands : y.errands = x.errands)
      (tended : Relation.ReflTransGen (Registry.Tended move) x.registry y.registry)
  | began {call : Call ε ρ σ κ η} (unprompted : move.prompt? = none)
      (begins : ∀ place part, call.part? = some (place, part) → part.Begins move place) (checks : call.checks = [])
      (registry : y.registry = x.registry) (errands : y.errands = x.errands ++ [.running call])
  | passed {number : Nat} {prompt : Prompt} (prompted : move.prompt? = some (number, prompt))
      (idle : ∀ call, x.errands[number]? ≠ some (.running call)) (registry : y.registry = x.registry)
      (errands : y.errands = x.errands)
  | left {number : Nat} {prompt : Prompt} {call : Call ε ρ σ κ η} {errand : Errand ε ρ σ κ η}
      (prompted : move.prompt? = some (number, prompt)) (found : x.errands[number]? = some (.running call))
      (vacant : call.Vacant x.registry) (leaves : call.Leaves errand) (registry : y.registry = x.registry)
      (errands : y.errands = x.errands.set number errand)
  | acted {number : Nat} {prompt : Prompt} {call : Call ε ρ σ κ η} {errand : Errand ε ρ σ κ η} {place : Nat}
      {part : Part ε ρ σ κ η} {a next : Adapter ε ρ σ κ} {later : Shared ε} {fate : Part.Fate ε ρ σ κ η}
      (prompted : move.prompt? = some (number, prompt)) (found : x.errands[number]? = some (.running call))
      (known : call.part? = some (place, part)) (here : x.registry.adapters[place]? = some a)
      (deed : part.Deed x.now a x.registry.shared prompt fate next later)
      (succeeds : call.Succeeds place fate errand)
      (registry : y.registry =
        { x.registry with adapters := x.registry.adapters.set place next, shared := later })
      (errands : y.errands = x.errands.set number errand)

theorem giveUp_change {x : Exchange ε ρ σ κ η} {number : Nat} {call : Call ε ρ σ κ η}
    (found : x.errands[number]? = some (.running call)) :
    x.Change (.abandon number) (x.giveUp number call) := by
  have vacant (vacant : call.Vacant x.registry) : x.Change (.abandon number) (x.giveUp number call) :=
    .left rfl found vacant (.gone call) (call.abandon_vacant x.now vacant) rfl
  cases known : call.part? with
  | none => exact vacant fun place part some => by rw [known] at some; cases some
  | some entry =>
      obtain ⟨place, part⟩ := entry
      cases here : x.registry.adapters[place]? with
      | none =>
          apply vacant
          intro other part some
          rw [known] at some
          cases some
          exact here
      | some a =>
          exact .acted rfl found known here (.gaveUp rfl) (.settled _)
            (call.abandon_part x.registry x.now known here) rfl

theorem advance_change {x : Exchange ε ρ σ κ η} {number : Nat} (cancelled : Bool) {call : Call ε ρ σ κ η}
    (found : x.errands[number]? = some (.running call)) :
    x.Change (.step number cancelled) (x.advance number cancelled call) := by
  have vacant (vacant : call.Vacant x.registry) :
      x.Change (.step number cancelled) (x.advance number cancelled call) := by
    obtain ⟨same, errand, leaves, outcome⟩ := call.step_vacant x.now cancelled vacant
    simp only [advance, same]
    rcases outcome with ⟨reply, turn, rfl⟩ | ⟨next, turn, rfl⟩
    · rw [turn]
      exact .left rfl found vacant leaves rfl rfl
    · rw [turn]
      exact .left rfl found vacant leaves rfl rfl
  cases known : call.part? with
  | none => exact vacant fun place part some => by rw [known] at some; cases some
  | some entry =>
      obtain ⟨place, part⟩ := entry
      cases here : x.registry.adapters[place]? with
      | none =>
          apply vacant
          intro other part some
          rw [known] at some
          cases some
          exact here
      | some a =>
          obtain ⟨turns, registry⟩ := call.step_part x.registry x.now cancelled known here
          simp only [advance, registry]
          generalize turn : (part.step a x.registry.shared x.now cancelled).turn = partTurn at turns
          generalize (call.step x.registry x.now cancelled).1 = callTurn at turns
          cases turns with
          | moved known' checks =>
              exact .acted rfl found known here (.moved turn) (.goesOn known' checks) rfl rfl
          | blocked wake =>
              have same := congrArg errands (setErrand_self found)
              exact .acted rfl found known here (.waited turn) (.goesOn known rfl) rfl same.symm
          | finished reply => exact .acted rfl found known here (.finished turn) (.settled reply) rfl rfl
          | checked => exact .acted rfl found known here (.finished turn) .checked rfl rfl
          | overflowed =>
              have bound : place < x.registry.adapters.length := (List.getElem?_eq_some_iff.1 here).1
              refine .acted rfl found known here (.broke turn rfl) (.settled _) ?_ rfl
              simp only [giveUp, become, setErrand]
              rw [call.abandon_part _ x.now known (List.getElem?_set_self bound)]
              simp only [List.set_set]
              rfl

theorem perform_change (x : Exchange ε ρ σ κ η) (move : Move ε ρ σ κ η) : x.Change move (x.perform move) := by
  cases move with
  | register connector name settings => exact .tended rfl rfl (x.registry.register_tended connector name settings)
  | publish place message =>
      refine .began rfl (fun here part known => ?_) rfl rfl rfl
      cases known
      exact .publishing rfl
  | check place =>
      refine .began rfl (fun here part known => ?_) rfl rfl rfl
      cases known
      exact .checking
  | consume place source handler =>
      refine .began rfl (fun here part known => ?_) rfl rfl rfl
      cases known
      exact .consuming rfl
  | checkAll =>
      refine .began rfl (fun here part known => ?_) rfl rfl rfl
      simp only [Call.checkAll] at known
      cases listed : x.registry.names with
      | nil => rw [listed] at known; cases known
      | cons first left => rw [listed] at known; cases known; exact .checking
  | step number cancelled =>
      simp only [perform]
      split
      · rename_i call found
        exact advance_change cancelled found
      · rename_i idle
        exact .passed rfl idle rfl rfl
  | abandon number =>
      simp only [perform]
      split
      · rename_i call found
        exact giveUp_change found
      · rename_i idle
        exact .passed rfl idle rfl rfl
  | closeIdle place => exact .tended rfl rfl (x.registry.change_tended place fun a => .closeIdle)
  | close place => exact .tended rfl rfl (x.registry.change_tended place fun a => .shutdown)
  | shutdown => exact .tended rfl rfl x.registry.shutdown_tended
  | reset place =>
      exact .tended rfl rfl
        (x.registry.change_tended place (f := fun adapter shared => (adapter.reset, shared)) fun a => .reset)
  | elapse duration => exact .tended rfl rfl .refl
  | disturb change => exact .tended rfl rfl (.single (.disturbed rfl))

theorem run_append (x : Exchange ε ρ σ κ η) (first rest : List (Move ε ρ σ κ η)) :
    x.run (first ++ rest) = (x.run first).run rest := List.foldl_append

theorem run_within {P : Exchange ε ρ σ κ η → Prop} (moves : List (Move ε ρ σ κ η))
    (kept : ∀ x, ∀ move ∈ moves, P x → P (x.perform move)) {x : Exchange ε ρ σ κ η} (start : P x) :
    P (x.run moves) := by
  induction moves generalizing x with
  | nil => exact start
  | cons move moves ih =>
      exact ih (fun x other member => kept x other (List.mem_cons_of_mem _ member))
        (kept x move List.mem_cons_self start)

theorem run_keeps {P : Exchange ε ρ σ κ η → Prop} (kept : ∀ x move, P x → P (x.perform move))
    (moves : List (Move ε ρ σ κ η)) {x : Exchange ε ρ σ κ η} (start : P x) : P (x.run moves) :=
  run_within moves (fun x move _ => kept x move) start

/-! ## Properties of each part -/

def EachPart (P : Nat → Part ε ρ σ κ η → Prop) (x : Exchange ε ρ σ κ η) : Prop :=
  ∀ (number : Nat) (call : Call ε ρ σ κ η) (place : Nat) (part : Part ε ρ σ κ η),
    x.errands[number]? = some (.running call) → call.part? = some (place, part) → P place part

variable {x y : Exchange ε ρ σ κ η} {move : Move ε ρ σ κ η}

theorem checking_of_leaves {call next : Call ε ρ σ κ η} (leaves : call.Leaves (.running next)) {place : Nat}
    {part : Part ε ρ σ κ η} (known : next.part? = some (place, part)) : part = .checking .start := by
  cases leaves with
  | skipped checked progress first left =>
      cases left with
      | nil => cases known
      | cons second left => cases known; rfl

def part? (x : Exchange ε ρ σ κ η) (number : Nat) : Option (Nat × Part ε ρ σ κ η) :=
  x.errands[number]?.bind Errand.part?

theorem part?_iff {number place : Nat} {part : Part ε ρ σ κ η} :
    x.part? number = some (place, part) ↔
      ∃ call, x.errands[number]? = some (.running call) ∧ call.part? = some (place, part) := by
  constructor
  · intro known
    obtain ⟨errand, found, known⟩ := Option.bind_eq_some_iff.1 known
    cases errand with
    | running call => exact ⟨call, found, known⟩
    | ended reply => cases known
  · rintro ⟨call, found, known⟩
    rw [part?, found]
    exact known

theorem Change.stays (change : x.Change move y) {number : Nat} {errand : Errand ε ρ σ κ η}
    (found : x.errands[number]? = some errand) (other : ∀ prompt, move.prompt? ≠ some (number, prompt)) :
    y.errands[number]? = some errand := by
  cases change with
  | tended _ errands | passed _ _ _ errands => rw [errands, found]
  | began _ _ _ _ errands =>
      rw [errands, List.getElem?_append_left (List.getElem?_eq_some_iff.1 found).1, found]
  | left prompted _ _ _ _ errands | acted prompted _ _ _ _ _ _ errands =>
      rw [errands, List.getElem?_set_ne, found]
      rintro rfl
      exact other _ prompted

theorem Change.acts (change : x.Change move y) {number place : Nat} {prompt : Prompt} {part : Part ε ρ σ κ η}
    {a : Adapter ε ρ σ κ} (prompted : move.prompt? = some (number, prompt))
    (doing : x.part? number = some (place, part)) (here : x.registry.adapters[place]? = some a) :
    ∃ call fate errand next later, x.errands[number]? = some (.running call) ∧
      part.Deed x.now a x.registry.shared prompt fate next later ∧ call.Succeeds place fate errand ∧
      y.errands = x.errands.set number errand ∧ y.registry.adapters[place]? = some next ∧
      y.registry.shared = later := by
  obtain ⟨call, found, known⟩ := part?_iff.1 doing
  cases change with
  | tended unprompted | began unprompted =>
      rw [unprompted] at prompted
      cases prompted
  | passed prompted' idle =>
      rw [prompted] at prompted'
      cases prompted'
      exact absurd found (idle call)
  | left prompted' running vacant =>
      rw [prompted] at prompted'
      cases prompted'
      rw [found] at running
      cases running
      rw [vacant place part known] at here
      cases here
  | acted prompted' running known' here' deed succeeds registry errands =>
      rw [prompted] at prompted'
      cases prompted'
      rw [found] at running
      cases running
      rw [known] at known'
      cases known'
      rw [here] at here'
      cases here'
      refine ⟨call, _, _, _, _, found, deed, succeeds, errands, ?_, ?_⟩
      · rw [registry]
        exact List.getElem?_set_self (List.getElem?_eq_some_iff.1 here).1
      · rw [registry]

inductive Comes (x : Exchange ε ρ σ κ η) (move : Move ε ρ σ κ η) (y : Exchange ε ρ σ κ η) (number place : Nat) :
    Part ε ρ σ κ η → Prop
  | stayed {part : Part ε ρ σ κ η} (same : x.part? number = some (place, part)) : Comes x move y number place part
  | begun {part : Part ε ρ σ κ η} (begins : part.Begins move place) : Comes x move y number place part
  | acted {prompt : Prompt} {part after : Part ε ρ σ κ η} {a next : Adapter ε ρ σ κ} {later : Shared ε}
      (prompted : move.prompt? = some (number, prompt)) (known : x.part? number = some (place, part))
      (here : x.registry.adapters[place]? = some a)
      (deed : part.Deed x.now a x.registry.shared prompt (.goesOn after) next later)
      (there : y.registry.adapters[place]? = some next) : Comes x move y number place after

theorem Change.comes (change : x.Change move y) {number place : Nat} {part : Part ε ρ σ κ η}
    (known : y.part? number = some (place, part)) : x.Comes move y number place part := by
  obtain ⟨call, found, known⟩ := part?_iff.1 known
  have old (found : x.errands[number]? = some (.running call)) : x.Comes move y number place part :=
    .stayed (part?_iff.2 ⟨call, found, known⟩)
  cases change with
  | tended _ errands | passed _ _ _ errands => exact old (errands ▸ found)
  | began unprompted begins checks registry errands =>
      rw [errands] at found
      rcases getElem?_concat_cases found with found | ⟨-, same⟩
      · exact old found
      · cases same
        exact .begun (begins place part known)
  | left prompted running vacant leaves registry errands =>
      rw [errands] at found
      rcases getElem?_set_cases found with ⟨-, rfl⟩ | ⟨-, found⟩
      · obtain rfl := checking_of_leaves leaves known
        exact .begun .checking
      · exact old found
  | @acted here prompt before errand there current a next later fate prompted running partKnown adapter deed
      succeeds registry errands =>
      rw [errands] at found
      rcases getElem?_set_cases found with ⟨rfl, rfl⟩ | ⟨-, found⟩
      · cases succeeds with
        | goesOn after checks =>
            rw [known] at after
            cases after
            refine .acted prompted (part?_iff.2 ⟨before, running, partKnown⟩) adapter deed ?_
            rw [registry]
            exact List.getElem?_set_self (List.getElem?_eq_some_iff.1 adapter).1
        | @checked name result left =>
            cases left with
            | nil => cases known
            | cons first left =>
                cases known
                exact .begun .checking
      · exact old found

theorem Change.published (change : x.Change move y) {number : Nat} {result : Except BrokerError Receipt}
    (told : y.errands[number]? = some (.ended (.published result))) :
    x.errands[number]? = some (.ended (.published result)) ∨
      ∃ cancelled place message progress a, move = .step number cancelled ∧
        x.part? number = some (place, .publishing message progress) ∧ x.registry.adapters[place]? = some a ∧
        (progress.step a x.registry.shared message x.now cancelled).turn = .finished result ∧
        y.registry.shared = (progress.step a x.registry.shared message x.now cancelled).shared := by
  cases change with
  | tended _ errands | passed _ _ _ errands => exact .inl (errands ▸ told)
  | began _ _ _ _ errands =>
      rw [errands] at told
      rcases getElem?_concat_cases told with told | ⟨-, same⟩
      · exact .inl told
      · cases same
  | left prompted running vacant leaves registry errands =>
      rw [errands] at told
      rcases getElem?_set_cases told with ⟨-, rfl⟩ | ⟨-, told⟩
      · cases leaves
      · exact .inl told
  | @acted _ prompt call errand place part a next later fate prompted running known here deed succeeds registry
      errands =>
      rw [errands] at told
      rcases getElem?_set_cases told with ⟨rfl, rfl⟩ | ⟨-, told⟩
      · cases succeeds
        obtain ⟨cancelled, message, progress, rfl, rfl, turn, rfl⟩ := deed.published
        exact .inr ⟨cancelled, place, message, progress, a, Move.eq_step prompted,
          part?_iff.2 ⟨call, running, known⟩, here, turn, by rw [registry]⟩
      · exact .inl told

theorem EachPart.change {P Q : Nat → Part ε ρ σ κ η → Prop} (each : x.EachPart P) (change : x.Change move y)
    (fresh : ∀ place part, part.Begins move place → Q place part) (kept : ∀ place part, P place part → Q place part)
    (acted : ∀ {prompt : Prompt} {place : Nat} {part after : Part ε ρ σ κ η} {a next : Adapter ε ρ σ κ}
      {later : Shared ε}, x.registry.adapters[place]? = some a →
      part.Deed x.now a x.registry.shared prompt (.goesOn after) next later →
      y.registry.adapters[place]? = some next → P place part → Q place after) : y.EachPart Q := by
  intro number call place part found known
  have before {part : Part ε ρ σ κ η} (known : x.part? number = some (place, part)) : P place part := by
    obtain ⟨call, found, known⟩ := part?_iff.1 known
    exact each number call place part found known
  cases change.comes (part?_iff.2 ⟨call, found, known⟩) with
  | stayed same => exact kept place part (before same)
  | begun begins => exact fresh place part begins
  | acted _ known here deed there => exact acted here deed there (before known)

def Placed (x : Exchange ε ρ σ κ η) : Prop :=
  x.EachPart fun place part => x.registry.adapters[place]? = none → part.isFresh

theorem Change.extends (change : x.Change move y) : x.registry.Extends y.registry := by
  cases change with
  | began _ _ _ registry | passed _ _ registry | left _ _ _ _ registry => exact .of_eq (by rw [registry])
  | acted _ _ _ here deed _ registry =>
      rw [registry]
      exact .set here deed.wiring.1 deed.wiring.2 deed.options
  | tended _ _ tended =>
      generalize y.registry = registry at tended
      induction tended with
      | refl => exact .of_eq rfl
      | tail _ last ih => exact ih.trans last.extends

theorem Placed.change (placed : x.Placed) (change : x.Change move y) : y.Placed := by
  refine EachPart.change placed change (fun _ _ begins _ => begins.isFresh)
    (fun _ _ placed vacant => placed (change.extends.vacant vacant)) ?_
  intro prompt place part after a next later _ _ here _ vacant
  rw [here] at vacant
  cases vacant

end Exchange

/-! ## Ranks of parts -/

section Ranks

variable {ε ρ σ κ η : Type}

structure Part.Climbs (rank : Part ε ρ σ κ η → Nat) (top : Nat) : Prop where
  bounded : ∀ part, rank part ≤ top
  again : rank (.checking .start) = top
  deed : ∀ {now : Instant} {a next : Adapter ε ρ σ κ} {s later : Shared ε} {part after : Part ε ρ σ κ η}
    {prompt : Prompt}, part.Deed now a s prompt (.goesOn after) next later → rank part ≤ rank after

def Errand.level (rank : Part ε ρ σ κ η → Nat) (top : Nat) (errand : Errand ε ρ σ κ η) : Nat :=
  (errand.part?.map fun entry => rank entry.2).getD top

variable {rank : Part ε ρ σ κ η → Nat} {top : Nat}

namespace Part.Climbs

variable (climbs : Part.Climbs rank top)
include climbs

theorem errand_le (errand : Errand ε ρ σ κ η) : errand.level rank top ≤ top := by
  unfold Errand.level
  cases errand.part? with
  | none => exact Nat.le_refl top
  | some entry => exact climbs.bounded entry.2

theorem leaves {call : Call ε ρ σ κ η} {errand : Errand ε ρ σ κ η} (leaves : call.Leaves errand) :
    errand.level rank top = top := by
  cases leaves with
  | gone | checked => rfl
  | skipped checked progress first left =>
      cases left with
      | nil => rfl
      | cons second left => exact climbs.again

theorem succeeds {call : Call ε ρ σ κ η} {place : Nat} {fate : Part.Fate ε ρ σ κ η} {errand : Errand ε ρ σ κ η}
    (succeeds : call.Succeeds place fate errand) :
    errand.level rank top = top ∨ ∃ part, fate = .goesOn part ∧ errand.level rank top = rank part := by
  cases succeeds with
  | goesOn known => exact .inr ⟨_, rfl, by simp [Errand.level, Errand.part?, known]⟩
  | settled => exact .inl rfl
  | @checked name result left =>
      cases left with
      | nil => exact .inl rfl
      | cons first left => exact .inl climbs.again

end Part.Climbs

namespace Exchange

variable {x y : Exchange ε ρ σ κ η} {move : Move ε ρ σ κ η} {number : Nat} {errand : Errand ε ρ σ κ η}

theorem Change.climbs (climbs : Part.Climbs rank top) (change : x.Change move y)
    (found : x.errands[number]? = some errand) :
    ∃ after, y.errands[number]? = some after ∧ errand.level rank top ≤ after.level rank top := by
  have bound := (List.getElem?_eq_some_iff.1 found).1
  cases change with
  | tended _ errands | passed _ _ _ errands => exact ⟨errand, errands ▸ found, Nat.le_refl _⟩
  | began _ _ _ _ errands => exact ⟨errand, by rw [errands, List.getElem?_append_left bound, found], Nat.le_refl _⟩
  | @left there _ call after prompted running vacant leaves registry errands =>
      rw [errands]
      by_cases own : there = number
      · subst own
        refine ⟨after, List.getElem?_set_self bound, ?_⟩
        rw [climbs.leaves leaves]
        exact climbs.errand_le errand
      · exact ⟨errand, by rw [List.getElem?_set_ne own, found], Nat.le_refl _⟩
  | @acted there _ call after place part a next later fate prompted running known here deed succeeds registry
      errands =>
      rw [errands]
      by_cases own : there = number
      · subst own
        rw [found] at running
        cases running
        refine ⟨after, List.getElem?_set_self bound, ?_⟩
        have was : (Errand.running call).level rank top = rank part := by simp [Errand.level, Errand.part?, known]
        rcases climbs.succeeds succeeds with last | ⟨part, rfl, same⟩
        · rw [last]
          exact climbs.errand_le _
        · rw [same, was]
          exact climbs.deed deed
      · exact ⟨errand, by rw [List.getElem?_set_ne own, found], Nat.le_refl _⟩

theorem run_climbs (climbs : Part.Climbs rank top) (moves : List (Move ε ρ σ κ η))
    (found : x.errands[number]? = some errand) :
    ∃ after, (x.run moves).errands[number]? = some after ∧ errand.level rank top ≤ after.level rank top := by
  induction moves generalizing x errand with
  | nil => exact ⟨errand, found, Nat.le_refl _⟩
  | cons move moves ih =>
      obtain ⟨next, found, stepped⟩ := (x.perform_change move).climbs climbs found
      obtain ⟨after, found, later⟩ := ih found
      exact ⟨after, found, stepped.trans later⟩

end Exchange

end Ranks

/-! ## Sums over parts -/

theorem sum_map_set {α M : Type} [AddCommMonoid M] (f : α → M) {entries : List α} {here : Nat} {before : α}
    (found : entries[here]? = some before) :
    ∃ others, (entries.map f).sum = f before + others ∧
      ∀ after, ((entries.set here after).map f).sum = f after + others := by
  obtain ⟨bound, rfl⟩ := List.getElem?_eq_some_iff.1 found
  refine ⟨((entries.eraseIdx here).map f).sum, ?_, fun after => ?_⟩
  · exact ((List.getElem_cons_eraseIdx_perm bound).symm.map f).sum_eq
  · exact ((List.set_perm_cons_eraseIdx bound after).map f).sum_eq

section Sums

variable {ε ρ σ κ η M : Type} [AddCommMonoid M] (weigh : Nat → Part ε ρ σ κ η → M)

def Part.Fate.share (place : Nat) : Part.Fate ε ρ σ κ η → M
  | .goesOn part => weigh place part
  | .settled _ => 0

def Errand.share : Errand ε ρ σ κ η → M
  | .running call => (call.part?.map fun entry => weigh entry.1 entry.2).getD 0
  | .ended _ => 0

def Exchange.total (x : Exchange ε ρ σ κ η) : M := (x.errands.map (Errand.share weigh)).sum

namespace Exchange

variable {x y : Exchange ε ρ σ κ η}

theorem total_set {number : Nat} {before : Errand ε ρ σ κ η} (found : x.errands[number]? = some before) :
    ∃ others, x.total weigh = before.share weigh + others ∧
      ∀ (y : Exchange ε ρ σ κ η) (after : Errand ε ρ σ κ η), y.errands = x.errands.set number after →
        y.total weigh = after.share weigh + others := by
  obtain ⟨others, before, after⟩ := sum_map_set (Errand.share weigh) found
  refine ⟨others, before, ?_⟩
  intro y errand errands
  rw [total, errands, after]

theorem share_fresh (blank : ∀ place part, part.isFresh → weigh place part = 0) {call : Call ε ρ σ κ η}
    (fresh : ∀ place part, call.part? = some (place, part) → part.isFresh) :
    (Errand.running call).share weigh = 0 := by
  cases known : call.part? with
  | none => simp [Errand.share, known]
  | some entry => simp [Errand.share, known, blank _ _ (fresh _ _ known)]

theorem total_began (blank : ∀ place part, part.isFresh → weigh place part = 0) {call : Call ε ρ σ κ η}
    (fresh : ∀ place part, call.part? = some (place, part) → part.isFresh)
    (errands : y.errands = x.errands ++ [.running call]) : y.total weigh = x.total weigh := by
  simp [total, errands, share_fresh weigh blank fresh]

theorem total_left (blank : ∀ place part, part.isFresh → weigh place part = 0) (placed : x.Placed) {number : Nat}
    {call : Call ε ρ σ κ η} {errand : Errand ε ρ σ κ η} (found : x.errands[number]? = some (.running call))
    (vacant : call.Vacant x.registry) (leaves : call.Leaves errand)
    (errands : y.errands = x.errands.set number errand) : y.total weigh = x.total weigh := by
  obtain ⟨others, before, after⟩ := total_set weigh found
  have nothing : errand.share weigh = 0 := by
    cases errand with
    | ended reply => rfl
    | running next =>
        apply share_fresh weigh blank
        intro place part known
        obtain rfl := checking_of_leaves leaves known
        rfl
  have nothing' : (Errand.running call).share weigh = 0 := share_fresh weigh blank fun place part known =>
    placed number call place part found known (vacant place part known)
  rw [after y errand errands, before, nothing, nothing']

theorem total_acted (blank : ∀ place part, part.isFresh → weigh place part = 0) {number place : Nat}
    {call : Call ε ρ σ κ η} {part : Part ε ρ σ κ η} {fate : Part.Fate ε ρ σ κ η} {errand : Errand ε ρ σ κ η}
    (found : x.errands[number]? = some (.running call)) (known : call.part? = some (place, part))
    (succeeds : call.Succeeds place fate errand) (errands : y.errands = x.errands.set number errand) :
    ∃ others, x.total weigh = weigh place part + others ∧ y.total weigh = fate.share weigh place + others := by
  obtain ⟨others, before, after⟩ := total_set weigh found
  refine ⟨others, ?_, ?_⟩
  · simpa [Errand.share, known] using before
  · rw [after y errand errands]
    cases succeeds with
    | goesOn known checks => simp [Errand.share, known, Part.Fate.share]
    | settled reply => rfl
    | @checked name result left =>
        rw [share_fresh weigh blank, Part.Fate.share]
        intro place part known
        cases left with
        | nil => cases known
        | cons first left => cases known; rfl

end Exchange

end Sums

end Dispatch
