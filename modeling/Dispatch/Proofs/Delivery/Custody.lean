import Dispatch.Proofs.Delivery.Flights

/-!
# One owner for each handle

An `Incident` is a move of an exchange whose adapters all speak to one memory broker: the application, its
owners and the faults that a test injects, in any order. `Orderly` is kept by every incident: no handle is
in two hands, whether idle in a pool, leased or on its way there, and the broker counts a handle as busy
exactly while the call that leased it has a send in the air. So no handle is ever used by two sends at once.
-/

set_option autoImplicit false

namespace Dispatch

/-! ## Incidents -/

inductive Fault where
  | failConnects (count : Nat)
  | failSends (count : Nat)
  | rejectSends (count : Nat)
  | hangSends (hangs : Bool)
  | delaySends (delay : Duration)
  | delayConnects (delay : Duration)
  | breakConnections
  | closeSubscriptions
  | inject (source : String) (payload : Bytes)

def Fault.apply (b : MemoryBroker) : Fault → MemoryBroker
  | .failConnects count => { b with failConnects := count }
  | .failSends count => { b with failSends := count }
  | .rejectSends count => { b with rejectSends := count }
  | .hangSends hangs => { b with hangSends := hangs }
  | .delaySends delay => { b with sendDelay := delay }
  | .delayConnects delay => { b with connectDelay := delay }
  | .breakConnections => b.breakConnections
  | .closeSubscriptions => b.closeSubscriptions
  | .inject source payload => (b.inject source payload).2

theorem Fault.apply_office (b : MemoryBroker) (fault : Fault) : (fault.apply b).office = b.office := by
  cases fault <;> rfl

theorem Fault.apply_desk (b : MemoryBroker) (fault : Fault) : (fault.apply b).desk = b.desk :=
  congrArg Prod.fst (fault.apply_office b)

structure Bystander (η : Type) where
  handler : Handler MemoryBroker η
  quiet : handler.Spares MemoryBroker.desk

inductive Incident (η : Type) where
  | register (name : String) (settings : BackendSettings)
  | publish (place : Nat) (message : Outgoing)
  | check (place : Nat)
  | consume (place : Nat) (source : String) (bystander : Bystander η)
  | checkAll
  | step (errand : Nat) (cancelled : Bool)
  | abandon (errand : Nat)
  | closeIdle (place : Nat)
  | close (place : Nat)
  | shutdown
  | reset (place : Nat)
  | elapse (duration : Duration)
  | fault (injected : Fault)

abbrev MemoryMove (η : Type) := Exchange.Move MemoryBroker MemoryHandle Nat MemoryCall η

abbrev MemoryExchange (η : Type) := Exchange MemoryBroker MemoryHandle Nat MemoryCall η

def Incident.move {η : Type} : Incident η → MemoryMove η
  | .register name settings => .register MemoryBroker.connector name settings
  | .publish place message => .publish place message
  | .check place => .check place
  | .consume place source bystander => .consume place source bystander.handler
  | .checkAll => .checkAll
  | .step errand cancelled => .step errand cancelled
  | .abandon errand => .abandon errand
  | .closeIdle place => .closeIdle place
  | .close place => .close place
  | .shutdown => .shutdown
  | .reset place => .reset place
  | .elapse duration => .elapse duration
  | .fault injected => .disturb injected.apply

theorem Part.Begins.quiet {η : Type} {incident : Incident η} {place : Nat} {part : MemoryPart η}
    (begins : part.Begins incident.move place) : part.Quiet := by
  cases begins with
  | publishing | checking => trivial
  | consuming asked =>
      cases incident with
      | consume place source bystander =>
          cases asked
          exact bystander.quiet
      | register | publish | check | checkAll | step | abandon | closeIdle | close | shutdown | reset | elapse
      | fault => cases asked

/-! ## Hands -/

/-- The handles of a part, with those marked on which a send is in the air. -/
def Part.grip {η : Type} (part : MemoryPart η) : Multiset (MemoryHandle × Bool) :=
  part.held.map fun handle => (handle, part.flying.isSome)

def busyOf (grip : Multiset (MemoryHandle × Bool)) : Multiset Nat :=
  (grip.filter (·.2 = true)).map (·.1.number)

theorem busyOf_add (first second : Multiset (MemoryHandle × Bool)) :
    busyOf (first + second) = busyOf first + busyOf second := by
  simp [busyOf]

namespace Part

variable {η : Type}

@[simp] theorem grip_handles (part : MemoryPart η) : part.grip.map Prod.fst = part.held := by
  simp [grip]

theorem held_of_flying {part : MemoryPart η} {number : Nat} (flying : part.flying = some number) :
    part.held.map MemoryHandle.number = {number} := by
  cases part with
  | checking | consuming => cases flying
  | publishing message progress =>
      cases progress with
      | fresh | limiting | leasing | preparing => cases flying
      | sending span lease envelope execution =>
          simp only [Part.flying, Publishing.flying] at flying
          split at flying
          · cases flying
            rfl
          · cases flying

theorem busy_grip (part : MemoryPart η) : busyOf part.grip = part.flying.toList := by
  cases flying : part.flying with
  | none => simp [busyOf, grip, flying]
  | some number =>
      have held := held_of_flying flying
      simp [busyOf, grip, flying, held, Multiset.filter_map]

theorem grip_fresh {part : MemoryPart η} (fresh : part.isFresh) : part.grip = 0 := by
  rcases fresh_cases fresh with ⟨message, rfl⟩ | rfl | ⟨source, handler, rfl⟩ <;> rfl

theorem asks_fresh {part : MemoryPart η} (fresh : part.isFresh) (backend : Backend) : part.Asks backend := by
  rcases fresh_cases fresh with ⟨message, rfl⟩ | rfl | ⟨source, handler, rfl⟩ <;> trivial

end Part

def Part.Fate.grip {η : Type} : MemoryFate η → Multiset (MemoryHandle × Bool)
  | .goesOn part => part.grip
  | .settled _ => 0

namespace Part.Fate

variable {η : Type} (fate : MemoryFate η)

@[simp] theorem grip_handles : fate.grip.map Prod.fst = fate.held := by
  cases fate with
  | goesOn part => exact part.grip_handles
  | settled reply => rfl

theorem busy_grip : busyOf fate.grip = fate.flying.toList := by
  cases fate with
  | goesOn part => exact part.busy_grip
  | settled reply => rfl

theorem share_grip (place : Nat) : fate.share (fun _ part => part.grip) place = fate.grip := by
  cases fate <;> rfl

end Part.Fate

/-! ## Order -/

structure Distinct (handles : Multiset MemoryHandle) (connects : Nat) : Prop where
  apart : (handles.map MemoryHandle.number).Nodup
  known : ∀ handle ∈ handles, handle.number ≤ connects

theorem Distinct.fewer {handles fewer : Multiset MemoryHandle} {connects : Nat} (distinct : Distinct handles connects)
    (less : fewer ≤ handles) : Distinct fewer connects where
  apart := Multiset.nodup_of_le (Multiset.map_le_map less) distinct.apart
  known handle member := distinct.known handle (Multiset.mem_of_le less member)

theorem Supplies.distinct {backend : Backend} {connects later : Nat} {before after others : Multiset MemoryHandle}
    (supplies : Supplies backend connects before after later) (distinct : Distinct (others + before) connects) :
    Distinct (others + after) later := by
  cases supplies.frame others with
  | kept fewer => exact distinct.fewer fewer
  | @opened handle number kind fewer =>
      have more : Distinct (handle ::ₘ (others + before)) (connects + 1) := by
        refine ⟨?_, fun known member => ?_⟩
        · rw [Multiset.map_cons, Multiset.nodup_cons]
          refine ⟨?_, distinct.apart⟩
          intro member
          obtain ⟨old, member, same⟩ := Multiset.mem_map.1 member
          have bound := distinct.known old member
          omega
        · rcases Multiset.mem_cons.1 member with rfl | member
          · exact le_of_eq number
          · exact Nat.le_succ_of_le (distinct.known known member)
      exact more.fewer fewer

theorem Supplies.kinds {backend : Backend} {connects later : Nat} {before after : Multiset MemoryHandle}
    (supplies : Supplies backend connects before after later)
    (kinds : ∀ handle ∈ before, handle.backend = backend) : ∀ handle ∈ after, handle.backend = backend := by
  intro handle member
  cases supplies with
  | kept fewer => exact kinds handle (Multiset.mem_of_le fewer member)
  | opened number kind fewer =>
      rcases Multiset.mem_cons.1 (Multiset.mem_of_le fewer member) with rfl | member
      · exact kind
      · exact kinds handle member

theorem busyOf_le (grip : Multiset (MemoryHandle × Bool)) :
    busyOf grip ≤ (grip.map Prod.fst).map MemoryHandle.number := by
  rw [Multiset.map_map]
  exact Multiset.map_le_map (Multiset.filter_le _ grip)

theorem Distinct.busy {handles : Multiset MemoryHandle} {grip : Multiset (MemoryHandle × Bool)} {connects : Nat}
    (distinct : Distinct (handles + grip.map Prod.fst) connects) : (busyOf grip).Nodup :=
  Multiset.nodup_of_le (busyOf_le grip) ((distinct.fewer (Multiset.le_add_left _ _)).apart)

theorem Distinct.free {η : Type} {handles : Multiset MemoryHandle} {fate : MemoryFate η}
    {others : Multiset (MemoryHandle × Bool)} {connects number : Nat}
    (distinct : Distinct (handles + (fate.grip + others).map Prod.fst) connects) (flying : fate.flying = some number) :
    number ∉ busyOf others := by
  intro member
  have apart := (distinct.fewer (Multiset.le_add_left _ _)).apart
  have held : fate.held.map MemoryHandle.number = {number} := by
    cases fate with
    | goesOn part => exact part.held_of_flying flying
    | settled reply => cases flying
  rw [Multiset.map_add, Multiset.map_add, fate.grip_handles, held, Multiset.singleton_add,
    Multiset.nodup_cons] at apart
  exact apart.1 (Multiset.mem_of_le (busyOf_le others) member)

theorem Part.Flight.order {η : Type} {settings : BackendSettings} {air later : Air} {part : MemoryPart η}
    {fate : MemoryFate η} {others : Multiset Nat} (flight : part.Flight settings air fate later)
    (busy : (air.busy : Multiset Nat) = part.flying.toList + others)
    (free : ∀ number, fate.flying = some number → number ∉ others) :
    (later.busy : Multiset Nat) = fate.flying.toList + others ∧ later.violations = air.violations := by
  have erased (number : Nat) (flying : part.flying = some number) :
      ((air.busy.erase number : List Nat) : Multiset Nat) = others := by
    rw [← Multiset.coe_erase, busy, flying]
    exact Multiset.erase_cons_head number others
  cases flight with
  | kept same => exact ⟨by rw [same, busy], rfl⟩
  | @tookOff after number grounded flying =>
      rw [grounded, Option.toList_none, Multiset.coe_nil, zero_add] at busy
      have idle : number ∉ air.busy := by
        rw [← Multiset.mem_coe, busy]
        exact free number flying
      refine ⟨?_, by simp [Air.takeOff, idle]⟩
      rw [show (Part.Fate.goesOn after).flying = some number from flying, Air.takeOff, ← Multiset.cons_coe, busy]
      rfl
  | landed flying down => exact ⟨by rw [down]; exact (erased _ flying).trans (zero_add _).symm, rfl⟩
  | delivered sending flying => exact ⟨(erased _ flying).trans (zero_add _).symm, rfl⟩

namespace Exchange

variable {η : Type}

def grip (x : MemoryExchange η) : Multiset (MemoryHandle × Bool) := x.total fun _ part => part.grip

def handles (x : MemoryExchange η) : Multiset MemoryHandle :=
  (x.registry.adapters.map Adapter.stock).sum + x.grip.map Prod.fst

structure Suits (part : MemoryPart η) (a : MemoryAdapter) : Prop where
  asks : part.Asks a.backend
  kinds : ∀ handle ∈ part.held, handle.backend = a.backend

theorem suits_fresh {part : MemoryPart η} (fresh : part.isFresh) (a : MemoryAdapter) : Suits part a where
  asks := Part.asks_fresh fresh a.backend
  kinds handle member := by
    rw [Part.held_fresh fresh] at member
    cases member

structure Orderly (x : MemoryExchange η) : Prop where
  wired : ∀ (place : Nat) (a : MemoryAdapter), x.registry.adapters[place]? = some a →
    (∃ settings, a.OnMemory settings) ∧ ∀ handle ∈ a.stock, handle.backend = a.backend
  quiet : x.EachPart fun _ part => part.Quiet
  suits : x.EachPart fun place part => ∀ a, x.registry.adapters[place]? = some a → Suits part a
  placed : x.Placed
  distinct : Distinct x.handles x.registry.shared.connects
  busy : (x.registry.shared.air.busy : Multiset Nat) = busyOf x.grip
  exclusive : x.registry.shared.air.violations = 0

namespace Orderly

variable {x y : MemoryExchange η}

theorem start (process : String) : (Exchange.start MemoryBroker.new process : MemoryExchange η).Orderly where
  wired place a found := by cases found
  quiet number call place part found := by cases found
  suits number call place part found := by cases found
  placed number call place part found := by cases found
  distinct := ⟨Multiset.nodup_zero, fun handle member => absurd member (Multiset.notMem_zero handle)⟩
  busy := rfl
  exclusive := rfl

theorem once (orderly : x.Orderly) : x.registry.shared.air.busy.Nodup := by
  have nodup := orderly.distinct.busy
  rwa [← orderly.busy, Multiset.coe_nodup] at nodup

theorem congr (orderly : x.Orderly) (adapters : y.registry.adapters = x.registry.adapters)
    (errands : y.errands = x.errands)
    (desk : y.registry.shared.reading MemoryBroker.desk = x.registry.shared.reading MemoryBroker.desk) :
    y.Orderly := by
  have connects : y.registry.shared.connects = x.registry.shared.connects := congrArg Prod.snd desk
  have air : y.registry.shared.air = x.registry.shared.air := congrArg Prod.fst desk
  obtain ⟨wired, quiet, suits, placed, distinct, busy, exclusive⟩ := orderly
  simp only [EachPart, Placed, handles, grip, total, ← adapters, ← errands, ← connects, ← air] at *
  exact ⟨wired, quiet, suits, placed, distinct, busy, exclusive⟩

theorem add (orderly : x.Orderly) {a : MemoryAdapter} {settings : BackendSettings} (wired : a.OnMemory settings)
    (empty : a.stock = 0) (adapters : y.registry.adapters = x.registry.adapters ++ [a])
    (errands : y.errands = x.errands)
    (desk : y.registry.shared.reading MemoryBroker.desk = x.registry.shared.reading MemoryBroker.desk) :
    y.Orderly where
  wired place held found := by
    rw [adapters] at found
    rcases getElem?_concat_cases found with found | ⟨-, rfl⟩
    · exact orderly.wired place held found
    · exact ⟨⟨settings, wired⟩, fun handle member => by rw [empty] at member; cases member⟩
  quiet := by
    rw [EachPart, errands]
    exact orderly.quiet
  suits number call place part running known held found := by
    rw [errands] at running
    rw [adapters] at found
    rcases getElem?_concat_cases found with found | ⟨rfl, rfl⟩
    · exact orderly.suits number call place part running known held found
    · exact suits_fresh (orderly.placed number call _ part running known (List.getElem?_eq_none (le_refl _))) held
  placed number call place part running known vacant := by
    rw [errands] at running
    rw [adapters] at vacant
    refine orderly.placed number call place part running known ?_
    rw [List.getElem?_eq_none_iff] at vacant ⊢
    exact (List.length_append.symm ▸ Nat.le_add_right _ _).trans vacant
  distinct := by
    have same : y.handles = x.handles := by simp [handles, grip, total, adapters, errands, empty]
    rw [same, show y.registry.shared.connects = _ from congrArg Prod.snd desk]
    exact orderly.distinct
  busy := by
    rw [grip, total, errands, show y.registry.shared.air = _ from congrArg Prod.fst desk]
    exact orderly.busy
  exclusive := by
    rw [show y.registry.shared.air = _ from congrArg Prod.fst desk]
    exact orderly.exclusive

theorem look (orderly : x.Orderly) {place : Nat} {a next : MemoryAdapter} {later : Shared MemoryBroker}
    (here : x.registry.adapters[place]? = some a) (tended : a.Tended x.registry.shared next later)
    (registry : y.registry = { x.registry with adapters := x.registry.adapters.set place next, shared := later })
    (errands : y.errands = x.errands) : y.Orderly := by
  obtain ⟨⟨settings, wired⟩, kinds⟩ := orderly.wired place a here
  have transport : next.transport = a.transport := by cases tended <;> rfl
  have backend : next.backend = a.backend := congrArg Transport.kind transport
  have desk : later.reading MemoryBroker.desk = x.registry.shared.reading MemoryBroker.desk :=
    wired.spares.tended tended
  have connects : y.registry.shared.connects = x.registry.shared.connects := by
    rw [registry]
    exact congrArg Prod.snd desk
  have air : y.registry.shared.air = x.registry.shared.air := by
    rw [registry]
    exact congrArg Prod.fst desk
  have adapters : y.registry.adapters = x.registry.adapters.set place next := by rw [registry]
  have grip : y.grip = x.grip := by rw [Exchange.grip, total, errands, Exchange.grip, total]
  constructor
  case wired =>
    intro there held found
    rw [adapters] at found
    rcases getElem?_set_cases found with ⟨-, rfl⟩ | ⟨-, found⟩
    · refine ⟨⟨settings, transport.trans wired⟩, ?_⟩
      intro handle member
      rw [backend]
      exact kinds handle (Multiset.mem_of_le tended.stock member)
    · exact orderly.wired there held found
  case quiet =>
    rw [EachPart, errands]
    exact orderly.quiet
  case suits =>
    intro number call there part running known held found
    rw [errands] at running
    rw [adapters] at found
    rcases getElem?_set_cases found with ⟨rfl, rfl⟩ | ⟨-, found⟩
    · obtain ⟨asks, kinds⟩ := orderly.suits number call there part running known a here
      exact ⟨backend ▸ asks, backend ▸ kinds⟩
    · exact orderly.suits number call there part running known held found
  case placed =>
    intro number call there part running known vacant
    rw [errands] at running
    rw [adapters, List.getElem?_eq_none_iff, List.length_set, ← List.getElem?_eq_none_iff] at vacant
    exact orderly.placed number call there part running known vacant
  case distinct =>
    obtain ⟨others, before, after⟩ := sum_map_set Adapter.stock here
    rw [connects]
    refine orderly.distinct.fewer ?_
    rw [handles, handles, grip, adapters, before, after]
    exact add_le_add_left (add_le_add_left tended.stock others) _
  case busy =>
    rw [grip, air]
    exact orderly.busy
  case exclusive =>
    rw [air]
    exact orderly.exclusive

theorem act (orderly : x.Orderly) {number place : Nat} {prompt : Prompt} 
    {call : Call MemoryBroker MemoryHandle Nat MemoryCall η}
    {errand : Errand MemoryBroker MemoryHandle Nat MemoryCall η} {part : MemoryPart η} {a next : MemoryAdapter}
    {later : Shared MemoryBroker} {fate : MemoryFate η}
    (found : x.errands[number]? = some (.running call)) (known : call.part? = some (place, part))
    (here : x.registry.adapters[place]? = some a)
    (deed : part.Deed x.now a x.registry.shared prompt fate next later) (succeeds : call.Succeeds place fate errand)
    (registry : y.registry = { x.registry with adapters := x.registry.adapters.set place next, shared := later })
    (errands : y.errands = x.errands.set number errand)
    (quiet : y.EachPart fun _ part => part.Quiet) (placed : y.Placed)
    (suits : y.EachPart fun place part => ∀ a, y.registry.adapters[place]? = some a → Suits part a) : y.Orderly := by
  obtain ⟨⟨settings, wired⟩, kinds⟩ := orderly.wired place a here
  have partQuiet := orderly.quiet number call place part found known
  have partSuits := orderly.suits number call place part found known a here
  have blank (place : Nat) (part : MemoryPart η) (fresh : part.isFresh) : part.grip = 0 := Part.grip_fresh fresh
  obtain ⟨idle, stockBefore, stockAfter⟩ := sum_map_set Adapter.stock here
  obtain ⟨others, gripBefore, gripAfter⟩ := total_acted _ blank found known succeeds errands
  rw [Part.Fate.share_grip] at gripAfter
  have adapters : y.registry.adapters = x.registry.adapters.set place next := by rw [registry]
  have shared : y.registry.shared = later := by rw [registry]
  have before : x.handles = idle + others.map Prod.fst + (a.stock + part.held) := by
    rw [handles, grip, stockBefore, gripBefore, Multiset.map_add, part.grip_handles]
    abel
  have after : y.handles = idle + others.map Prod.fst + (next.stock + fate.held) := by
    rw [handles, grip, adapters, stockAfter, gripAfter, Multiset.map_add, fate.grip_handles]
    abel
  have busy := orderly.busy
  rw [grip, gripBefore, busyOf_add, part.busy_grip] at busy
  have flight := deed.flight wired partQuiet orderly.once
  obtain ⟨supplies, -⟩ := deed.supplies wired partQuiet partSuits.asks
  have distinct : Distinct y.handles y.registry.shared.connects := by
    rw [after, shared]
    exact supplies.distinct (before ▸ orderly.distinct)
  have order := flight.order busy fun number flying => by
    rw [handles, grip, gripAfter] at distinct
    exact distinct.free flying
  refine ⟨?_, quiet, suits, placed, distinct, ?_, ?_⟩
  · intro there held found
    rw [adapters] at found
    rcases getElem?_set_cases found with ⟨-, rfl⟩ | ⟨-, found⟩
    · refine ⟨⟨settings, deed.wiring.2.trans wired⟩, ?_⟩
      intro handle member
      have backend : held.backend = a.backend := congrArg Transport.kind deed.wiring.2
      rw [backend]
      refine supplies.kinds (fun handle member => ?_) handle (Multiset.mem_add.2 (.inl member))
      rcases Multiset.mem_add.1 member with member | member
      · exact kinds handle member
      · exact partSuits.kinds handle member
    · exact orderly.wired there held found
  · rw [shared, order.1, grip, gripAfter, busyOf_add, fate.busy_grip]
  · rw [shared, order.2, orderly.exclusive]

theorem still (orderly : x.Orderly) (registry : y.registry = x.registry) (grip : y.grip = x.grip)
    (quiet : y.EachPart fun _ part => part.Quiet) (placed : y.Placed)
    (suits : y.EachPart fun place part => ∀ a, y.registry.adapters[place]? = some a → Suits part a) : y.Orderly where
  wired := by rw [registry]; exact orderly.wired
  quiet := quiet
  suits := suits
  placed := placed
  distinct := by rw [handles, grip, registry]; exact orderly.distinct
  busy := by rw [grip, registry]; exact orderly.busy
  exclusive := by rw [registry]; exact orderly.exclusive

theorem tend (orderly : x.Orderly) {incident : Incident η}
    (tended : x.registry.Tended incident.move y.registry) (errands : y.errands = x.errands) :
    y.Orderly ∧ y.registry.shared.reading MemoryBroker.desk = x.registry.shared.reading MemoryBroker.desk := by
  generalize same : y.registry = registry at tended
  rw [← same]
  cases tended with
  | enlisted | reported =>
      have desk : y.registry.shared.reading MemoryBroker.desk = x.registry.shared.reading MemoryBroker.desk :=
        same ▸ rfl
      exact ⟨orderly.congr (by rw [same]) errands desk, desk⟩
  | @added connector name settings bucket names asked =>
      cases incident with
      | register name settings =>
          cases asked
          have desk : y.registry.shared.reading MemoryBroker.desk = x.registry.shared.reading MemoryBroker.desk :=
            same ▸ rfl
          have wired : (Adapter.new name (.ofSettings MemoryBroker.connector settings) settings.pool
              settings.destination (Registry.defaultSource settings) bucket).OnMemory settings := rfl
          exact ⟨orderly.add wired rfl (by rw [same]) errands desk, desk⟩
      | publish | check | consume | checkAll | step | abandon | closeIdle | close | shutdown | reset | elapse
      | fault => cases asked
  | @changed place a next later here tended =>
      obtain ⟨⟨settings, wired⟩, -⟩ := orderly.wired place a here
      refine ⟨orderly.look here tended same errands, ?_⟩
      rw [same]
      exact wired.spares.tended tended
  | disturbed asked =>
      cases incident with
      | fault injected =>
          cases asked
          have desk : y.registry.shared.reading MemoryBroker.desk = x.registry.shared.reading MemoryBroker.desk :=
            same ▸ injected.apply_desk _
          exact ⟨orderly.congr (by rw [same]) errands desk, desk⟩
      | register | publish | check | consume | checkAll | step | abandon | closeIdle | close | shutdown | reset
      | elapse => cases asked

theorem tend_all (orderly : x.Orderly) {incident : Incident η}
    (tended : Relation.ReflTransGen (Registry.Tended incident.move) x.registry y.registry)
    (errands : y.errands = x.errands) :
    y.Orderly ∧ y.registry.shared.reading MemoryBroker.desk = x.registry.shared.reading MemoryBroker.desk := by
  obtain ⟨now, registry, errands, unreported⟩ := y
  obtain rfl := errands
  change Relation.ReflTransGen _ _ registry at tended
  induction tended with
  | refl => exact ⟨orderly.congr rfl rfl rfl, rfl⟩
  | tail _ last ih =>
      have tended := tend (y := ⟨now, _, x.errands, unreported⟩) ih.1 last rfl
      exact ⟨tended.1, tended.2.trans ih.2⟩

theorem parts (orderly : x.Orderly) {incident : Incident η} (change : x.Change incident.move y) :
    y.EachPart fun place part => part.Quiet ∧ ∀ a, y.registry.adapters[place]? = some a → Suits part a := by
  have before : x.EachPart fun place part => part.Quiet ∧ (x.registry.adapters[place]? = none → part.isFresh) ∧
      ∀ a, x.registry.adapters[place]? = some a → Suits part a :=
    fun number call place part found known => ⟨orderly.quiet number call place part found known,
      orderly.placed number call place part found known, orderly.suits number call place part found known⟩
  refine before.change change (fun place part begins => ?_) (fun place part known => ?_) ?_
  · exact ⟨begins.quiet, fun a found => suits_fresh begins.isFresh a⟩
  · obtain ⟨quiet, fresh, suits⟩ := known
    refine ⟨quiet, ?_⟩
    intro b found
    cases here : x.registry.adapters[place]? with
    | none => exact suits_fresh (fresh here) b
    | some a =>
        obtain ⟨c, there, -, transport, -⟩ := change.extends place a here
        rw [found] at there
        cases there
        have backend : b.backend = a.backend := congrArg Transport.kind transport
        obtain ⟨asks, kinds⟩ := suits a here
        exact ⟨backend ▸ asks, backend ▸ kinds⟩
  · intro prompt place part after a next later here deed there known
    obtain ⟨quiet, -, suits⟩ := known
    obtain ⟨⟨settings, wired⟩, kinds⟩ := orderly.wired place a here
    obtain ⟨asks, held⟩ := suits a here
    obtain ⟨supplies, onward⟩ := deed.supplies wired quiet asks
    have backend : next.backend = a.backend := congrArg Transport.kind deed.wiring.2
    refine ⟨(onward after rfl).2, ?_⟩
    intro b found
    rw [there] at found
    cases found
    refine ⟨backend ▸ (onward after rfl).1, ?_⟩
    intro handle member
    rw [backend]
    refine supplies.kinds (fun handle member => ?_) handle (Multiset.mem_add.2 (.inr member))
    rcases Multiset.mem_add.1 member with member | member
    · exact kinds handle member
    · exact held handle member

theorem perform (orderly : x.Orderly) (incident : Incident η) : (x.perform incident.move).Orderly := by
  have change := x.perform_change incident.move
  generalize x.perform incident.move = y at change
  have placed := orderly.placed.change change
  have parts := orderly.parts change
  have quiet : y.EachPart fun _ part => part.Quiet := fun number call place part found known =>
    (parts number call place part found known).1
  have suits : y.EachPart fun place part => ∀ a, y.registry.adapters[place]? = some a → Suits part a :=
    fun number call place part found known => (parts number call place part found known).2
  have blank (place : Nat) (part : MemoryPart η) (fresh : part.isFresh) : part.grip = 0 := Part.grip_fresh fresh
  cases change with
  | tended unprompted errands tended => exact (orderly.tend_all tended errands).1
  | began unprompted begins checks registry errands =>
      exact orderly.still registry
        (total_began _ blank (fun place part known => (begins place part known).isFresh) errands) quiet placed suits
  | passed prompted idle registry errands => exact orderly.congr (by rw [registry]) errands (by rw [registry])
  | left prompted found vacant leaves registry errands =>
      exact orderly.still registry (total_left _ blank orderly.placed found vacant leaves errands) quiet placed suits
  | acted prompted found known here deed succeeds registry errands =>
      exact orderly.act found known here deed succeeds registry errands quiet placed suits

end Orderly

end Exchange

end Dispatch
