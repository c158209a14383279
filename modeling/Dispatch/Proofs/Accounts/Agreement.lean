import Dispatch.Proofs.Accounts.Tallies
import Dispatch.Proofs.Delivery.Messages

/-!
# Handles, pools, counters and notes agree

Whatever calls, owners, faults and shutdowns did to the adapters of a registry: once no call is in flight, the
broker, the pools, the metrics and the log have counted the same connections. And once the registry was shut down,
every handle that the broker gave out has been closed.
-/

set_option autoImplicit false

namespace Dispatch

/-! ## Pools that stay shut -/

namespace Registry

variable {ε ρ σ κ η : Type} {r next : Registry ε ρ σ κ} {move : Exchange.Move ε ρ σ κ η}

def AllShut (r : Registry ε ρ σ κ) : Prop :=
  ∀ (place : Nat) (a : Adapter ε ρ σ κ), r.adapters[place]? = some a → a.pool.Shut

theorem Tended.stays_shut (tended : r.Tended move next)
    (unregistered : ∀ connector name settings, move ≠ .register connector name settings) (shut : r.AllShut) :
    next.AllShut := by
  cases tended with
  | enlisted | reported | disturbed => exact shut
  | added bucket names asked => exact absurd asked (unregistered _ _ _)
  | changed here tended =>
      intro place a found
      rcases getElem?_set_cases found with ⟨-, rfl⟩ | ⟨-, found⟩
      · have before := shut _ _ here
        cases tended with
        | closeIdle => exact Pool.shut_closeIdle before.toBarred
        | shutdown => exact Pool.shut_shutdown _
        | reset => exact before
      · exact shut place a found

theorem allShut_shutdown (r : Registry ε ρ σ κ)
    (named : ∀ (place : Nat) (a : Adapter ε ρ σ κ), r.adapters[place]? = some a → r.names.lookup a.name = some place) :
    r.shutdown.AllShut := by
  have each (names : List (String × Nat)) (r : Registry ε ρ σ κ) (place : Nat)
      (named : place ∈ names.map Prod.snd ∨ ∀ b, r.adapters[place]? = some b → b.pool.Shut) :
      ∀ a, (names.foldl (fun r entry => r.change entry.2 Adapter.shutdown) r).adapters[place]? = some a →
        a.pool.Shut := by
    induction names generalizing r with
    | nil => exact named.resolve_left List.not_mem_nil
    | cons entry names ih =>
        refine ih _ ?_
        by_cases later : place ∈ names.map Prod.snd
        · exact .inl later
        refine .inr fun b found => ?_
        change (r.change entry.2 Adapter.shutdown).adapters[place]? = some b at found
        unfold Registry.change at found
        split at found
        · rename_i nobody
          rcases named with named | shut
          · obtain rfl : place = entry.2 := by simpa [later] using named
            rw [nobody] at found
            cases found
          · exact shut b found
        · rcases getElem?_set_cases found with ⟨-, rfl⟩ | ⟨apart, found⟩
          · exact Pool.shut_shutdown _
          · exact (named.resolve_left (by simp [later, apart])) b found
  intro place a found
  refine each r.names r place ?_ a found
  cases here : r.adapters[place]? with
  | none => exact .inr fun b found => by cases found
  | some b =>
      obtain ⟨before, after, names, -⟩ := List.lookup_eq_some_iff.1 (named place b here)
      exact .inl (by simp [names])

end Registry

/-! ## Occurrences -/

def Incident.Tactful {η : Type} : Incident η → Prop
  | .consume _ _ bystander => bystander.handler.Spares MemoryBroker.closedHandles
  | _ => True

structure Occurrence (η : Type) where
  incident : Incident η
  tactful : incident.Tactful

def Occurrence.shutdown {η : Type} : Occurrence η := ⟨.shutdown, trivial⟩

theorem Part.Begins.tactful {η : Type} (occurrence : Occurrence η) {place : Nat} {part : MemoryPart η}
    (begins : part.Begins occurrence.incident.move place) : part.Tactful := by
  obtain ⟨incident, tactful⟩ := occurrence
  cases begins with
  | publishing | checking => trivial
  | consuming asked =>
      cases incident with
      | consume place source bystander =>
          cases asked
          exact fun delivery => ((bystander.quiet delivery).comp Prod.snd).pair (tactful delivery)
      | register | publish | check | checkAll | step | abandon | closeIdle | close | shutdown | reset | elapse
      | fault => cases asked

namespace Exchange

variable {η : Type} {x y : MemoryExchange η}

def isConfirming (x : MemoryExchange η) (number : Nat) : Bool :=
  (x.part? number).any fun entry => 0 < entry.2.awaiting.card

/-- What an occurrence does. A call can be given up only where it waits, and it does not wait for the confirmation of
its handle (`Tallied.confirming_moves`). -/
def undergo (x : MemoryExchange η) (occurrence : Occurrence η) : MemoryExchange η :=
  match occurrence.incident with
  | .abandon number => if x.isConfirming number then x else x.perform (.abandon number)
  | incident => x.perform incident.move

def through (x : MemoryExchange η) (occurrences : List (Occurrence η)) : MemoryExchange η :=
  occurrences.foldl undergo x

def Gentle (x : MemoryExchange η) (move : MemoryMove η) : Prop :=
  ∀ number place part, move.prompt? = some (number, .giveUp) → x.part? number = some (place, part) → part.awaiting = 0

theorem undergo_cases (x : MemoryExchange η) (occurrence : Occurrence η) :
    x.undergo occurrence = x ∨
      x.Gentle occurrence.incident.move ∧ x.undergo occurrence = x.perform occurrence.incident.move := by
  obtain ⟨incident, tactful⟩ := occurrence
  cases incident with
  | abandon number =>
      cases confirming : x.isConfirming number with
      | true => exact .inl (if_pos confirming)
      | false =>
          refine .inr ⟨fun other place part prompted known => ?_, if_neg (by simp [confirming])⟩
          cases prompted
          simpa [isConfirming, known, Multiset.card_eq_zero] using confirming
  | register | publish | check | consume | checkAll | step | closeIdle | close | shutdown | reset | elapse | fault =>
      exact .inr ⟨fun number place part prompted => (by cases prompted), rfl⟩

/-! ## The invariant -/

structure Tallied (x : MemoryExchange η) : Prop where
  registry : x.registry.Tallied (x.total fun _ part => part.held)
  tactful : x.EachPart fun _ part => part.Tactful
  placed : x.Placed
  sound : x.Sound

namespace Tallied

theorem start (process : String) : (Exchange.start MemoryBroker.new process : MemoryExchange η).Tallied where
  registry := .start process
  tactful number call place part found := by cases found
  placed number call place part found := by cases found
  sound := .start _ _

theorem deals (tallied : x.Tallied) {move : MemoryMove η} (gentle : x.Gentle move) {number place : Nat}
    {prompt : Prompt} {call : Call MemoryBroker MemoryHandle Nat MemoryCall η} {part : MemoryPart η}
    {a next : MemoryAdapter} {later : Shared MemoryBroker} {fate : MemoryFate η}
    (prompted : move.prompt? = some (number, prompt)) (found : x.errands[number]? = some (.running call))
    (known : call.part? = some (place, part)) (here : x.registry.adapters[place]? = some a)
    (deed : part.Deed x.now a x.registry.shared prompt fate next later) :
    a.Dealing x.registry.shared part.held next later fate.held := by
  obtain ⟨⟨settings, wired⟩, kind⟩ := tallied.registry.wired place a here
  refine deed.dealing wired kind (tallied.tactful number call place part found known) ?_
  rintro rfl
  exact gentle number place part prompted (part?_iff.2 ⟨call, found, known⟩)

theorem change (tallied : x.Tallied) {occurrence : Occurrence η} (gentle : x.Gentle occurrence.incident.move)
    (change : x.Change occurrence.incident.move y) (sound : y.Sound) : y.Tallied := by
  have tactful : y.EachPart fun _ part => part.Tactful :=
    tallied.tactful.change change (fun place part begins => begins.tactful occurrence) (fun _ _ tactful => tactful)
      fun _ deed _ tactful => deed.tactful tactful
  have placed := tallied.placed.change change
  have blank (place : Nat) (part : MemoryPart η) (fresh : part.isFresh) : part.held = 0 := Part.held_fresh fresh
  refine ⟨?_, tactful, placed, sound⟩
  cases change with
  | tended unprompted errands tended =>
      rw [total, errands]
      exact tallied.registry.tend_all tended
  | began unprompted begins checks registry errands =>
      rw [registry, total_began _ blank (fun place part known => (begins place part known).isFresh) errands]
      exact tallied.registry
  | passed prompted idle registry errands =>
      rw [registry, total, errands]
      exact tallied.registry
  | left prompted found vacant leaves registry errands =>
      rw [registry, total_left _ blank tallied.placed found vacant leaves errands]
      exact tallied.registry
  | @acted number prompt call errand place part a next later fate prompted found known here deed succeeds registry
      errands =>
      have dealing := tallied.deals gentle prompted found known here deed
      obtain ⟨others, before, after⟩ := total_acted _ blank found known succeeds errands
      have old := tallied.registry
      rw [before] at old
      rw [registry, after, fate.share_held]
      exact old.deal here dealing

theorem stays_shut (tallied : x.Tallied) {move : MemoryMove η} (gentle : x.Gentle move) (change : x.Change move y)
    (unregistered : ∀ connector name settings, move ≠ .register connector name settings)
    (shut : x.registry.AllShut) : y.registry.AllShut := by
  cases change with
  | tended unprompted errands tended =>
      clear errands
      generalize y.registry = registry at tended
      induction tended with
      | refl => exact shut
      | tail _ last ih => exact last.stays_shut unregistered ih
  | began _ _ _ registry | passed _ _ registry | left _ _ _ _ registry =>
      rw [registry]
      exact shut
  | acted prompted found known here deed succeeds registry errands =>
      have dealing := tallied.deals gentle prompted found known here deed
      rw [registry]
      intro place b there
      rcases getElem?_set_cases there with ⟨-, rfl⟩ | ⟨-, there⟩
      · exact dealing.shut (shut _ _ here)
      · exact shut place b there

theorem confirming_moves (tallied : x.Tallied) {number : Nat} (confirming : x.isConfirming number) :
    ∃ place part a, x.part? number = some (place, part) ∧ x.registry.adapters[place]? = some a ∧
      ∀ cancelled, ∃ after, (part.step a x.registry.shared x.now cancelled).turn = .moved after := by
  obtain ⟨⟨place, part⟩, known, waits⟩ := (Option.any_eq_true _ _).1 confirming
  have awaiting : part.awaiting ≠ 0 := Multiset.card_pos.1 (of_decide_eq_true waits)
  obtain ⟨call, found, doing⟩ := part?_iff.1 known
  cases here : x.registry.adapters[place]? with
  | none =>
      have fresh := tallied.placed number call place part found doing here
      rcases Part.fresh_cases fresh with ⟨message, rfl⟩ | rfl | ⟨source, handler, rfl⟩ <;> exact absurd rfl awaiting
  | some a =>
      obtain ⟨⟨settings, wired⟩, kind⟩ := tallied.registry.wired place a here
      exact ⟨place, part, a, known, here, fun cancelled =>
        (part.awaiting_moves wired kind x.registry.shared x.now cancelled).resolve_left awaiting⟩

theorem undergo (tallied : x.Tallied) (occurrence : Occurrence η) : (x.undergo occurrence).Tallied := by
  rcases x.undergo_cases occurrence with same | ⟨gentle, same⟩
  · rw [same]
    exact tallied
  · rw [same]
    exact tallied.change gentle (x.perform_change _) (tallied.sound.perform _)

theorem through (tallied : x.Tallied) (occurrences : List (Occurrence η)) : (x.through occurrences).Tallied := by
  induction occurrences generalizing x with
  | nil => exact tallied
  | cons occurrence occurrences ih => exact ih (tallied.undergo occurrence)

end Tallied

/-! ## No call in flight -/

end Exchange

def Errand.isOver {ε ρ σ κ η : Type} : Errand ε ρ σ κ η → Bool
  | .running _ => false
  | .ended _ => true

namespace Exchange

def isIdle {ε ρ σ κ η : Type} (x : Exchange ε ρ σ κ η) : Bool := x.errands.all Errand.isOver

variable {η : Type} {x : MemoryExchange η}

theorem ended_of_isIdle (idle : x.isIdle) {errand : Errand MemoryBroker MemoryHandle Nat MemoryCall η}
    (member : errand ∈ x.errands) : ∃ reply, errand = .ended reply := by
  have ended := List.all_eq_true.1 idle errand member
  cases errand with
  | running call => cases ended
  | ended reply => exact ⟨reply, rfl⟩

namespace Tallied

theorem unheld (idle : x.isIdle) : x.total (fun _ part => part.held) = 0 := by
  refine List.sum_eq_zero fun held member => ?_
  obtain ⟨errand, present, rfl⟩ := List.mem_map.1 member
  obtain ⟨reply, rfl⟩ := ended_of_isIdle idle present
  rfl

theorem created (tallied : x.Tallied) (idle : x.isIdle) {place : Nat} {a : MemoryAdapter}
    (here : x.registry.adapters[place]? = some a) : a.pool.created = a.pool.closed + a.stock.card := by
  obtain ⟨policy, connect, log, reached⟩ := (tallied.sound.tracks place a here).housed
  have balanced := reached.balanced
  have unheld : Hall.held ⟨a.pool, (x.standings place : Multiset (Standing MemoryHandle)), log⟩ = 0 := by
    refine Multiset.sum_eq_zero fun held member => ?_
    obtain ⟨standing, standings, rfl⟩ := Multiset.mem_map.1 member
    obtain ⟨errand, present, rfl⟩ := List.mem_map.1 (Multiset.mem_coe.1 standings)
    obtain ⟨reply, rfl⟩ := ended_of_isIdle idle present
    rfl
  have places := congrArg Multiset.card balanced.places
  rw [unheld, add_zero, Multiset.card_add, Multiset.coe_card, Multiset.coe_card (PoolEvent.openings log)] at places
  rw [balanced.created, balanced.closed, ← places, Nat.add_comm]
  rfl

theorem connects (tallied : x.Tallied) (idle : x.isIdle) :
    x.registry.shared.connects = (x.registry.adapters.map (·.pool.created)).sum := by
  obtain ⟨count, numbers⟩ := tallied.registry.accounts
  rw [unheld idle, add_zero] at numbers
  have card := congrArg Multiset.card numbers
  rw [Multiset.card_add, Multiset.card_map, Multiset.coe_card, Multiset.coe_card, List.length_range', count] at card
  have created : x.registry.adapters.map (·.pool.created) =
      x.registry.adapters.map fun a => a.pool.closed + a.stock.card := by
    refine List.map_congr_left fun a member => ?_
    obtain ⟨place, here⟩ := List.getElem?_of_mem member
    exact tallied.created idle here
  have stocks : (x.registry.adapters.map Adapter.stock).sum.card = (x.registry.adapters.map (·.stock.card)).sum :=
    (map_list_sum Multiset.cardHom _).trans (congrArg List.sum List.map_map)
  rw [created, List.sum_map_add, ← stocks, card]

theorem counters (tallied : x.Tallied) (kind : Backend) :
    let adapters := x.registry.adapters.filter (·.backend = kind)
    let counters := x.registry.shared.metrics.countersOf kind.name
    counters.opened = (adapters.map (·.pool.created)).sum ∧ counters.closed = (adapters.map (·.pool.closed)).sum := by
  intro adapters counters
  have counted := tallied.registry.counted kind
  rw [List.sum_map_ite, List.map_const', List.sum_replicate, nsmul_zero, add_zero] at counted
  have read : (x.registry.shared.ledger.tally kind.name).getD 0 = (counters.opened, counters.closed) := by
    dsimp only [counters, Shared.ledger, MetricsRegistry.countersOf]
    cases x.registry.shared.metrics.counters.lookup kind.name <;> rfl
  have split : (adapters.map fun a => a.pool.counts).sum =
      ((adapters.map (·.pool.created)).sum, (adapters.map (·.pool.closed)).sum) :=
    Prod.ext ((map_list_sum (AddMonoidHom.fst Nat Nat) _).trans (congrArg List.sum List.map_map))
      ((map_list_sum (AddMonoidHom.snd Nat Nat) _).trans (congrArg List.sum List.map_map))
  exact Prod.ext_iff.1 (read.symm.trans (counted.trans split))

end Tallied

/-! ## Agreement -/

structure Agrees (x : MemoryExchange η) : Prop where
  connects : x.broker.connects = (x.registry.adapters.map (·.pool.created)).sum
  closed : x.broker.closed = (x.registry.adapters.map (·.pool.closed)).sum
  counters : ∀ kind : Backend,
    let adapters := x.registry.adapters.filter (·.backend = kind)
    let counters := x.registry.shared.metrics.countersOf kind.name
    counters.opened = (adapters.map (·.pool.created)).sum ∧ counters.closed = (adapters.map (·.pool.closed)).sum
  notes : x.registry.shared.surroundings.notes = (x.registry.adapters.map fun a =>
    .replicate a.pool.created (a.connectionEvent "connection opened") +
      .replicate a.pool.closed (a.connectionEvent "connection closed")).sum

theorem Tallied.agrees (tallied : x.Tallied) (idle : x.isIdle) : x.Agrees where
  connects := tallied.connects idle
  closed := tallied.registry.accounts.count
  counters := tallied.counters
  notes := tallied.registry.noted

def ShutDown (occurrences : List (Occurrence η)) : Prop :=
  ∃ before after, occurrences = before ++ .shutdown :: after ∧
    ∀ occurrence ∈ after, ∀ name settings, occurrence.incident ≠ .register name settings

theorem Tallied.stays_shut_through (tallied : x.Tallied) {occurrences : List (Occurrence η)}
    (unregistered : ∀ occurrence ∈ occurrences, ∀ name settings, occurrence.incident ≠ .register name settings)
    (shut : x.registry.AllShut) : (x.through occurrences).registry.AllShut := by
  induction occurrences generalizing x with
  | nil => exact shut
  | cons occurrence occurrences ih =>
      refine ih (tallied.undergo occurrence) (fun other member => unregistered other (List.mem_cons_of_mem _ member)) ?_
      rcases x.undergo_cases occurrence with same | ⟨gentle, same⟩
      · rw [same]
        exact shut
      · rw [same]
        refine tallied.stays_shut gentle (x.perform_change _) (fun connector name settings asked => ?_) shut
        have other := unregistered occurrence List.mem_cons_self
        cases incident : occurrence.incident with
        | register name settings => exact other name settings incident
        | publish | check | consume | checkAll | step | abandon | closeIdle | close | shutdown | reset | elapse
        | fault =>
            rw [incident] at asked
            cases asked

def after (process : String) (occurrences : List (Occurrence η)) : MemoryExchange η :=
  (Exchange.start MemoryBroker.new process).through occurrences

theorem allShut_after (process : String) {occurrences : List (Occurrence η)} (shutDown : ShutDown occurrences) :
    (after process occurrences).registry.AllShut := by
  obtain ⟨before, later, rfl, unregistered⟩ := shutDown
  have earlier : (after process before).Tallied := (Tallied.start process).through before
  rw [after, through, List.foldl_append, List.foldl_cons]
  refine (earlier.undergo .shutdown).stays_shut_through unregistered ?_
  exact Registry.allShut_shutdown _ fun place a here => (earlier.sound.tracks place a here).wired

theorem Tallied.all_closed (tallied : x.Tallied) (idle : x.isIdle) (shut : x.registry.AllShut) :
    x.broker.closedHandles.Perm (List.range' 1 x.broker.connects) := by
  have numbers := tallied.registry.accounts.numbers
  have stocks : (x.registry.adapters.map Adapter.stock).sum = 0 := by
    refine List.sum_eq_zero fun stock member => ?_
    obtain ⟨a, present, rfl⟩ := List.mem_map.1 member
    obtain ⟨place, here⟩ := List.getElem?_of_mem present
    rw [Adapter.stock, Pool.stock, (shut place a here).empty]
    rfl
  rw [stocks, unheld idle, add_zero, Multiset.map_zero, add_zero] at numbers
  exact Multiset.coe_eq_coe.1 numbers

/-- While no call is in flight, the broker, the pools, the metrics and the log agree on the connections, whatever
occurred. From a shutdown of the registry on, every handle is closed then, each of them once. -/
theorem connections_agree (process : String) (occurrences : List (Occurrence η))
    (idle : (after process occurrences).isIdle) :
    (after process occurrences).Agrees ∧
      (ShutDown occurrences → (after process occurrences).broker.closedHandles.Perm
        (List.range' 1 (after process occurrences).broker.connects)) := by
  have tallied : (after process occurrences).Tallied := (Tallied.start process).through occurrences
  exact ⟨tallied.agrees idle, fun shutDown => tallied.all_closed idle (allShut_after process shutDown)⟩

def oneVisit : List (Occurrence Unit) :=
  [⟨.register "orders" (.amqp .standard), trivial⟩,
    ⟨.publish 0 (oneRequest.outgoing ⟨.empty, .forward, none⟩), trivial⟩, ⟨.check 0, trivial⟩] ++
    List.replicate 12 ⟨.step 0 false, trivial⟩ ++ [⟨.step 1 false, trivial⟩, ⟨.abandon 1, trivial⟩]

def oneVisitClosed : List (Occurrence Unit) := oneVisit ++ [.shutdown]

theorem connections_agree_visited :
    (after "shop" oneVisitClosed).isIdle ∧ (after "shop" oneVisitClosed).Agrees ∧
      (after "shop" oneVisitClosed).broker.closedHandles.Perm [1] := by
  have idle : (after "shop" oneVisitClosed).isIdle := rfl
  have connects : (after "shop" oneVisitClosed).broker.connects = 1 := rfl
  obtain ⟨agrees, closed⟩ := connections_agree "shop" oneVisitClosed idle
  rw [connects] at closed
  exact ⟨idle, agrees, closed ⟨oneVisit, [], rfl, fun occurrence member => by cases member⟩⟩

end Exchange

end Dispatch
