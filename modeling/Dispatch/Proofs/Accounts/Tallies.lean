import Dispatch.Proofs.Accounts.Calls
import Dispatch.Proofs.Publishing.Postings

set_option autoImplicit false

namespace Dispatch

theorem Ledger.tally_book {ε ρ σ κ : Type} (l : Ledger) (a : Adapter ε ρ σ κ) (counts : Nat × Nat) (kind : Backend) :
    (l.book a counts).tally kind.name =
      if a.backend = kind then (l.tally kind.name).map (· + counts) else l.tally kind.name := by
  have same : kind.name = a.backend.name ↔ a.backend = kind :=
    ⟨fun same => (Backend.name_injective same).symm, fun same => by rw [same]⟩
  simp only [book, add, same]

namespace Registry

/-- The ledger has what the pools of a registry count, and their handles and those that calls hold account for all
handles of the broker. -/
structure Tallied (r : Registry MemoryBroker MemoryHandle Nat MemoryCall) (held : Multiset MemoryHandle) : Prop where
  wired : ∀ (place : Nat) (a : MemoryAdapter), r.adapters[place]? = some a →
    (∃ settings, a.OnMemory settings) ∧ a.pool.connect.kind = .connect
  listed : ∀ (place : Nat) (a : MemoryAdapter), r.adapters[place]? = some a →
    (r.shared.ledger.tally a.backend.name).isSome
  counted : ∀ kind : Backend, (r.shared.ledger.tally kind.name).getD 0 =
    (r.adapters.map fun a => if a.backend = kind then a.pool.counts else 0).sum
  noted : r.shared.ledger.notes = (r.adapters.map fun a => a.notes a.pool.counts).sum
  accounts : r.shared.surroundings.outside.Accounts (r.adapters.map (·.pool.closed)).sum
    ((r.adapters.map Adapter.stock).sum + held)

namespace Tallied

variable {η : Type} {r next : Registry MemoryBroker MemoryHandle Nat MemoryCall} {held : Multiset MemoryHandle}

theorem start (process : String) : Tallied (.new (.new MemoryBroker.new process)) 0 where
  wired place a found := by cases found
  listed place a found := by cases found
  counted kind := rfl
  noted := rfl
  accounts := ⟨rfl, rfl⟩

theorem deal {place : Nat} {a after : MemoryAdapter} {later : Shared MemoryBroker}
    {own left others : Multiset MemoryHandle} (tallied : r.Tallied (own + others))
    (here : r.adapters[place]? = some a) (dealing : a.Dealing r.shared own after later left) :
    Tallied { r with adapters := r.adapters.set place after, shared := later } (left + others) := by
  obtain ⟨counts, counted, booked⟩ := dealing.booked
  have backend : after.backend = a.backend := congrArg Transport.kind dealing.transport
  have tally (kind : Backend) := r.shared.ledger.tally_book a counts kind
  rw [← booked] at tally
  constructor
  case wired =>
    intro there b found
    rcases getElem?_set_cases found with ⟨-, rfl⟩ | ⟨-, found⟩
    · obtain ⟨⟨settings, wired⟩, kind⟩ := tallied.wired place a here
      exact ⟨⟨settings, dealing.transport.trans wired⟩, by rw [dealing.connect, kind]⟩
    · exact tallied.wired there b found
  case listed =>
    intro there b found
    have old : (r.shared.ledger.tally b.backend.name).isSome := by
      rcases getElem?_set_cases found with ⟨-, rfl⟩ | ⟨-, found⟩
      · rw [backend]
        exact tallied.listed place a here
      · exact tallied.listed there b found
    dsimp only
    rw [tally]
    split
    · rw [Option.isSome_map]
      exact old
    · exact old
  case counted =>
    intro kind
    obtain ⟨others, before, set⟩ :=
      sum_map_set (fun a : MemoryAdapter => if a.backend = kind then a.pool.counts else 0) here
    have old := tallied.counted kind
    rw [before] at old
    dsimp only at old ⊢
    rw [set, tally, backend]
    split
    · rename_i same
      subst same
      obtain ⟨known, tally⟩ := Option.isSome_iff_exists.1 (tallied.listed place a here)
      rw [tally] at old ⊢
      rw [if_pos rfl] at old
      simp only [Option.map_some, Option.getD_some] at old ⊢
      rw [old, counted, add_right_comm]
    · rename_i apart
      rwa [if_neg apart] at old
  case noted =>
    obtain ⟨others, before, set⟩ := sum_map_set (fun a : MemoryAdapter => a.notes a.pool.counts) here
    have notes : after.notes = a.notes := by
      funext counts
      simp only [Adapter.notes, Adapter.connectionEvent, Adapter.backend, dealing.transport, dealing.logLevel]
    have old := tallied.noted
    rw [before] at old
    dsimp only
    rw [set, booked, notes, counted, a.notes_add, Ledger.book, Ledger.add, old, add_right_comm]
  case accounts =>
    obtain ⟨closed, closedBefore, closedAfter⟩ := sum_map_set (fun a : MemoryAdapter => a.pool.closed) here
    obtain ⟨stock, stockBefore, stockAfter⟩ := sum_map_set Adapter.stock here
    have old := tallied.accounts
    rw [closedBefore, stockBefore, add_comm _ closed,
      show a.stock + stock + (own + others) = stock + others + (a.stock + own) by abel] at old
    have new := dealing.handles closed (stock + others) old
    dsimp only
    rw [closedAfter, stockAfter, add_comm _ closed,
      show after.stock + stock + (left + others) = stock + others + (after.stock + left) by abel]
    exact new

theorem silent (tallied : r.Tallied held) {later : Shared MemoryBroker} (silent : r.shared.Silent later) :
    Tallied { r with shared := later } held where
  wired := tallied.wired
  listed := by
    dsimp only
    rw [silent.ledger]
    exact tallied.listed
  counted := by
    dsimp only
    rw [silent.ledger]
    exact tallied.counted
  noted := by
    dsimp only
    rw [silent.ledger]
    exact tallied.noted
  accounts := tallied.accounts.of_register silent.register

theorem enlist (tallied : r.Tallied held) (key : MetricsKey) :
    Tallied { r with shared := { r.shared with metrics := r.shared.metrics.enlist key } } held := by
  have ledger := r.shared.enlist_ledger key
  constructor
  case wired => exact tallied.wired
  case listed =>
    intro place a found
    obtain ⟨known, listed⟩ := Option.isSome_iff_exists.1 (tallied.listed place a found)
    dsimp only
    rw [ledger]
    dsimp only [Ledger.enlist]
    rw [listed]
    rfl
  case counted =>
    intro kind
    dsimp only
    rw [ledger, ← tallied.counted kind]
    dsimp only [Ledger.enlist]
    cases r.shared.ledger.tally kind.name with
    | some known => rfl
    | none =>
        rw [Option.none_or]
        split <;> rfl
  case noted =>
    dsimp only
    rw [ledger]
    exact tallied.noted
  case accounts => exact tallied.accounts

theorem add (tallied : r.Tallied held) {a : MemoryAdapter} {settings : BackendSettings} (wired : a.OnMemory settings)
    (kind : a.pool.connect.kind = .connect) (counts : a.pool.counts = 0) (empty : a.stock = 0)
    (names : List (String × Nat)) {key : MetricsKey} (backend : key.backend = a.backend.name) :
    Tallied { r with
      adapters := r.adapters ++ [a]
      names
      shared := { r.shared with metrics := r.shared.metrics.enlist key } } held := by
  have enlisted := tallied.enlist key
  constructor
  case wired =>
    intro place b found
    rcases getElem?_concat_cases found with found | ⟨-, rfl⟩
    · exact enlisted.wired place b found
    · exact ⟨⟨settings, wired⟩, kind⟩
  case listed =>
    intro place b found
    rcases getElem?_concat_cases found with found | ⟨-, rfl⟩
    · exact enlisted.listed place b found
    · dsimp only
      rw [r.shared.enlist_ledger, backend]
      simp [Ledger.enlist]
  case counted =>
    intro kind
    rw [List.map_append, List.sum_append, enlisted.counted kind]
    simp [counts]
  case noted =>
    rw [List.map_append, List.sum_append, enlisted.noted]
    simp [counts]
  case accounts =>
    have closed : a.pool.closed = 0 := congrArg Prod.snd counts
    have accounts := enlisted.accounts
    rw [List.map_append, List.sum_append, List.map_append, List.sum_append]
    simpa [closed, empty] using accounts

theorem tend {η : Type} (tallied : r.Tallied held) {incident : Incident η}
    (tended : r.Tended incident.move next) : next.Tallied held := by
  cases tended with
  | enlisted key => exact tallied.enlist key
  | reported about =>
      refine tallied.silent (.report r.shared ?_)
      rcases about with about | about <;> simp [Event.isConnection, about]
  | @added connector name settings bucket names asked =>
      cases incident with
      | register name settings =>
          cases asked
          have wired : (Adapter.new name (.ofSettings MemoryBroker.connector settings) settings.pool
              settings.destination (Registry.defaultSource settings) bucket).OnMemory settings := rfl
          exact tallied.add wired rfl rfl rfl names rfl
      | publish | check | consume | checkAll | step | abandon | closeIdle | close | shutdown | reset | elapse
      | fault => cases asked
  | changed here tended =>
      obtain ⟨⟨settings, wired⟩, -⟩ := tallied.wired _ _ here
      rw [← zero_add held] at tallied ⊢
      exact tallied.deal here (wired.tended_dealing tended)
  | disturbed asked =>
      cases incident with
      | fault injected =>
          cases asked
          have register : (injected.apply r.shared.surroundings.outside).register = _ :=
            congrArg (fun office : (Air × Nat) × List Nat => (office.1.2, office.2)) (injected.apply_office _)
          exact tallied.silent (.update register)
      | register | publish | check | consume | checkAll | step | abandon | closeIdle | close | shutdown | reset
      | elapse => cases asked

theorem tend_all {η : Type} (tallied : r.Tallied held) {incident : Incident η}
    (tended : Relation.ReflTransGen (Registry.Tended incident.move) r next) : next.Tallied held := by
  induction tended with
  | refl => exact tallied
  | tail _ last ih => exact ih.tend last

end Tallied

end Registry

end Dispatch
