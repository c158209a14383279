import Dispatch.Proofs.Publishing.Books
import Mathlib.Data.Multiset.Replicate

set_option autoImplicit false

namespace Dispatch

/-! ## Notes -/

def Event.isConnection (event : Event) : Bool :=
  event.message = "connection opened" ∨ event.message = "connection closed"

def Event.Plain (events : List Event) : Prop := ∀ event ∈ events, event.isConnection = false

namespace Event.Plain

variable {events more : List Event} {event : Event}

@[simp] theorem nil : Plain [] := fun event member => by cases member

@[simp] theorem cons_iff : Plain (event :: events) ↔ event.isConnection = false ∧ Plain events := by simp [Plain]

@[simp] theorem append_iff : Plain (events ++ more) ↔ Plain events ∧ Plain more := by
  simp [Plain, or_imp, forall_and]

end Event.Plain

namespace Breaker

theorem request_plain (b : Breaker) (now : Instant) : Event.Plain (b.request now).2.2 := by
  unfold request
  split
  · simp
  · split <;> simp [Breaker.event, Event.isConnection]
  · split <;> simp

theorem settle_plain {α : Type} (b : Breaker) (now : Instant) (permit : Permit) (result : Except Failure α) :
    Event.Plain (b.settle now permit result).2 := by
  have succeeded : Event.Plain (b.succeed permit).2 := by
    unfold succeed
    split
    · simp
    · split <;> simp [Breaker.event, Event.isConnection]
    · simp
  have failed : Event.Plain (b.fail now permit).2 := by
    unfold fail
    split
    · dsimp only
      split <;> simp [Breaker.event, Event.isConnection]
    · split <;> simp [Breaker.event, Event.isConnection]
    · simp
  unfold settle
  split
  · exact succeeded
  · split
    · exact failed
    · exact .nil

end Breaker

namespace Execution

variable {ε κ α : Type}

theorem conclude_plain (p : Pipeline) (now : Instant) (attempt : Nat) (result : Except Failure α) :
    Event.Plain (conclude (κ := κ) p now attempt result).2 := by
  unfold conclude
  split
  · simp
  · split
    · dsimp only
      split <;> simp [Event.isConnection]
    · split <;> simp

theorem step_plain (p : Pipeline) (op : Operation ε κ (Except Failure α)) (now : Instant) (cancelled : Bool)
    (breaker : Breaker) (environment : ε) (execution : Execution κ) :
    Event.Plain (execution.step p op now cancelled breaker environment).events := by
  have settled (attempt : Nat) (permit : Permit) (environment : ε) (result : Except Failure α) :
      Event.Plain (settled (κ := κ) p now attempt permit breaker environment result).events := by
    rw [Execution.settled, Event.Plain.append_iff]
    exact ⟨breaker.settle_plain now permit result, conclude_plain p now attempt result⟩
  cases execution with
  | ready made =>
      have requested := breaker.request_plain now
      simp only [step]
      split
      · exact .nil
      · split <;> simp_all
  | trying attempt permit call =>
      simp only [step]
      split
      · exact settled attempt permit _ _
      · split
        · exact settled attempt permit _ _
        · exact .nil
        · exact .nil
        · exact .nil
  | resting attempt resumeAt => exact .nil

end Execution

/-! ## What a pool reports -/

namespace PoolEvent

variable {ρ : Type} {events more : List (PoolEvent ρ)}

def counts : PoolEvent ρ → Nat × Nat
  | .opened _ => (1, 0)
  | .closed => (0, 1)
  | .resized _ _ | .disposed _ | .reported _ => 0

def report? : PoolEvent ρ → Option Event
  | .reported event => some event
  | _ => none

def totals (events : List (PoolEvent ρ)) : Nat × Nat := (events.map counts).sum

def reports (events : List (PoolEvent ρ)) : List Event := events.filterMap report?

@[simp] theorem reports_reported (events : List Event) :
    reports (events.map (reported : Event → PoolEvent ρ)) = events := by
  simp [reports, List.filterMap_map, Function.comp_def, report?]

structure Regular (events : List (PoolEvent ρ)) : Prop where
  counted : totals events = ((openings events).length, (disposals events).length)
  plain : Event.Plain (reports events)

namespace Regular

theorem nil : Regular ([] : List (PoolEvent ρ)) := ⟨rfl, .nil⟩

theorem of_reports {reported : List Event} (plain : Event.Plain reported) :
    Regular (reported.map (PoolEvent.reported : Event → PoolEvent ρ)) where
  counted := by simp [totals, Function.comp_def, counts, Prod.zero_eq_mk]
  plain := by rwa [reports_reported]

theorem append (first : Regular events) (second : Regular more) : Regular (events ++ more) where
  counted := by
    simp only [totals, openings_append, disposals_append, List.map_append, List.sum_append, List.length_append]
    exact congrArg₂ (· + ·) first.counted second.counted
  plain := by
    simp only [reports, List.filterMap_append, Event.Plain.append_iff]
    exact ⟨first.plain, second.plain⟩

theorem cons {event : PoolEvent ρ} (counted : event.counts = (event.opened?.toList.length, 0))
    (kept : event.disposed? = none) (plain : ∀ report, event.report? = some report → report.isConnection = false)
    (rest : Regular events) : Regular (event :: events) := by
  have first : Regular [event] := by
    refine ⟨by simp [totals, counted, kept], ?_⟩
    intro report member
    obtain ⟨entry, member, told⟩ := List.mem_filterMap.1 member
    obtain rfl := List.mem_singleton.1 member
    exact plain report told
  exact first.append rest

end Regular

end PoolEvent

namespace Pool

variable {ρ : Type} (pool : Pool ρ)

open PoolEvent

theorem closing_regular (entries : List (Pooled ρ)) : Regular (closing entries) := by
  induction entries with
  | nil => exact .nil
  | cons entry entries ih =>
      have first : Regular [.disposed entry.resource, .closed] := ⟨rfl, .nil⟩
      exact first.append ih

theorem reporting_regular {events : List (PoolEvent ρ)} {level : Level} {message : String}
    {fields : List (String × String)} (plain : Event.isConnection { level, message, fields } = false)
    (rest : Regular events) : Regular (report level message fields :: events) :=
  .cons rfl rfl (fun event told => by cases told; exact plain) rest

theorem resizing_regular {events : List (PoolEvent ρ)} (rest : Regular events) : Regular (pool.resized :: events) :=
  .cons rfl rfl (fun event told => by cases told) rest

theorem farewell_regular (entries : List (Pooled ρ)) : Regular (farewell entries) := by
  unfold farewell
  split
  · exact .nil
  · exact reporting_regular (by simp [Event.isConnection]) (closing_regular entries)

theorem takeIdle_regular (healthy : ρ → Bool) (now : Instant) : Regular (pool.takeIdle healthy now).2.2 := by
  unfold takeIdle
  dsimp only
  split
  · exact farewell_regular _
  · exact resizing_regular _ (farewell_regular _)

theorem addCreated_regular (resource : ρ) (now : Instant) : Regular (pool.addCreated resource now).2.2 := by
  refine .cons rfl rfl (fun event told => by cases told) (resizing_regular _ ?_)
  exact reporting_regular (by simp [Event.isConnection]) .nil

theorem takeBack_regular (healthy : ρ → Bool) (discard : Bool) (now : Instant) (lease : Lease ρ) :
    Regular (pool.takeBack healthy discard now lease).2 := by
  unfold takeBack
  dsimp only
  split
  · exact resizing_regular _ .nil
  · exact resizing_regular _ (reporting_regular (by simp [Event.isConnection]) (closing_regular _))

theorem closeIdle_regular : Regular pool.closeIdle.2 := resizing_regular _ (closing_regular _)

theorem shutdown_regular : Regular pool.shutdown.2 :=
  (closeIdle_regular _).append (reporting_regular (by simp [Event.isConnection]) .nil)

end Pool

theorem Acquisition.step_regular {ε ρ κ : Type} (supply : Supply ε ρ κ) (now : Instant) (cancelled : Bool)
    (pool : Pool ρ) (breaker : Breaker) (environment : ε) (acquisition : Acquisition κ) :
    PoolEvent.Regular (acquisition.step supply now cancelled pool breaker environment).events := by
  cases acquisition with
  | arriving | queued =>
      rw [(step_unseated supply now cancelled pool breaker environment _ rfl).2.1]
      exact .nil
  | seated =>
      have taken := pool.takeIdle_regular (supply.healthy environment) now
      simp only [step]
      split
      · rename_i outcome
        rwa [outcome] at taken
      · rename_i outcome
        rwa [outcome] at taken
  | connecting execution =>
      have told : PoolEvent.Regular (ρ := ρ) _ := .of_reports
        (execution.step_plain pool.connect supply.create now cancelled breaker environment)
      simp only [step]
      split
      · exact told
      · exact told
      · exact told
      · exact told
      · exact told.append (pool.addCreated_regular _ now)

/-! ## Ledgers -/

/-- For the name of a backend that has a series, how many connections were opened and how many closed; and the
notes of connections in the log. -/
@[ext]
structure Ledger where
  tally : String → Option (Nat × Nat)
  notes : Multiset Event

namespace Ledger

def add (l : Ledger) (backend : String) (counts : Nat × Nat) (notes : Multiset Event) : Ledger where
  tally name := if name = backend then (l.tally name).map (· + counts) else l.tally name
  notes := l.notes + notes

theorem add_add (l : Ledger) (backend : String) (first second : Nat × Nat) (notes more : Multiset Event) :
    (l.add backend first notes).add backend second more = l.add backend (first + second) (notes + more) := by
  ext1
  · funext name
    by_cases same : name = backend
    · simp [add, same, Function.comp_def, add_assoc]
    · simp [add, same]
  · exact add_assoc _ _ _

@[simp] theorem add_zero (l : Ledger) (backend : String) : l.add backend 0 0 = l := by
  ext1
  · funext name
    simp [add]
  · exact Multiset.add_zero _

def enlist (l : Ledger) (backend : String) : Ledger :=
  { l with tally := fun name => (l.tally name).or (if name = backend then some 0 else none) }

end Ledger

def Surroundings.notes {ε : Type} (s : Surroundings ε) : Multiset Event :=
  (s.journal.filter Event.isConnection : List Event)

theorem Surroundings.notes_report {ε : Type} (s : Surroundings ε) (events : List Event) :
    (s.report events).notes = s.notes + (events.filter Event.isConnection : List Event) := by
  rw [notes, report, List.filter_append, ← Multiset.coe_add, notes]

theorem Event.Plain.filter {events : List Event} (plain : Plain events) :
    events.filter Event.isConnection = [] :=
  List.filter_eq_nil_iff.2 fun event member => by simp [plain event member]

theorem Surroundings.notes_plain {ε : Type} (s : Surroundings ε) {events : List Event} (plain : Event.Plain events) :
    (s.report events).notes = s.notes := by
  rw [s.notes_report, plain.filter, Multiset.coe_nil, Multiset.add_zero]

def Shared.ledger {ε : Type} (s : Shared ε) : Ledger where
  tally name := (s.metrics.counters.lookup name).map fun counters => (counters.opened, counters.closed)
  notes := s.surroundings.notes

def Counter.connections : Counter → Nat × Nat
  | .opened => (1, 0)
  | .closed => (0, 1)
  | .published | .failed => (0, 0)

namespace Shared

variable {ε : Type} (s : Shared ε)

theorem count_ledger (key : MetricsKey) (counter : Counter) :
    (s.count key counter).ledger = s.ledger.add key.backend counter.connections 0 := by
  ext1
  · funext name
    simp only [ledger, Ledger.add, count, MetricsRegistry.count, lookup_update, Option.map_map, decide_eq_true_eq]
    by_cases same : name = key.backend
    · subst same
      simp only [if_true]
      refine congrFun (congrArg Option.map (funext fun counters => ?_)) _
      cases counter <;> rfl
    · have elsewhere : ¬key.backend = name := fun there => same there.symm
      simp only [same, elsewhere, if_false]
      rfl
  · exact (Multiset.add_zero _).symm

theorem report_ledger {events : List Event} (plain : Event.Plain events) : (s.report events).ledger = s.ledger := by
  ext1
  · rfl
  · exact s.surroundings.notes_plain plain

theorem enlist_ledger (key : MetricsKey) :
    Shared.ledger { s with metrics := s.metrics.enlist key } = s.ledger.enlist key.backend := by
  ext1
  · funext name
    simp only [lookup_enlist, ledger, Ledger.enlist, Option.map_or]
    split <;> rfl
  · rfl

end Shared

/-! ## Booking what a pool reports -/

namespace Adapter

variable {ε ρ σ κ : Type} (a : Adapter ε ρ σ κ)

theorem connectionEvent_noted {message : String}
    (connection : message = "connection opened" ∨ message = "connection closed") :
    [a.connectionEvent message].filter Event.isConnection = [a.connectionEvent message] := by
  simpa [connectionEvent, Event.isConnection] using connection

theorem absorbOne_ledger (s : Shared ε) {event : PoolEvent ρ}
    (plain : ∀ report, event.report? = some report → report.isConnection = false) :
    (absorbOne a s event).ledger = s.ledger.add a.backend.name event.counts
      (.replicate event.disposed?.toList.length (a.connectionEvent "connection closed")) := by
  cases event with
  | opened handle => exact s.count_ledger a.key .opened
  | closed => exact s.count_ledger a.key .closed
  | resized idle leased => exact (s.ledger.add_zero _).symm
  | reported event =>
      have quiet : Event.Plain [event] := by simp [plain event rfl]
      exact (s.report_ledger quiet).trans (s.ledger.add_zero _).symm
  | disposed handle =>
      ext1
      · funext name
        exact congrFun (congrArg Ledger.tally (s.ledger.add_zero a.backend.name).symm) name
      · refine (Surroundings.notes_report _ _).trans ?_
        rw [a.connectionEvent_noted (.inr rfl)]
        rfl

theorem absorb_ledger (s : Shared ε) {events : List (PoolEvent ρ)} (plain : Event.Plain (PoolEvent.reports events)) :
    (a.absorb s events).ledger = s.ledger.add a.backend.name (PoolEvent.totals events)
      (.replicate (PoolEvent.disposals events).length (a.connectionEvent "connection closed")) := by
  induction events generalizing s with
  | nil => exact (s.ledger.add_zero _).symm
  | cons event events ih =>
      have told : ∀ report, event.report? = some report → report.isConnection = false := fun report told =>
        plain report (List.mem_filterMap.2 ⟨event, List.mem_cons_self, told⟩)
      have rest : Event.Plain (PoolEvent.reports events) := fun report member => by
        obtain ⟨entry, member, told⟩ := List.mem_filterMap.1 member
        exact plain report (List.mem_filterMap.2 ⟨entry, List.mem_cons_of_mem _ member, told⟩)
      refine (ih (absorbOne a s event) rest).trans ?_
      rw [a.absorbOne_ledger s told, Ledger.add_add, ← Multiset.replicate_add, PoolEvent.disposals_cons,
        List.length_append]
      rfl

def notes (counts : Nat × Nat) : Multiset Event :=
  .replicate counts.1 (a.connectionEvent "connection opened") +
    .replicate counts.2 (a.connectionEvent "connection closed")

@[simp] theorem notes_zero : a.notes 0 = 0 := rfl

theorem notes_add (first second : Nat × Nat) : a.notes (first + second) = a.notes first + a.notes second := by
  simp only [notes, Prod.fst_add, Prod.snd_add, Multiset.replicate_add]
  abel

end Adapter

def Pool.counts {ρ : Type} (pool : Pool ρ) : Nat × Nat := (pool.created, pool.closed)

section Booking

variable {ε ρ σ κ : Type}

def Ledger.book (l : Ledger) (a : Adapter ε ρ σ κ) (counts : Nat × Nat) : Ledger :=
  l.add a.backend.name counts (a.notes counts)

@[simp] theorem Ledger.book_zero (l : Ledger) (a : Adapter ε ρ σ κ) : l.book a 0 = l := l.add_zero _

theorem Ledger.book_book (l : Ledger) (a : Adapter ε ρ σ κ) (first second : Nat × Nat) :
    (l.book a first).book a second = l.book a (first + second) := by
  rw [book, book, add_add, ← a.notes_add, book]

theorem Adapter.absorb_book (a : Adapter ε ρ σ κ) {s : Shared ε} {l : Ledger} {events : List (PoolEvent ρ)}
    (regular : PoolEvent.Regular events)
    (noted : s.ledger = l.add a.backend.name 0
      (.replicate (PoolEvent.openings events).length (a.connectionEvent "connection opened"))) :
    (a.absorb s events).ledger =
      l.book a ((PoolEvent.openings events).length, (PoolEvent.disposals events).length) := by
  rw [a.absorb_ledger s regular.plain, noted, Ledger.add_add, regular.counted, zero_add]
  rfl

end Booking

namespace Adapter

variable {ε ρ σ κ : Type} (a : Adapter ε ρ σ κ)

theorem absorb_outside (s : Shared ε) (events : List (PoolEvent ρ)) :
    (a.absorb s events).surroundings.outside =
      (PoolEvent.disposals events).foldl (fun outside handle => a.transport.close handle outside)
        s.surroundings.outside := by
  induction events generalizing s with
  | nil => rfl
  | cons event events ih =>
      refine (ih (absorbOne a s event)).trans ?_
      cases event <;> rfl

end Adapter

end Dispatch
