import Dispatch.Proofs.Consuming.Contacts

/-!
# Rounds of a consumer

A `Reception` is one consumer with watched partners. Its transport and its handler are any operations,
so they answer in any way and at any time; others use the adapter and the outside between its steps, and
each step finds the token cancelled or not. The book that the partners keep is a list of whole rounds,
one for each delivery that was settled, and then the contacts of the round that the call is in.
-/

set_option autoImplicit false

namespace Dispatch

structure Round where
  delivery : Delivery
  verdict : Except String Unit

namespace Round

variable {σ : Type}

def accepted (round : Round) : Bool := round.verdict.isOk

def taking (subscription : σ) (delivery : Delivery) : List (Contact σ) :=
  [.asked subscription, .given subscription (.ok (some delivery))]

def judging (subscription : σ) (round : Round) : List (Contact σ) :=
  taking subscription round.delivery ++ [.handed round.delivery, .judged round.delivery round.verdict]

def contacts (subscription : σ) (round : Round) : List (Contact σ) :=
  round.judging subscription ++
    [.settling subscription round.accepted, .settled subscription round.accepted (.ok ())]

def summary (rounds : List Round) : ConsumeSummary where
  received := rounds.length
  handled := rounds.countP (·.accepted)
  rejected := rounds.countP (!·.accepted)

theorem summary_concat (rounds : List Round) (round : Round) :
    summary (rounds ++ [round]) =
      ⟨rounds.length + 1, rounds.countP (·.accepted) + if round.accepted then 1 else 0,
        rounds.countP (!·.accepted) + if round.accepted then 0 else 1⟩ := by
  cases accepted : round.accepted <;> simp [summary, accepted]

end Round

namespace Contact

variable {σ : Type}

def received? : Contact σ → Option Delivery
  | .given _ (.ok delivery?) => delivery?
  | _ => none

def isSettling (accepted : Bool) : Contact σ → Bool
  | .settling _ verdict => verdict == accepted
  | _ => false

end Contact

namespace Round

variable {σ : Type} (subscription : σ) (rounds : List Round)

theorem received_contacts :
    (rounds.flatMap (·.contacts subscription)).filterMap Contact.received? = rounds.map (·.delivery) := by
  induction rounds with
  | nil => rfl
  | cons round rounds ih =>
      rw [List.flatMap_cons, List.filterMap_append, ih]
      rfl

theorem settling_contacts (accepted : Bool) :
    (rounds.flatMap (·.contacts subscription)).countP (·.isSettling accepted) =
      rounds.countP (·.accepted == accepted) := by
  induction rounds with
  | nil => rfl
  | cons round rounds ih =>
      rw [List.flatMap_cons, List.countP_append, ih, List.countP_cons, Nat.add_comm]
      simp [contacts, judging, taking, Contact.isSettling, List.countP_cons]

end Round

namespace Reception

variable (ρ σ κ η : Type)

abbrev Progress := Consuming ρ σ (Option (TransportCall ρ κ)) (Option η)

/-- `cancelled` is what the last step saw. -/
inductive Stage where
  | going (progress : Progress ρ σ κ η)
  | done (result : Except BrokerError ConsumeSummary) (cancelled : Bool)
  | lost

end Reception

structure Reception (ε ρ σ κ η : Type) where
  now : Instant
  adapter : Adapter (Watched ε σ) ρ σ (Option (TransportCall ρ κ))
  shared : Shared (Watched ε σ)
  stage : Reception.Stage ρ σ κ η

namespace Reception

variable {ε ρ σ κ η : Type}

abbrev contacts (r : Reception ε ρ σ κ η) : List (Contact σ) := r.shared.surroundings.contacts

def start (t : Transport ε ρ σ κ) (a : Adapter (Watched ε σ) ρ σ (Option (TransportCall ρ κ)))
    (s : Shared (Watched ε σ)) : Reception ε ρ σ κ η where
  now := 0
  adapter := { a with transport := t.watched }
  shared := s.update fun outside => (outside.1, [])
  stage := .going .start

inductive Move (ε ρ σ κ : Type) where
  | step (cancelled : Bool)
  | elapse (duration : Duration)
  | disturb (adapter : Adapter (Watched ε σ) ρ σ (Option (TransportCall ρ κ)) →
        Adapter (Watched ε σ) ρ σ (Option (TransportCall ρ κ)))
      (shared : Shared (Watched ε σ) → Shared (Watched ε σ))

def stageAfter (progress : Progress ρ σ κ η) (cancelled : Bool) :
    Turn (Progress ρ σ κ η) (Except BrokerError ConsumeSummary) → Stage ρ σ κ η
  | .finished result => .done result cancelled
  | .moved progress => .going progress
  | .blocked _ => .going progress
  | .overflowed => .lost

def advance (source : String) (handler : Handler ε η) (r : Reception ε ρ σ κ η) (cancelled : Bool)
    (progress : Progress ρ σ κ η) : Reception ε ρ σ κ η :=
  let next := progress.step r.adapter r.shared source handler.watched r.now cancelled
  { r with
    adapter := next.adapter
    shared := next.shared
    stage := stageAfter progress cancelled next.turn }

/-- Others do what they like with the adapter and the outside, apart from its transport and the book. -/
def perform (source : String) (handler : Handler ε η) (r : Reception ε ρ σ κ η) :
    Move ε ρ σ κ → Reception ε ρ σ κ η
  | .step cancelled =>
    match r.stage with
    | .going progress => r.advance source handler cancelled progress
    | .done _ _ | .lost => r
  | .elapse duration => { r with now := r.now + duration }
  | .disturb adapter shared =>
    { r with
      adapter := { adapter r.adapter with transport := r.adapter.transport }
      shared := (shared r.shared).update fun outside => (outside.1, r.contacts) }

def run (source : String) (handler : Handler ε η) (r : Reception ε ρ σ κ η) (moves : List (Move ε ρ σ κ)) :
    Reception ε ρ σ κ η :=
  moves.foldl (perform source handler) r

/-! ## Where a call stands -/

inductive Stands (backend : Backend) (subscription : σ) (rounds : List Round) :
    Stage ρ σ κ η → List (Contact σ) → Prop
  | receiving (call : WatchedCall ρ κ) :
      Stands backend subscription rounds (.going (.receiving subscription (Round.summary rounds) call))
        (soFar WatchedCall.made [.asked subscription] call)
  | handling (delivery : Delivery) (call : Option η) :
      Stands backend subscription rounds
        (.going (.handling subscription
          { Round.summary rounds with received := rounds.length + 1 } delivery call))
        (Round.taking subscription delivery ++ soFar Option.isSome [.handed delivery] call)
  | settling (round : Round) (call : WatchedCall ρ κ) :
      Stands backend subscription rounds
        (.going (.settling subscription (Round.summary (rounds ++ [round])) round.accepted call))
        (round.judging subscription ++ soFar WatchedCall.made [.settling subscription round.accepted] call)
  | cancelled (call : WatchedCall ρ κ) :
      Stands backend subscription rounds (.done (.ok (Round.summary rounds)) true)
        (soFar WatchedCall.made [.asked subscription] call)
  | ended (cancelled : Bool) :
      Stands backend subscription rounds (.done (.ok (Round.summary rounds)) cancelled)
        [.asked subscription, .given subscription (.ok none)]
  | unreceived (error : TransportError) (cancelled : Bool) :
      Stands backend subscription rounds (.done (.error (.ofTransport backend error)) cancelled)
        [.asked subscription, .given subscription (.error error)]
  | unsettled (round : Round) (error : TransportError) (cancelled : Bool) :
      Stands backend subscription rounds (.done (.error (.ofTransport backend error)) cancelled)
        (round.judging subscription ++
          [.settling subscription round.accepted, .settled subscription round.accepted (.error error)])
  | lost {progress : Progress ρ σ κ η} {contacts : List (Contact σ)}
      (stood : Stands backend subscription rounds (.going progress) contacts) :
      Stands backend subscription rounds .lost contacts

inductive Unopened (backend : Backend) : Stage ρ σ κ η → Prop
  | opening (execution : Execution (WatchedCall ρ κ)) : Unopened backend (.going (.opening execution))
  | failed (failure : Failure) (cancelled : Bool) :
      Unopened backend (.done (.error (.ofAcquire backend failure)) cancelled)
  | lost : Unopened backend .lost

inductive Accounted (backend : Backend) (stage : Stage ρ σ κ η) : List (Contact σ) → Prop
  | unopened (unopened : Unopened backend stage) : Accounted backend stage []
  | opened {subscription : σ} (rounds : List Round) {current : List (Contact σ)}
      (stands : Stands backend subscription rounds stage current) :
      Accounted backend stage (rounds.flatMap (·.contacts subscription) ++ current)

/-! ## What a step adds -/

section Steps

variable {t : Transport ε ρ σ κ} {a : Adapter (Watched ε σ) ρ σ (Option (TransportCall ρ κ))}

theorem next_tells (wired : a.transport = t.watched) (subscription : σ) :
    (a.transport.next subscription).Tells Surroundings.contacts WatchedCall.made [.asked subscription]
      fun result => [.given subscription result] := by
  rw [wired]
  exact (t.next subscription).noted_tells _ _

theorem settlement_tells (wired : a.transport = t.watched) (subscription : σ) (accepted : Bool) :
    (Consuming.settlement a subscription accepted).Tells Surroundings.contacts WatchedCall.made
      [.settling subscription accepted] fun result => [.settled subscription accepted result] := by
  unfold Consuming.settlement
  rw [wired]
  cases accepted with
  | true => exact (t.ack subscription).noted_tells _ _
  | false => exact (t.nack subscription).noted_tells _ _

theorem subscribe_keeps (wired : a.transport = t.watched) (source : String) :
    (Consuming.subscribeOperation a source).Keeps Surroundings.contacts := by
  have keeps : (a.transport.subscribe source).Keeps Surroundings.contacts := by
    rw [wired]
    exact ((t.subscribe source).noted_tells [] _).keeps
  exact ⟨fun now s call => keeps.step now s call, keeps.abandon⟩

theorem leave_contacts (wired : a.transport = t.watched) (subscription : σ) (s : Shared (Watched ε σ)) :
    (s.update (a.transport.leave subscription)).surroundings.contacts = s.surroundings.contacts := by
  rw [wired]
  rfl

variable {source : String} {handler : Handler ε η} {s : Shared (Watched ε σ)} {now : Instant} {cancelled : Bool}

theorem Accounted.of_book {backend : Backend} {stage : Stage ρ σ κ η} {contacts book : List (Contact σ)}
    (accounted : Accounted backend stage contacts) (same : book = contacts) : Accounted backend stage book :=
  same ▸ accounted

theorem Accounted.judged (wired : a.transport = t.watched) (backend : Backend) (subscription : σ) (rounds : List Round)
    (round : Round) :
    Accounted backend
      (.going (.settling (η := Option η) subscription (Round.summary (rounds ++ [round])) round.accepted
        (Consuming.settlement a subscription round.accepted).start))
      (rounds.flatMap (·.contacts subscription) ++ round.judging subscription) := by
  have unbegun : soFar WatchedCall.made [.settling subscription round.accepted]
      (Consuming.settlement a subscription round.accepted).start = [] := by
    simp [soFar, (settlement_tells wired subscription round.accepted).start]
  exact Accounted.of_book (.opened rounds (.settling round _)) (by rw [unbegun, List.append_nil])

theorem Accounted.again (wired : a.transport = t.watched) (backend : Backend) (subscription : σ) (rounds : List Round) :
    Accounted backend
      (.going (.receiving (η := Option η) subscription (Round.summary rounds) (a.transport.next subscription).start))
      (rounds.flatMap (·.contacts subscription)) := by
  have unbegun : soFar WatchedCall.made [.asked subscription] (a.transport.next subscription).start = [] := by
    simp [soFar, (next_tells wired subscription).start]
  exact Accounted.of_book (.opened rounds (.receiving _)) (by rw [unbegun, List.append_nil])

def Books (a : Adapter (Watched ε σ) ρ σ (Option (TransportCall ρ κ))) (progress : Progress ρ σ κ η)
    (cancelled : Bool) (outcome : Consuming.Outcome (Watched ε σ) ρ σ (Option (TransportCall ρ κ)) (Option η)) : Prop :=
  Accounted a.backend (stageAfter progress cancelled outcome.turn) outcome.shared.surroundings.contacts

theorem opening_books (wired : a.transport = t.watched) (blank : s.surroundings.contacts = [])
    (execution : Execution (WatchedCall ρ κ)) :
    Books a (.opening execution) cancelled
      (Consuming.step a s source handler.watched now cancelled (.opening execution)) := by
  have kept := (subscribe_keeps wired source).execution_step a.pool.connect now cancelled
    a.connectBreaker s.surroundings execution
  simp only [Consuming.step]
  generalize execution.step a.pool.connect (Consuming.subscribeOperation a source) now cancelled
    a.connectBreaker s.surroundings = outcome at kept ⊢
  obtain ⟨turn, breaker, environment, events⟩ := outcome
  have still : environment.contacts = [] := kept.trans blank
  cases turn with
  | finished result =>
      cases result with
      | ok subscription => exact Accounted.of_book (.again wired _ subscription []) still
      | error failure => exact Accounted.of_book (.unopened (.failed failure cancelled)) still
  | moved execution => exact Accounted.of_book (.unopened (.opening execution)) still
  | blocked wake => exact Accounted.of_book (.unopened (.opening execution)) still
  | overflowed => exact Accounted.of_book (.unopened .lost) still

variable {subscription : σ} {rounds : List Round}

theorem receiving_books (wired : a.transport = t.watched) {call : WatchedCall ρ κ}
    (book : s.surroundings.contacts =
      rounds.flatMap (·.contacts subscription) ++ soFar WatchedCall.made [.asked subscription] call) :
    Books a (.receiving subscription (Round.summary rounds) call) cancelled
      (Consuming.step a s source handler.watched now cancelled
        (.receiving subscription (Round.summary rounds) call)) := by
  have told := (next_tells wired subscription).step now s.surroundings call _ book
  have left (s : Shared (Watched ε σ)) := leave_contacts wired subscription s
  simp only [Consuming.step]
  by_cases cut : cancelled
  · have stopped := (next_tells wired subscription).abandon s.surroundings call
    rw [if_pos cut, cut]
    exact Accounted.of_book (.opened rounds (.cancelled call)) ((left _).trans (stopped.trans book))
  · rcases stepped : (a.transport.next subscription).step now s.surroundings call with ⟨turn, surroundings⟩
    rw [stepped] at told
    simp only [stepped, if_neg cut]
    cases turn with
    | finished result =>
        cases result with
        | ok given =>
            cases given with
            | some delivery => exact Accounted.of_book (.opened rounds (.handling delivery none)) told
            | none => exact Accounted.of_book (.opened rounds (.ended cancelled)) ((left _).trans told)
        | error error => exact Accounted.of_book (.opened rounds (.unreceived error cancelled)) ((left _).trans told)
    | moved next => exact Accounted.of_book (.opened rounds (.receiving next)) told
    | blocked wake => exact Accounted.of_book (.opened rounds (.receiving call)) told
    | overflowed => exact Accounted.of_book (.opened rounds (.lost (.receiving call))) told

theorem handling_books (wired : a.transport = t.watched) {delivery : Delivery} {call : Option η}
    (book : s.surroundings.contacts =
      rounds.flatMap (·.contacts subscription) ++
        (Round.taking subscription delivery ++ soFar Option.isSome [.handed delivery] call)) :
    Books a (.handling subscription { Round.summary rounds with received := rounds.length + 1 } delivery call)
      cancelled
      (Consuming.step a s source handler.watched now cancelled
        (.handling subscription { Round.summary rounds with received := rounds.length + 1 } delivery call)) := by
  have told := ((handler delivery).watched_tells [.handed delivery] fun verdict => [.judged delivery verdict]).step
    now s.surroundings.outside call (rounds.flatMap (·.contacts subscription) ++ Round.taking subscription delivery)
    (by rw [List.append_assoc]; exact book)
  rcases stepped : ((handler delivery).watched [.handed delivery] fun verdict =>
    [Contact.judged (σ := σ) delivery verdict]).step now s.surroundings.outside call with ⟨turn, outside⟩
  rw [stepped, List.append_assoc] at told
  simp only [Consuming.step, Handler.watched, stepped]
  cases turn with
  | finished verdict =>
      have judged := Accounted.judged (η := η) wired a.backend subscription rounds ⟨delivery, verdict⟩
      rw [Round.summary_concat] at judged
      cases verdict with
      | ok => exact judged.of_book told
      | error reason => exact judged.of_book told
  | moved next => exact Accounted.of_book (.opened rounds (.handling delivery next)) told
  | blocked wake => exact Accounted.of_book (.opened rounds (.handling delivery call)) told
  | overflowed => exact Accounted.of_book (.opened rounds (.lost (.handling delivery call))) told

theorem settling_books (wired : a.transport = t.watched) {round : Round} {call : WatchedCall ρ κ}
    (book : s.surroundings.contacts = rounds.flatMap (·.contacts subscription) ++
      (round.judging subscription ++ soFar WatchedCall.made [.settling subscription round.accepted] call)) :
    Books a (.settling subscription (Round.summary (rounds ++ [round])) round.accepted call) cancelled
      (Consuming.step a s source handler.watched now cancelled
        (.settling subscription (Round.summary (rounds ++ [round])) round.accepted call)) := by
  have told := (settlement_tells wired subscription round.accepted).step now s.surroundings call
    (rounds.flatMap (·.contacts subscription) ++ round.judging subscription) (by rw [List.append_assoc]; exact book)
  have left (s : Shared (Watched ε σ)) := leave_contacts wired subscription s
  rcases stepped : (Consuming.settlement a subscription round.accepted).step now s.surroundings call with
    ⟨turn, surroundings⟩
  rw [stepped, List.append_assoc] at told
  simp only [Consuming.step, stepped]
  cases turn with
  | finished result =>
      cases result with
      | ok =>
          have complete : rounds.flatMap (·.contacts subscription) ++ round.contacts subscription =
            (rounds ++ [round]).flatMap (·.contacts subscription) := by simp
          exact Accounted.of_book (.again wired _ subscription (rounds ++ [round])) (told.trans complete)
      | error error =>
          exact Accounted.of_book (.opened rounds (.unsettled round error cancelled)) ((left _).trans told)
  | moved next => exact Accounted.of_book (.opened rounds (.settling round next)) told
  | blocked wake => exact Accounted.of_book (.opened rounds (.settling round call)) told
  | overflowed => exact Accounted.of_book (.opened rounds (.lost (.settling round call))) told

end Steps

/-! ## What a run leaves -/

section Runs

variable {t : Transport ε ρ σ κ} (source : String) (handler : Handler ε η) {r : Reception ε ρ σ κ η}

structure Kept (t : Transport ε ρ σ κ) (r : Reception ε ρ σ κ η) : Prop where
  wired : r.adapter.transport = t.watched
  accounted : Accounted t.kind r.stage r.contacts

theorem Kept.advance (kept : r.Kept t) (cancelled : Bool) {progress : Progress ρ σ κ η}
    (stage : r.stage = .going progress) : (r.advance source handler cancelled progress).Kept t := by
  have kind : r.adapter.backend = t.kind := congrArg Transport.kind kept.wired
  have accounted := kept.accounted
  rw [stage] at accounted
  refine ⟨(Consuming.step_act ..).transport.trans kept.wired, ?_⟩
  suffices books : Books r.adapter progress cancelled
      (progress.step r.adapter r.shared source handler.watched r.now cancelled) from kind ▸ books
  generalize contacts : r.contacts = book at accounted
  cases accounted with
  | unopened unopened =>
      cases unopened with
      | opening execution => exact opening_books kept.wired contacts execution
  | opened rounds stands =>
      cases stands with
      | receiving call => exact receiving_books kept.wired contacts
      | handling delivery call => exact handling_books kept.wired contacts
      | settling round call => exact settling_books kept.wired contacts

theorem Kept.perform (kept : r.Kept t) (move : Move ε ρ σ κ) : (r.perform source handler move).Kept t := by
  cases move with
  | step cancelled =>
      cases stage : r.stage with
      | going progress => simpa only [Reception.perform, stage] using kept.advance source handler cancelled stage
      | done result seen => simpa only [Reception.perform, stage] using kept
      | lost => simpa only [Reception.perform, stage] using kept
  | elapse duration => exact ⟨kept.wired, kept.accounted⟩
  | disturb adapter shared => exact ⟨kept.wired, kept.accounted⟩

theorem Kept.run (kept : r.Kept t) (moves : List (Move ε ρ σ κ)) : (r.run source handler moves).Kept t := by
  induction moves generalizing r with
  | nil => exact kept
  | cons move moves ih => exact ih (kept.perform source handler move)

theorem Accounted.of_ok {backend : Backend} {summary : ConsumeSummary} {cancelled : Bool} {contacts : List (Contact σ)}
    (accounted : Accounted backend (.done (.ok summary) cancelled : Stage ρ σ κ η) contacts) :
    ∃ rounds : List Round, summary = Round.summary rounds ∧
      contacts.filterMap Contact.received? = rounds.map (·.delivery) ∧
      ∀ accepted, contacts.countP (·.isSettling accepted) = rounds.countP (·.accepted == accepted) := by
  cases accounted with
  | unopened unopened => cases unopened
  | opened rounds stands =>
      refine ⟨rounds, ?_⟩
      simp only [List.filterMap_append, List.countP_append, Round.received_contacts, Round.settling_contacts]
      cases stands with
      | cancelled call =>
          cases made : WatchedCall.made call <;> simp [soFar, made, Contact.received?, Contact.isSettling]
      | ended => simp [Contact.received?, Contact.isSettling]

theorem Accounted.counted {backend : Backend} {summary : ConsumeSummary} {cancelled : Bool}
    {contacts : List (Contact σ)}
    (accounted : Accounted backend (.done (.ok summary) cancelled : Stage ρ σ κ η) contacts) :
    summary.received = summary.handled + summary.rejected ∧
    summary.received = (contacts.filterMap Contact.received?).length ∧
    summary.handled = contacts.countP (·.isSettling true) ∧
    summary.rejected = contacts.countP (·.isSettling false) := by
  obtain ⟨rounds, rfl, received, settling⟩ := accounted.of_ok
  refine ⟨?_, ?_, ?_, ?_⟩
  · simpa [Round.summary] using List.length_eq_countP_add_countP Round.accepted (l := rounds)
  · simp [received, Round.summary]
  · simp [settling, Round.summary]
  · simp [settling, Round.summary]

end Runs

end Reception

end Dispatch
