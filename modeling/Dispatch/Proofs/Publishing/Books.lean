import Dispatch.Proofs.Errands

set_option autoImplicit false

namespace Dispatch

structure Books where
  spans : SpanRecorder
  nextSpan : Nat
  /-- For the name of a backend that has a series, how many calls were published and how many failed. -/
  tally : String → Option (Nat × Nat)

def Shared.books {ε : Type} (s : Shared ε) : Books where
  spans := s.spans
  nextSpan := s.nextSpan
  tally name := (s.metrics.counters.lookup name).map fun counters => (counters.published, counters.failed)

inductive Upshot where
  | returned (result : Except BrokerError Receipt)
  | dropped

namespace Upshot

def reply : Upshot → Reply
  | .returned result => .published result
  | .dropped => .abandoned

def succeeded : Upshot → Bool
  | .returned (.ok _) => true
  | _ => false

def fields : Upshot → List (String × String)
  | .returned (.ok receipt) => PublishSpan.success receipt.size
  | .returned (.error error) => PublishSpan.failure error.message
  | .dropped => PublishSpan.failure "cancelled"

def add (upshot : Upshot) (counts : Nat × Nat) : Nat × Nat :=
  if upshot.succeeded then (counts.1 + 1, counts.2) else (counts.1, counts.2 + 1)

end Upshot

namespace Books

def opens (b : Books) (backend : Backend) (destination : Destination) : Books :=
  { b with
    spans := b.spans.start b.nextSpan PublishSpan.name (PublishSpan.opening backend.name destination.text)
    nextSpan := b.nextSpan + 1 }

def closes (b : Books) (backend : Backend) (span : Nat) (upshot : Upshot) : Books :=
  { b with
    spans := (b.spans.record span upshot.fields).close span
    tally := fun name => if name = backend.name then (b.tally name).map upshot.add else b.tally name }

end Books

theorem lookup_eq_find? {α : Type} (entries : List (String × α)) (name : String) :
    entries.lookup name = (entries.find? fun entry => name = entry.1).map Prod.snd := by
  induction entries with
  | nil => rfl
  | cons entry entries ih =>
      obtain ⟨key, held⟩ := entry
      rw [List.lookup_cons, List.find?_cons]
      by_cases same : name = key
      · simp [same]
      · simp [beq_false_of_ne same, same, ih]

theorem lookup_update {α : Type} (meant : String → Bool) (f : α → α) (entries : List (String × α))
    (name : String) : (MetricsRegistry.update meant f entries).lookup name =
      (entries.lookup name).map fun held => if meant name then f held else held := by
  rw [lookup_eq_find?, lookup_eq_find?, MetricsRegistry.find?_update (name = ·), Option.map_map, Option.map_map]
  apply Option.map_congr
  intro entry found
  have same : name = entry.1 := by simpa using List.find?_some found
  simp only [Function.comp, ← same]
  split <;> rfl

theorem lookup_enlist (m : MetricsRegistry) (key : MetricsKey) (name : String) :
    (m.enlist key).counters.lookup name =
      (m.counters.lookup name).or (if name = key.backend then some ⟨0, 0, 0, 0⟩ else none) := by
  simp only [MetricsRegistry.enlist, MetricsRegistry.ensure, lookup_eq_find?]
  split
  · rename_i has
    cases found : m.counters.find? fun entry => decide (name = entry.1) with
    | some entry => rfl
    | none =>
        obtain ⟨entry, member, same⟩ := List.any_eq_true.1 has
        have apart : name ≠ key.backend := by
          rintro rfl
          exact List.find?_eq_none.1 found entry member same
        simp [apart]
  · rename_i new
    by_cases same : name = key.backend
    · subst same
      have none : (m.counters.find? fun entry => decide (key.backend = entry.1)) = none :=
        List.find?_eq_none.2 fun entry member meant => new (List.any_eq_true.2 ⟨entry, member, meant⟩)
      have added := @MetricsRegistry.find?_insert_new _ _ (· < ·) key.backend (⟨0, 0, 0, 0⟩ : Counters)
        (key.backend = ·) (by simp) _ none
      rw [added, none, if_pos rfl]
      rfl
    · have kept := @MetricsRegistry.find?_insert_other _ _ (· < ·) key.backend (⟨0, 0, 0, 0⟩ : Counters)
        (name = ·) (by simp [same]) m.counters
      rw [kept, if_neg same, Option.or_none]

namespace Shared

variable {ε : Type} (s : Shared ε)

theorem count_books (key : MetricsKey) (counter : Counter) :
    (s.count key counter).books = { s.books with
      tally := fun name => ((s.metrics.counters.lookup name).map fun counters =>
        if key.backend = name then counters.bump counter else counters).map fun counters =>
          (counters.published, counters.failed) } := by
  simp only [books, count, MetricsRegistry.count, lookup_update, decide_eq_true_eq]

theorem enlist_books (key : MetricsKey) :
    Shared.books { s with metrics := s.metrics.enlist key } = { s.books with
      tally := fun name => (s.books.tally name).or (if name = key.backend then some (0, 0) else none) } := by
  apply congrArg (Books.mk s.spans s.nextSpan)
  funext name
  simp only [lookup_enlist, books, Option.map_or]
  split <;> rfl

theorem count_connections (key : MetricsKey) {counter : Counter}
    (connections : counter = .opened ∨ counter = .closed) : (s.count key counter).books = s.books := by
  rw [count_books]
  apply congrArg (Books.mk s.spans s.nextSpan)
  funext name
  rw [Option.map_map]
  refine congrFun (congrArg Option.map (funext fun counters => ?_)) _
  rcases connections with rfl | rfl
  · simp only [Function.comp, Counters.bump]
    split <;> rfl
  · simp only [Function.comp, Counters.bump]
    split <;> rfl

end Shared

namespace Adapter

variable {ε ρ σ κ : Type} (a : Adapter ε ρ σ κ) (s : Shared ε)

@[simp] theorem absorb_books (events : List (PoolEvent ρ)) : (a.absorb s events).books = s.books := by
  induction events generalizing s with
  | nil => rfl
  | cons event events ih =>
      have first : (absorbOne a s event).books = s.books := by
        cases event with
        | opened resource => exact s.count_connections _ (.inl rfl)
        | closed => exact s.count_connections _ (.inr rfl)
        | resized | disposed | reported => rfl
      exact (ih (absorbOne a s event)).trans first

@[simp] theorem release_books (now : Instant) (lease : Lease ρ) :
    (a.release s now lease).2.books = s.books := a.absorb_books s _

@[simp] theorem stepLease_books (now : Instant) (cancelled : Bool) (leasing : Leasing ρ κ) :
    (a.stepLease s now cancelled leasing).2.2.books = s.books := a.absorb_books _ _

theorem Tended.books {a next : Adapter ε ρ σ κ} {s later : Shared ε} (tended : a.Tended s next later) :
    later.books = s.books := by
  cases tended with
  | closeIdle => exact a.absorb_books s _
  | shutdown => exact a.absorb_books s _
  | reset => rfl

end Adapter

/-! ## Publish calls -/

namespace Publishing

variable {ε ρ σ κ : Type}

def span? : Publishing ρ κ → Option Nat
  | .fresh => none
  | .limiting span | .leasing span _ | .preparing span _ | .sending span _ _ _ => some span

def Sent (backend : Backend) (progress : Publishing ρ κ) (given : Receipt) : Prop :=
  ∃ span lease envelope execution, progress = .sending span lease envelope execution ∧
    given.backend = backend ∧ given.destination = envelope.destination ∧ given.size = envelope.size

inductive Entry (backend : Backend) (destination : Destination) (b : Books) (progress : Publishing ρ κ) :
    Turn (Publishing ρ κ) (Except BrokerError Receipt) → Books → Prop
  | opened {after : Publishing ρ κ} (first : progress = .fresh) (span : after.span? = some b.nextSpan) :
      Entry backend destination b progress (.moved after) (b.opens backend destination)
  | moved {after : Publishing ρ κ} (same : after.span? = progress.span?) :
      Entry backend destination b progress (.moved after) b
  | blocked (wake : Option Instant) : Entry backend destination b progress (.blocked wake) b
  | overflowed : Entry backend destination b progress .overflowed b
  | finished {span : Nat} {result : Except BrokerError Receipt} (known : progress.span? = some span)
      (sent : ∀ given, result = .ok given → Sent backend progress given) :
      Entry backend destination b progress (.finished result) (b.closes backend span (.returned result))

theorem count_closes (a : Adapter ε ρ σ κ) (s : Shared ε) (span : Nat) (upshot : Upshot) :
    Shared.books { (s.count a.key (if upshot.succeeded then .published else .failed)) with
      spans := (s.spans.record span upshot.fields).close span } = s.books.closes a.backend span upshot := by
  apply congrArg (Books.mk _ s.nextSpan)
  funext name
  have counts := congrArg (fun b => Books.tally b name)
    (s.count_books a.key (if upshot.succeeded then .published else .failed))
  refine counts.trans ?_
  by_cases same : a.key.backend = name
  · have there : name = a.backend.name := same.symm
    simp only [same, if_true, there, Shared.books, Option.map_map]
    refine congrFun (congrArg Option.map (funext fun counters => ?_)) _
    cases succeeded : upshot.succeeded <;> simp [Upshot.add, succeeded, Counters.bump]
  · have elsewhere : ¬name = a.backend.name := fun there => same there.symm
    simp only [same, if_false, elsewhere, Shared.books, Option.map_id']

theorem conclude_books (a : Adapter ε ρ σ κ) (s : Shared ε) (destination : Destination) (span : Nat)
    (result : Except BrokerError Receipt) :
    (conclude a s destination span result).shared.books = s.books.closes a.backend span (.returned result) := by
  cases result with
  | ok receipt => exact count_closes a s span (.returned (.ok receipt))
  | error error => exact count_closes a s span (.returned (.error error))

theorem conclusion_entry (a : Adapter ε ρ σ κ) (s : Shared ε) (now : Instant) (destination : Destination)
    {span : Nat} (lease : Lease ρ) (result : Except BrokerError Receipt) {progress : Publishing ρ κ}
    (known : progress.span? = some span)
    (sent : ∀ given, result = .ok given → Sent a.backend progress given) :
    Entry a.backend destination s.books progress (conclusion a s now destination span lease result).turn
      (conclusion a s now destination span lease result).shared.books := by
  have books := conclude_books (a.release s now lease).1 (a.release s now lease).2 destination span result
  rw [a.release_books] at books
  rw [conclusion, books, (conclude_frame _ _ destination span result).1]
  exact .finished known sent

theorem step_books (a : Adapter ε ρ σ κ) (s : Shared ε) (message : Outgoing) (now : Instant)
    (cancelled : Bool) (progress : Publishing ρ κ) :
    Entry a.backend message.destination s.books progress (progress.step a s message now cancelled).turn
      (progress.step a s message now cancelled).shared.books := by
  have failed {span : Nat} (s : Shared ε) (error : BrokerError) (known : progress.span? = some span) :
      Entry a.backend message.destination s.books progress
        (conclude a s message.destination span (.error error)).turn
        (conclude a s message.destination span (.error error)).shared.books := by
    rw [conclude_books]
    exact .finished known fun given ok => by cases ok
  cases progress with
  | fresh =>
      refine .opened rfl ?_
      cases a.bucket.isSome <;> rfl
  | limiting span =>
      simp only [step]
      split
      · exact .moved rfl
      · split
        · exact failed s _ rfl
        · exact .blocked _
        · exact .moved rfl
  | leasing span acquisition =>
      have kept := a.stepLease_books s now cancelled acquisition
      have wired : (a.stepLease s now cancelled acquisition).2.1.transport = a.transport := rfl
      simp only [step]
      generalize a.stepLease s now cancelled acquisition = outcome at kept wired
      obtain ⟨turn, next, later⟩ := outcome
      rw [← kept]
      cases turn with
      | finished result =>
          cases result with
          | ok lease => exact .moved rfl
          | error failure =>
              have backend : next.backend = a.backend := congrArg Transport.kind wired
              have books := conclude_books next later message.destination span
                (.error (.ofAcquire next.backend failure))
              dsimp only
              rw [books, backend]
              exact .finished rfl fun given ok => by cases ok
      | moved acquisition => exact .moved rfl
      | blocked wake => exact .blocked wake
      | overflowed => exact .overflowed
  | preparing span lease =>
      simp only [step]
      split
      · exact conclusion_entry a s now message.destination lease _ rfl fun given ok => by cases ok
      · exact .moved rfl
  | sending span lease envelope execution =>
      have ended (breaker : Breaker) (surroundings : Surroundings ε) (events : List Event)
          (result : Except BrokerError Receipt)
          (sent : ∀ given, result = .ok given →
            Sent a.backend (.sending span lease envelope execution) given) :=
        conclusion_entry { a with publishBreaker := breaker } ({ s with surroundings }.report events) now
          message.destination lease result (rfl : span? (.sending span lease envelope execution) = some span) sent
      simp only [step]
      split
      · apply ended _ _ _ _
        intro given ok
        cases ok
        exact ⟨span, lease, envelope, execution, rfl, rfl, rfl, rfl⟩
      · apply ended _ _ _ _
        intro given ok
        cases ok
      · exact .moved rfl
      · exact .blocked _
      · exact .overflowed

theorem abandon_books (a : Adapter ε ρ σ κ) (s : Shared ε) (now : Instant) (progress : Publishing ρ κ) :
    (progress.abandon a s now).2.books =
      match progress.span? with
      | none => s.books
      | some span => s.books.closes a.backend span .dropped := by
  have closed (a : Adapter ε ρ σ κ) (s : Shared ε) (span : Nat) :
      (abandoned a s span).2.books = s.books.closes a.backend span .dropped :=
    count_closes a s span .dropped
  cases progress with
  | fresh => rfl
  | limiting span => exact closed a s span
  | leasing span acquisition => exact closed (a.abandonLease s acquisition).1 _ span
  | preparing span lease =>
      simp only [abandon, closed, a.release_books]
      rfl
  | sending span lease envelope execution =>
      simp only [abandon, closed, Adapter.release_books]
      rfl

end Publishing

theorem Checking.step_books {ε ρ σ κ : Type} (a : Adapter ε ρ σ κ) (s : Shared ε) (now : Instant)
    (cancelled : Bool) (progress : Checking ρ κ) : (progress.step a s now cancelled).shared.books = s.books := by
  cases progress with
  | leasing acquisition => exact a.stepLease_books s now cancelled acquisition
  | pinging lease => exact a.release_books s now lease

theorem Checking.abandon_books {ε ρ σ κ : Type} (a : Adapter ε ρ σ κ) (s : Shared ε) (now : Instant)
    (progress : Checking ρ κ) : (progress.abandon a s now).2.books = s.books := by
  cases progress with
  | leasing acquisition => rfl
  | pinging lease => exact a.release_books s now lease

theorem Consuming.step_books {ε ρ σ κ η : Type} (a : Adapter ε ρ σ κ) (s : Shared ε) (source : String)
    (handler : Handler ε η) (now : Instant) (cancelled : Bool) (progress : Consuming ρ σ κ η) :
    (progress.step a s source handler now cancelled).shared.books = s.books := by
  cases progress with
  | opening execution =>
      simp only [step]
      split <;> rfl
  | receiving subscription summary call =>
      simp only [step]
      split
      · rfl
      · split <;> rfl
  | handling subscription summary delivery call =>
      simp only [step]
      split <;> rfl
  | settling subscription summary accepted call =>
      simp only [step]
      split <;> rfl

theorem Consuming.abandon_books {ε ρ σ κ η : Type} (a : Adapter ε ρ σ κ) (s : Shared ε) (source : String)
    (handler : Handler ε η) (progress : Consuming ρ σ κ η) :
    (progress.abandon a s source handler).2.books = s.books := by
  cases progress <;> rfl

/-! ## Deeds -/

namespace Part

variable {ε ρ σ κ η : Type}

def posted? : Part ε ρ σ κ η → Option (Outgoing × Nat)
  | .publishing message progress => progress.span?.map fun span => (message, span)
  | _ => none

def Fate.posted? : Fate ε ρ σ κ η → Option (Outgoing × Nat)
  | .goesOn part => part.posted?
  | .settled _ => none

/-- What a deed can do to the books: the first step of a publish call opens a span, its end closes it and
counts the call once. -/
inductive Booking (backend : Backend) (b : Books) (part : Part ε ρ σ κ η) : Fate ε ρ σ κ η → Books → Prop
  | kept {fate : Fate ε ρ σ κ η} (same : fate.posted? = part.posted?)
      (unanswered : ∀ result, fate ≠ .settled (.published result)) : Booking backend b part fate b
  | opened {message : Outgoing} {after : Publishing ρ κ} (first : part = .publishing message .fresh)
      (span : after.span? = some b.nextSpan) :
      Booking backend b part (.goesOn (.publishing message after)) (b.opens backend message.destination)
  | closed {message : Outgoing} {progress : Publishing ρ κ} {span : Nat} (upshot : Upshot)
      (posted : part = .publishing message progress) (known : progress.span? = some span)
      (sent : ∀ given, upshot = .returned (.ok given) → progress.Sent backend given) :
      Booking backend b part (.settled upshot.reply) (b.closes backend span upshot)

variable {now : Instant} {a next : Adapter ε ρ σ κ} {s later : Shared ε} {part : Part ε ρ σ κ η}
  {prompt : Prompt} {fate : Fate ε ρ σ κ η}

theorem abandon_booking (a : Adapter ε ρ σ κ) (s : Shared ε) (now : Instant) (part : Part ε ρ σ κ η) :
    part.Booking a.backend s.books (.settled .abandoned) (part.abandon a s now).2.books := by
  have silent (unposted : part.posted? = none) :
      part.Booking a.backend s.books (.settled .abandoned) s.books :=
    .kept unposted.symm fun result same => by cases same
  cases part with
  | publishing message progress =>
      simp only [abandon, progress.abandon_books a s now]
      split
      · rename_i fresh
        exact silent (by simp [posted?, fresh])
      · rename_i span known
        exact .closed .dropped rfl known fun given same => by cases same
  | checking progress =>
      simp only [abandon, progress.abandon_books a s now]
      exact silent rfl
  | consuming source handler progress =>
      simp only [abandon, progress.abandon_books a s source handler]
      exact silent rfl

theorem step_booking (a : Adapter ε ρ σ κ) (s : Shared ε) (now : Instant) (cancelled : Bool)
    (part : Part ε ρ σ κ η) :
    match (part.step a s now cancelled).turn with
    | .moved after =>
      part.Booking a.backend s.books (.goesOn after) (part.step a s now cancelled).shared.books
    | .finished reply => part.Booking a.backend s.books (.settled reply) (part.step a s now cancelled).shared.books
    | .blocked _ | .overflowed => (part.step a s now cancelled).shared.books = s.books := by
  cases part with
  | publishing message progress =>
      have entry := progress.step_books a s message now cancelled
      simp only [step]
      generalize (progress.step a s message now cancelled).turn = turn at entry
      generalize (progress.step a s message now cancelled).shared.books = books at entry
      cases entry with
      | opened first span =>
          subst first
          exact .opened rfl span
      | moved same => exact .kept (by simp [Fate.posted?, posted?, same]) fun result same => by cases same
      | blocked wake => rfl
      | overflowed => rfl
      | @finished span result known sent =>
          refine .closed (.returned result) rfl known fun given same => sent given ?_
          cases same
          rfl
  | checking progress =>
      simp only [step, progress.step_books]
      cases (progress.step a s now cancelled).turn with
      | moved after => exact .kept rfl fun result same => by cases same
      | finished result => exact .kept rfl fun result same => by cases same
      | blocked wake => trivial
      | overflowed => trivial
  | consuming source handler progress =>
      simp only [step, progress.step_books]
      cases (progress.step a s source handler now cancelled).turn with
      | moved after => exact .kept rfl fun result same => by cases same
      | finished result => exact .kept rfl fun result same => by cases same
      | blocked wake => trivial
      | overflowed => trivial

theorem Deed.booking (deed : part.Deed now a s prompt fate next later) :
    part.Booking a.backend s.books fate later.books := by
  cases deed with
  | @moved cancelled after turn =>
      have booking := part.step_booking a s now cancelled
      rwa [turn] at booking
  | @waited cancelled wake turn =>
      have same := part.step_booking a s now cancelled
      simp only [turn] at same
      rw [same]
      exact .kept rfl fun result same => by cases same
  | @finished cancelled reply turn =>
      have booking := part.step_booking a s now cancelled
      rwa [turn] at booking
  | @broke cancelled next later turn left =>
      have same := part.step_booking a s now cancelled
      have booking := part.abandon_booking (part.step a s now cancelled).adapter
        (part.step a s now cancelled).shared now
      have backend : (part.step a s now cancelled).adapter.backend = a.backend :=
        congrArg Transport.kind (part.step_wiring a s now cancelled).2
      simp only [turn] at same
      rwa [left, same, backend] at booking
  | gaveUp left =>
      have booking := part.abandon_booking a s now
      rwa [left] at booking

end Part

end Dispatch
