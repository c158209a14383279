import Dispatch.Proofs.Publishing.Books
import Dispatch.Proofs.Spans

/-!
# Postings

A `Watch` is an exchange with a note about every publish call that was polled: a `Posting`. It is made when
the call takes its first step and completed when the call ends. Nothing that runs reads it. `Books.Logs`
compares the books with the postings, `Matches` the calls; together they are kept by every move.
-/

set_option autoImplicit false

namespace Dispatch

/-- A publish call that was polled: how it ended, if it has, and the lease it had then. -/
structure Posting (ρ : Type) where
  errand : Nat
  backend : Backend
  message : Outgoing
  upshot : Option Upshot
  lease : Option (Lease ρ)

namespace Posting

variable {ρ : Type}

def isPublished (p : Posting ρ) (backend : Backend) : Bool :=
  p.backend = backend && p.upshot.any Upshot.succeeded

def isFailed (p : Posting ρ) (backend : Backend) : Bool :=
  p.backend = backend && p.upshot.any (!·.succeeded)

def span (p : Posting ρ) : RecordedSpan :=
  let destination := ("messaging.destination.name", p.message.destination.text)
  let operation := ("messaging.operation", "publish")
  let system := ("messaging.system", p.backend.name)
  let kind := ("otel.kind", "producer")
  { name := "courier.publish"
    fields :=
      match p.upshot with
      | none => [destination, operation, system, kind]
      | some (.returned (.ok receipt)) =>
        [destination, ("messaging.message.body.size", toString receipt.size), operation, system, kind,
          ("otel.status_code", "OK")]
      | some (.returned (.error error)) =>
        [("error.message", error.message), destination, operation, system, kind,
          ("otel.status_code", "ERROR")]
      | some .dropped =>
        [("error.message", "cancelled"), destination, operation, system, kind,
          ("otel.status_code", "ERROR")]
    closed := p.upshot.isSome }

def Confirms (p : Posting ρ) (receipt : Receipt) : Prop :=
  ∃ envelope, p.message.content = .ok envelope ∧ receipt.size = envelope.size ∧
    receipt.destination = envelope.destination ∧ receipt.backend = p.backend

def close (upshot : Upshot) (lease : Option (Lease ρ)) (p : Posting ρ) : Posting ρ :=
  { p with upshot := some upshot, lease }

theorem span_opened (errand : Nat) (backend : Backend) (message : Outgoing) :
    SpanRecorder.withFields (PublishSpan.opening backend.name message.destination.text)
      ⟨PublishSpan.name, [], false⟩ = (⟨errand, backend, message, none, none⟩ : Posting ρ).span := by
  simp only [SpanRecorder.withFields, PublishSpan.opening, PublishSpan.name, List.foldl_cons, List.foldl_nil,
    insertSorted, String.reduceLT, String.reduceEq, reduceIte, span, Option.isSome_none]

theorem span_closed {p : Posting ρ} (opened : p.upshot = none) (upshot : Upshot) (lease : Option (Lease ρ)) :
    { SpanRecorder.withFields upshot.fields p.span with closed := true } = (p.close upshot lease).span := by
  cases upshot with
  | returned result =>
      cases result with
      | ok receipt =>
          simp only [SpanRecorder.withFields, Upshot.fields, PublishSpan.success, List.foldl_cons,
            List.foldl_nil, insertSorted, String.reduceLT, String.reduceEq, reduceIte, span, opened, close,
            Option.isSome_some]
      | error error =>
          simp only [SpanRecorder.withFields, Upshot.fields, PublishSpan.failure, List.foldl_cons,
            List.foldl_nil, insertSorted, String.reduceLT, String.reduceEq, reduceIte, span, opened, close,
            Option.isSome_some]
  | dropped =>
      simp only [SpanRecorder.withFields, Upshot.fields, PublishSpan.failure, List.foldl_cons, List.foldl_nil,
        insertSorted, String.reduceLT, String.reduceEq, reduceIte, span, opened, close, Option.isSome_some]

end Posting

structure Books.Logs {ρ : Type} (b : Books) (postings : List (Posting ρ)) : Prop where
  spans : b.spans.spans = postings.map Posting.span
  next : b.nextSpan = postings.length
  places : ∀ id, b.spans.places.lookup id = if postings[id]?.any (·.upshot.isNone) then some id else none
  tally : ∀ backend : Backend, (b.tally backend.name).getD (0, 0) =
    (postings.countP (·.isPublished backend), postings.countP (·.isFailed backend))

theorem List.modify_middle {α : Type} (before after : List α) (entry : α) (f : α → α) :
    (before ++ entry :: after).modify before.length f = before ++ f entry :: after := by
  induction before with
  | nil => rfl
  | cons first before ih => simpa using ih

namespace Books.Logs

variable {ρ : Type} {b : Books} {postings : List (Posting ρ)}

theorem opens (logs : b.Logs postings) (errand : Nat) (backend : Backend) (message : Outgoing) :
    (b.opens backend message.destination).Logs (postings ++ [⟨errand, backend, message, none, none⟩]) := by
  have count : b.spans.spans.length = postings.length := by rw [logs.spans, List.length_map]
  constructor
  case spans =>
    simp only [Books.opens, SpanRecorder.start, List.map_append, List.map_cons, List.map_nil, logs.spans]
    rw [Posting.span_opened errand backend message]
  case next => simp [Books.opens, logs.next]
  case places =>
    intro id
    simp only [Books.opens, SpanRecorder.start, List.lookup_cons, lookup_filter_ne, logs.next, count]
    rcases Nat.lt_trichotomy id postings.length with old | rfl | beyond
    · rw [beq_false_of_ne (Nat.ne_of_lt old), List.getElem?_append_left old]
      simp [Nat.ne_of_lt old, logs.places]
    · simp
    · have none : postings[id]? = none := List.getElem?_eq_none (Nat.le_of_lt beyond)
      have none' : (postings ++ [⟨errand, backend, message, .none, .none⟩])[id]? = .none :=
        List.getElem?_eq_none (List.length_append.trans_le (Nat.succ_le_of_lt beyond))
      rw [beq_false_of_ne (Nat.ne_of_gt beyond)]
      simp only [if_neg (Nat.ne_of_gt beyond), logs.places, none, none']
  case tally =>
    intro other
    simp [Books.opens, logs.tally other, List.countP_append, Posting.isPublished, Posting.isFailed]

theorem closes (logs : b.Logs postings) {span : Nat} {posting : Posting ρ} (noted : postings[span]? = some posting)
    (opened : posting.upshot = none) (series : (b.tally posting.backend.name).isSome) (upshot : Upshot)
    (lease : Option (Lease ρ)) :
    (b.closes posting.backend span upshot).Logs (postings.modify span (Posting.close upshot lease)) := by
  have place : b.spans.places.lookup span = some span := by simp [logs.places, noted, opened]
  constructor
  case spans =>
    obtain ⟨before, held, after, rfl, rfl, modified⟩ := List.exists_of_modify (Posting.close upshot lease)
      (List.getElem?_eq_some_iff.1 noted).1
    obtain rfl : held = posting := by simpa using noted
    have middle := List.modify_middle (before.map Posting.span) (after.map Posting.span)
    rw [List.length_map] at middle
    simp only [Books.closes, SpanRecorder.record, SpanRecorder.close, place, logs.spans, modified,
      List.map_append, List.map_cons, middle, ← Posting.span_closed opened upshot lease]
  case next => simp [Books.closes, logs.next]
  case places =>
    intro id
    simp only [Books.closes, SpanRecorder.record, SpanRecorder.close, place, lookup_filter_ne, logs.places]
    by_cases same : id = span
    · simp [same, noted, Posting.close]
    · simp [same, Ne.symm same]
  case tally =>
    intro other
    obtain ⟨before, held, after, rfl, rfl, modified⟩ := List.exists_of_modify (Posting.close upshot lease)
      (List.getElem?_eq_some_iff.1 noted).1
    obtain rfl : held = posting := by simpa using noted
    have counts := logs.tally other
    simp only [modified, List.countP_append, List.countP_cons, Posting.isPublished, Posting.isFailed, opened,
      Posting.close, Books.closes] at counts ⊢
    by_cases same : other = held.backend
    · subst same
      obtain ⟨held, kept⟩ := Option.isSome_iff_exists.1 series
      rw [kept] at counts
      simp only [Option.getD_some] at counts
      cases succeeded : upshot.succeeded <;> simp [kept, counts, Upshot.add, succeeded] <;> omega
    · have apart : ¬other.name = held.backend.name := fun equal => same (Backend.name_injective equal)
      simp [apart, Ne.symm same, counts]

end Books.Logs

/-! ## Watching an exchange -/

section Watching

variable {ε ρ σ κ η : Type}

def Errand.posted? : Errand ε ρ σ κ η → Option (Outgoing × Nat)
  | .running call => call.part?.bind (·.2.posted?)
  | .ended _ => none

theorem Errand.posted_running {call : Call ε ρ σ κ η} {place : Nat} {part : Part ε ρ σ κ η}
    (known : call.part? = some (place, part)) : (Errand.running call).posted? = part.posted? := by
  simp [Errand.posted?, known]

theorem Part.posted_publishing {span : Nat} {message : Outgoing} {progress : Publishing ρ κ}
    (known : progress.span? = some span) :
    (Part.publishing message progress : Part ε ρ σ κ η).posted? = some (message, span) := by
  simp [posted?, known]

theorem Errand.posted_publishing {place span : Nat} {message : Outgoing} {progress : Publishing ρ κ}
    (known : progress.span? = some span) :
    (Errand.running (.publishing place message progress) : Errand ε ρ σ κ η).posted? = some (message, span) :=
  (Errand.posted_running rfl).trans (Part.posted_publishing known)

def Errand.publishing? : Errand ε ρ σ κ η → Option (Nat × Outgoing × Publishing ρ κ)
  | .running (.publishing place message progress) => some (place, message, progress)
  | _ => none

def Errand.upshot : Errand ε ρ σ κ η → Upshot
  | .ended (.published result) => .returned result
  | _ => .dropped

structure Watch (ε ρ σ κ η : Type) where
  exchange : Exchange ε ρ σ κ η
  postings : List (Posting ρ)

namespace Watch

def start (outside : ε) (process : String) : Watch ε ρ σ κ η := ⟨.start outside process, []⟩

/-- The postings after one call has acted: a publish call that took its first step gets one, a publish call
that ended completes its own. -/
def note (w : Watch ε ρ σ κ η) (number : Nat) (after : Exchange ε ρ σ κ η) : List (Posting ρ) :=
  match w.exchange.errands[number]?.bind Errand.publishing?, after.errands[number]? with
  | some (place, message, progress), some errand =>
    match progress.span?, errand.posted? with
    | none, some _ =>
      w.postings ++ (w.exchange.registry.adapters[place]?.map fun adapter =>
        ⟨number, adapter.backend, message, none, none⟩).toList
    | some span, none => w.postings.modify span (.close errand.upshot progress.standing.lease?)
    | _, _ => w.postings
  | _, _ => w.postings

def perform (w : Watch ε ρ σ κ η) (move : Exchange.Move ε ρ σ κ η) : Watch ε ρ σ κ η :=
  let after := w.exchange.perform move
  { exchange := after
    postings :=
      match move.prompt? with
      | none => w.postings
      | some (number, _) => w.note number after }

def run (w : Watch ε ρ σ κ η) (moves : List (Exchange.Move ε ρ σ κ η)) : Watch ε ρ σ κ η :=
  moves.foldl perform w

theorem run_exchange (moves : List (Exchange.Move ε ρ σ κ η)) (w : Watch ε ρ σ κ η) :
    (w.run moves).exchange = w.exchange.run moves := by
  induction moves generalizing w with
  | nil => rfl
  | cons move moves ih => exact ih (w.perform move)

end Watch

theorem Part.posted_fresh {part : Part ε ρ σ κ η} (fresh : part.isFresh) : part.posted? = none := by
  rcases Part.fresh_cases fresh with ⟨message, rfl⟩ | rfl | ⟨source, handler, rfl⟩ <;> rfl

theorem Errand.posted_fresh {call : Call ε ρ σ κ η}
    (fresh : ∀ place part, call.part? = some (place, part) → part.isFresh) :
    (Errand.running call).posted? = none := by
  cases known : call.part? with
  | none => simp [Errand.posted?, known]
  | some entry => exact (Errand.posted_running known).trans (Part.posted_fresh (fresh _ _ known))

theorem Call.Succeeds.posted {call : Call ε ρ σ κ η} {place : Nat} {fate : Part.Fate ε ρ σ κ η}
    {errand : Errand ε ρ σ κ η} (succeeds : call.Succeeds place fate errand) : errand.posted? = fate.posted? := by
  cases succeeds with
  | goesOn known checks => exact Errand.posted_running known
  | settled reply => rfl
  | @checked name result left => cases left <;> rfl

theorem Call.Leaves.posted {call : Call ε ρ σ κ η} {errand : Errand ε ρ σ κ η} (leaves : call.Leaves errand) :
    errand.posted? = none ∧ ∀ result, errand ≠ .ended (.published result) := by
  cases leaves with
  | gone | checked => exact ⟨rfl, fun result same => by cases same⟩
  | skipped checked progress first left =>
      refine ⟨?_, fun result same => by cases same⟩
      cases left <;> rfl

structure Errand.Noted (r : Registry ε ρ σ κ) (number : Nat) (errand : Errand ε ρ σ κ η)
    (postings : List (Posting ρ)) : Prop where
  polled : ∀ {call : Call ε ρ σ κ η} {place : Nat} {part : Part ε ρ σ κ η} {message : Outgoing} {span : Nat},
    errand = .running call → call.part? = some (place, part) → part.posted? = some (message, span) →
    ∃ a, r.adapters[place]? = some a ∧ postings[span]? = some ⟨number, a.backend, message, none, none⟩
  underway : ∀ {span : Nat} {posting : Posting ρ}, postings[span]? = some posting →
    posting.errand = number → posting.upshot = none → errand.posted? = some (posting.message, span)
  ended : ∀ {span : Nat} {posting : Posting ρ} {upshot : Upshot}, postings[span]? = some posting →
    posting.errand = number → posting.upshot = some upshot → errand = .ended upshot.reply
  answered : ∀ {result : Except BrokerError Receipt}, errand = .ended (.published result) →
    ∃ posting ∈ postings, posting.errand = number ∧ posting.upshot = some (.returned result)

structure Exchange.Matches (x : Exchange ε ρ σ κ η) (postings : List (Posting ρ)) : Prop where
  noted : ∀ (number : Nat) (errand : Errand ε ρ σ κ η), x.errands[number]? = some errand →
    errand.Noted x.registry number postings
  known : ∀ posting ∈ postings, posting.errand < x.errands.length
  once : (postings.map Posting.errand).Nodup

def Exchange.Listed (x : Exchange ε ρ σ κ η) : Prop :=
  ∀ (place : Nat) (a : Adapter ε ρ σ κ), x.registry.adapters[place]? = some a →
    (x.registry.shared.books.tally a.backend.name).isSome

namespace Errand.Noted

variable {r next : Registry ε ρ σ κ} {number : Nat} {errand after : Errand ε ρ σ κ η}
  {postings postings' : List (Posting ρ)}

theorem keep (noted : errand.Noted r number postings) (grown : r.Extends next)
    (same : ∀ (span : Nat) (posting : Posting ρ), posting.errand = number →
      (postings'[span]? = some posting ↔ postings[span]? = some posting)) :
    errand.Noted next number postings' where
  polled := by
    intro call place part message span running known posted
    obtain ⟨a, here, listed⟩ := noted.polled running known posted
    obtain ⟨b, there, -, transport, -⟩ := grown place a here
    refine ⟨b, there, (same _ _ rfl).2 ?_⟩
    rw [listed, Adapter.backend, Adapter.backend, transport]
  underway listed own := noted.underway ((same _ _ own).1 listed) own
  ended listed own := noted.ended ((same _ _ own).1 listed) own
  answered reply := by
    obtain ⟨posting, member, own, upshot⟩ := noted.answered reply
    obtain ⟨span, listed⟩ := List.getElem?_of_mem member
    exact ⟨posting, List.mem_of_getElem? ((same _ _ own).2 listed), own, upshot⟩

theorem ofUnposted (unposted : errand.posted? = none)
    (unanswered : ∀ result, errand ≠ .ended (.published result))
    (unnamed : ∀ posting ∈ postings, posting.errand ≠ number) : errand.Noted r number postings where
  polled running known posted := by
    subst running
    simp [Errand.posted?, known, posted] at unposted
  underway listed own := absurd own (unnamed _ (List.mem_of_getElem? listed))
  ended listed own := absurd own (unnamed _ (List.mem_of_getElem? listed))
  answered reply := absurd reply (unanswered _)

theorem unnamed {call : Call ε ρ σ κ η} (noted : (running call).Noted r number postings)
    (unposted : (running call).posted? = none) : ∀ posting ∈ postings, posting.errand ≠ number := by
  intro posting member own
  obtain ⟨span, listed⟩ := List.getElem?_of_mem member
  cases upshot : posting.upshot with
  | none =>
      have posted := noted.underway listed own upshot
      rw [unposted] at posted
      cases posted
  | some upshot => cases noted.ended listed own ‹_›

theorem place {call : Call ε ρ σ κ η} (noted : (running call).Noted r number postings) {message : Outgoing}
    {span span' : Nat} {posting : Posting ρ} (posted : (running call).posted? = some (message, span))
    (listed : postings[span']? = some posting) (own : posting.errand = number) : span' = span := by
  cases upshot : posting.upshot with
  | none =>
      have there := noted.underway listed own upshot
      rw [posted] at there
      cases there
      rfl
  | some upshot => cases noted.ended listed own ‹_›

theorem follow {call : Call ε ρ σ κ η} {here : Nat} {part : Part ε ρ σ κ η} {fate : Part.Fate ε ρ σ κ η}
    (noted : (running call).Noted r number postings) (grown : r.Extends next)
    (known : call.part? = some (here, part)) (succeeds : call.Succeeds here fate after)
    (same : fate.posted? = part.posted?) (unanswered : ∀ result, fate ≠ .settled (.published result)) :
    after.Noted next number postings := by
  have posted : after.posted? = (running call).posted? := by
    rw [succeeds.posted, same, Errand.posted_running known]
  constructor
  case polled =>
    intro following there later message span running known' posted'
    have before : part.posted? = some (message, span) := by
      rw [← same, ← succeeds.posted, running, Errand.posted_running known', posted']
    obtain ⟨a, found, listed⟩ := noted.polled rfl known before
    obtain ⟨b, held, -, transport, -⟩ := grown here a found
    have unmoved : there = here := by
      cases succeeds with
      | goesOn nextKnown checks =>
          cases running
          rw [known'] at nextKnown
          cases nextKnown
          rfl
      | settled reply => cases running
      | checked =>
          rw [← same] at before
          cases before
    subst unmoved
    refine ⟨b, held, ?_⟩
    rw [listed, Adapter.backend, Adapter.backend, transport]
  case underway =>
    intro span posting listed own upshot
    rw [posted]
    exact noted.underway listed own upshot
  case ended =>
    intro span posting upshot listed own ended
    cases noted.ended listed own ended
  case answered =>
    intro result reply
    subst reply
    cases succeeds with
    | settled => exact absurd rfl (unanswered result)

end Errand.Noted

namespace Exchange.Matches

variable {x y : Exchange ε ρ σ κ η} {postings postings' : List (Posting ρ)}

theorem start (outside : ε) (process : String) :
    (Exchange.start outside process : Exchange ε ρ σ κ η).Matches [] where
  noted number errand found := by cases found
  known posting member := by cases member
  once := List.nodup_nil

theorem grow (matched : x.Matches postings) (grown : x.registry.Extends y.registry)
    (errands : y.errands = x.errands) : y.Matches postings where
  noted number errand found := by
    rw [errands] at found
    exact (matched.noted number errand found).keep grown fun _ _ _ => Iff.rfl
  known := by rw [errands]; exact matched.known
  once := matched.once

theorem begin (matched : x.Matches postings) {call : Call ε ρ σ κ η}
    (fresh : ∀ place part, call.part? = some (place, part) → part.isFresh)
    (registry : y.registry = x.registry) (errands : y.errands = x.errands ++ [.running call]) :
    y.Matches postings where
  noted number errand found := by
    rw [errands] at found
    rw [registry]
    rcases getElem?_concat_cases found with found | ⟨rfl, rfl⟩
    · exact matched.noted number errand found
    · refine .ofUnposted ?_ (fun result same => by cases same) fun posting member =>
        Nat.ne_of_lt (matched.known posting member)
      exact Errand.posted_fresh fresh
  known posting member := by
    rw [errands, List.length_append]
    exact Nat.lt_add_right _ (matched.known posting member)
  once := matched.once

theorem act (matched : x.Matches postings) {number : Nat} {errand : Errand ε ρ σ κ η}
    (grown : x.registry.Extends y.registry) (errands : y.errands = x.errands.set number errand)
    (same : ∀ (span : Nat) (posting : Posting ρ), posting.errand ≠ number →
      (postings'[span]? = some posting ↔ postings[span]? = some posting))
    (noted : errand.Noted y.registry number postings')
    (known : ∀ posting ∈ postings', posting.errand < x.errands.length)
    (once : (postings'.map Posting.errand).Nodup) : y.Matches postings' where
  noted other held found := by
    rw [errands] at found
    rcases getElem?_set_cases found with ⟨rfl, rfl⟩ | ⟨apart, found⟩
    · exact noted
    · exact (matched.noted other held found).keep grown fun span posting own => same span posting (own ▸ apart)
  known := by rw [errands, List.length_set]; exact known
  once := once

end Exchange.Matches

theorem Books.Logs.congr {b c : Books} {postings : List (Posting ρ)} (logs : b.Logs postings)
    (spans : c.spans = b.spans) (next : c.nextSpan = b.nextSpan)
    (tally : ∀ name, (c.tally name).getD (0, 0) = (b.tally name).getD (0, 0)) : c.Logs postings where
  spans := by rw [spans, logs.spans]
  next := by rw [next, logs.next]
  places := by rw [spans]; exact logs.places
  tally backend := by rw [tally, logs.tally]

theorem Part.Booking.series {backend : Backend} {b c : Books} {part : Part ε ρ σ κ η}
    {fate : Part.Fate ε ρ σ κ η} (booking : part.Booking backend b fate c) {name : String}
    (series : (b.tally name).isSome) : (c.tally name).isSome := by
  cases booking with
  | kept | opened => exact series
  | closed =>
      simp only [Books.closes]
      split
      · rwa [Option.isSome_map]
      · exact series

theorem Call.eq_publishing {call : Call ε ρ σ κ η} {place : Nat} {message : Outgoing} {progress : Publishing ρ κ}
    (known : call.part? = some (place, .publishing message progress)) :
    call = .publishing place message progress := by
  cases call with
  | publishing | checking | consuming =>
      cases known
      try rfl
  | checkingAll checked progress left => cases left <;> cases known

theorem Registry.Tended.books {move : Exchange.Move ε ρ σ κ η} {r next : Registry ε ρ σ κ}
    (tended : r.Tended move next) :
    next.shared.books.spans = r.shared.books.spans ∧ next.shared.books.nextSpan = r.shared.books.nextSpan ∧
      ∀ name, (next.shared.books.tally name).getD (0, 0) = (r.shared.books.tally name).getD (0, 0) ∧
        ((r.shared.books.tally name).isSome → (next.shared.books.tally name).isSome) := by
  have enlisted (key : MetricsKey) (name : String) (held : Option (Nat × Nat)) :
      (held.or (if name = key.backend then some (0, 0) else none)).getD (0, 0) = held.getD (0, 0) ∧
        (held.isSome → (held.or (if name = key.backend then some (0, 0) else none)).isSome) := by
    cases held with
    | none => split <;> simp
    | some held => simp
  cases tended with
  | enlisted key =>
      refine ⟨rfl, rfl, ?_⟩
      intro name
      rw [Shared.enlist_books]
      exact enlisted key name _
  | added names asked =>
      refine ⟨rfl, rfl, ?_⟩
      intro name
      rw [Shared.enlist_books]
      exact enlisted _ name _
  | changed found tended =>
      dsimp only
      rw [tended.books]
      exact ⟨rfl, rfl, fun name => ⟨rfl, id⟩⟩
  | reported | disturbed => exact ⟨rfl, rfl, fun name => ⟨rfl, id⟩⟩

def Part.Prepared : Part ε ρ σ κ η → Prop
  | .publishing message (.sending _ _ envelope _) =>
    ∃ original, message.content = .ok original ∧ envelope.destination = original.destination ∧
      envelope.payload = original.payload
  | _ => True

theorem Publishing.prepare_frame (a : Adapter ε ρ σ κ) (e : Envelope) :
    (prepare a e).1.destination = e.destination ∧ (prepare a e).1.payload = e.payload := by
  unfold prepare withoutHeaders
  dsimp only
  split
  · exact ⟨rfl, rfl⟩
  · split
    · exact ⟨rfl, rfl⟩
    · split <;> exact ⟨rfl, rfl⟩

theorem Part.Prepared.deed {now : Instant} {a next : Adapter ε ρ σ κ} {s later : Shared ε}
    {part after : Part ε ρ σ κ η} {prompt : Prompt}
    (deed : part.Deed now a s prompt (.goesOn after) next later) (prepared : part.Prepared) :
    after.Prepared := by
  unfold Prepared
  split
  · rcases deed.sending with ⟨execution, rfl⟩ | ⟨original, content, rfl⟩
    · exact prepared
    · exact ⟨original, content, Publishing.prepare_frame a original⟩
  · trivial

theorem Exchange.Change.prepared {x y : Exchange ε ρ σ κ η} {move : Exchange.Move ε ρ σ κ η}
    (change : x.Change move y) (prepared : x.EachPart fun _ part => part.Prepared) :
    y.EachPart fun _ part => part.Prepared := by
  refine prepared.change change (fun place part begins => ?_) (fun place part prepared => prepared)
    fun here deed there prepared => prepared.deed deed
  cases begins <;> trivial

structure Watch.Sound (w : Watch ε ρ σ κ η) : Prop where
  logs : w.exchange.registry.shared.books.Logs w.postings
  matched : w.exchange.Matches w.postings
  listed : w.exchange.Listed
  prepared : w.exchange.EachPart fun _ part => part.Prepared
  receipts : ∀ posting ∈ w.postings, ∀ receipt, posting.upshot = some (.returned (.ok receipt)) →
    posting.Confirms receipt

namespace Watch.Sound

variable {w : Watch ε ρ σ κ η}

theorem start (outside : ε) (process : String) : (Watch.start outside process : Watch ε ρ σ κ η).Sound where
  logs := ⟨rfl, rfl, fun id => rfl, fun backend => rfl⟩
  matched := .start outside process
  listed place a found := by cases found
  prepared number call place part found := by cases found
  receipts posting member := by cases member

theorem tend {x y : Exchange ε ρ σ κ η} {postings : List (Posting ρ)} {move : Exchange.Move ε ρ σ κ η}
    (sound : Sound ⟨x, postings⟩) (errands : y.errands = x.errands)
    (tended : x.registry.Tended move y.registry) : Sound ⟨y, postings⟩ := by
  obtain ⟨spans, next, tally⟩ := tended.books
  refine ⟨sound.logs.congr spans next fun name => (tally name).1, sound.matched.grow tended.extends errands, ?_,
    fun number call place part found => sound.prepared number call place part (errands ▸ found), sound.receipts⟩
  intro place a found
  have before (b : Adapter ε ρ σ κ) (held : x.registry.adapters[place]? = some b)
      (same : a.transport = b.transport) : (y.registry.shared.books.tally a.backend.name).isSome := by
    rw [Adapter.backend, same]
    exact (tally _).2 (sound.listed place b held)
  generalize y.registry = next at tended found before
  cases tended with
  | enlisted | reported | disturbed => exact before a found rfl
  | added names asked =>
      rcases getElem?_concat_cases found with found | ⟨-, rfl⟩
      · exact before a found rfl
      · rw [Shared.enlist_books]
        simp [Adapter.backend, Adapter.new, Transport.ofSettings]
  | changed held tended =>
      rcases getElem?_set_cases found with ⟨rfl, rfl⟩ | ⟨-, found⟩
      · refine before _ held ?_
        cases tended <;> rfl
      · exact before a found rfl

theorem note_same {w : Watch ε ρ σ κ η} {number : Nat} {call : Call ε ρ σ κ η} {errand : Errand ε ρ σ κ η}
    {after : Exchange ε ρ σ κ η} (found : w.exchange.errands[number]? = some (.running call))
    (errands : after.errands = w.exchange.errands.set number errand)
    (same : errand.posted? = (Errand.running call).posted?) : w.note number after = w.postings := by
  have there : after.errands[number]? = some errand := by
    rw [errands, List.getElem?_set_self (List.getElem?_eq_some_iff.1 found).1]
  cases call with
  | publishing place message progress =>
      have posted : errand.posted? = progress.span?.map fun span => (message, span) := same
      simp only [note, found, there, Option.bind_some, Errand.publishing?, posted]
      cases progress.span? <;> rfl
  | checking | consuming | checkingAll => simp [note, found, Errand.publishing?]

theorem note_idle {w : Watch ε ρ σ κ η} {number : Nat} (y : Exchange ε ρ σ κ η)
    (idle : ∀ call, w.exchange.errands[number]? ≠ some (.running call)) : w.note number y = w.postings := by
  unfold Watch.note
  cases found : w.exchange.errands[number]? with
  | none => rfl
  | some errand =>
      cases errand with
      | running call => exact absurd found (idle call)
      | ended reply => rfl

theorem unposted (sound : w.Sound) {number : Nat} {call : Call ε ρ σ κ η}
    (found : w.exchange.errands[number]? = some (.running call)) (vacant : call.Vacant w.exchange.registry) :
    (Errand.running call).posted? = none := by
  cases known : call.part? with
  | none => simp [Errand.posted?, known]
  | some entry =>
      rw [Errand.posted_running known]
      cases posted : entry.2.posted? with
      | none => rfl
      | some key =>
          obtain ⟨a, here, -⟩ := (sound.matched.noted number _ found).polled rfl known posted
          rw [vacant _ _ known] at here
          cases here

theorem note_left (sound : w.Sound) {number : Nat} {call : Call ε ρ σ κ η} {errand : Errand ε ρ σ κ η}
    {y : Exchange ε ρ σ κ η} (found : w.exchange.errands[number]? = some (.running call))
    (vacant : call.Vacant w.exchange.registry) (leaves : call.Leaves errand)
    (errands : y.errands = w.exchange.errands.set number errand) : w.note number y = w.postings :=
  note_same found errands (leaves.posted.1.trans (sound.unposted found vacant).symm)

theorem own_posting (sound : w.Sound) {number place span : Nat} {message : Outgoing} {progress : Publishing ρ κ}
    (found : w.exchange.errands[number]? = some (.running (.publishing place message progress)))
    (known : progress.span? = some span) :
    ∃ a, w.exchange.registry.adapters[place]? = some a ∧
      w.postings[span]? = some ⟨number, a.backend, message, none, none⟩ :=
  (sound.matched.noted number _ found).polled rfl rfl (Part.posted_publishing known)

theorem note_opened {w : Watch ε ρ σ κ η} {number place span : Nat} {message : Outgoing} {after : Publishing ρ κ}
    {a : Adapter ε ρ σ κ} {y : Exchange ε ρ σ κ η}
    (found : w.exchange.errands[number]? = some (.running (.publishing place message .fresh)))
    (here : w.exchange.registry.adapters[place]? = some a)
    (there : y.errands[number]? = some (.running (.publishing place message after)))
    (known : after.span? = some span) :
    w.note number y = w.postings ++ [⟨number, a.backend, message, none, none⟩] := by
  simp [Watch.note, found, there, Errand.publishing?, Publishing.span?, Errand.posted_publishing known, here]

theorem note_closed {w : Watch ε ρ σ κ η} {number place span : Nat} {message : Outgoing} {progress : Publishing ρ κ}
    {upshot : Upshot} {y : Exchange ε ρ σ κ η}
    (found : w.exchange.errands[number]? = some (.running (.publishing place message progress)))
    (there : y.errands[number]? = some (.ended upshot.reply)) (known : progress.span? = some span) :
    w.note number y = w.postings.modify span (.close upshot progress.standing.lease?) := by
  have told : (Errand.ended upshot.reply : Errand ε ρ σ κ η).upshot = upshot := by cases upshot <;> rfl
  simp [Watch.note, found, there, Errand.publishing?, known, Errand.posted?, told]

theorem kept (sound : w.Sound) {number : Nat} {errand : Errand ε ρ σ κ η} {y : Exchange ε ρ σ κ η}
    (grown : w.exchange.registry.Extends y.registry) (errands : y.errands = w.exchange.errands.set number errand)
    (books : y.registry.shared.books = w.exchange.registry.shared.books)
    (noted : errand.Noted y.registry number w.postings) (listed : y.Listed)
    (prepared : y.EachPart fun _ part => part.Prepared) : Sound ⟨y, w.postings⟩ where
  logs := by
    dsimp only
    rw [books]
    exact sound.logs
  matched := sound.matched.act grown errands (fun _ _ _ => Iff.rfl) noted sound.matched.known sound.matched.once
  listed := listed
  prepared := prepared
  receipts := sound.receipts

theorem opened (sound : w.Sound) {number place : Nat} {message : Outgoing} {after : Publishing ρ κ}
    {a : Adapter ε ρ σ κ} {y : Exchange ε ρ σ κ η}
    (found : w.exchange.errands[number]? = some (.running (.publishing place message .fresh)))
    (here : w.exchange.registry.adapters[place]? = some a) (grown : w.exchange.registry.Extends y.registry)
    (errands : y.errands = w.exchange.errands.set number (.running (.publishing place message after)))
    (span : after.span? = some w.exchange.registry.shared.books.nextSpan)
    (books : y.registry.shared.books =
      w.exchange.registry.shared.books.opens a.backend message.destination) (listed : y.Listed)
    (prepared : y.EachPart fun _ part => part.Prepared) :
    Sound ⟨y, w.note number y⟩ := by
  have bound : number < w.exchange.errands.length := (List.getElem?_eq_some_iff.1 found).1
  have there : y.errands[number]? = some (.running (.publishing place message after)) := by
    rw [errands, List.getElem?_set_self bound]
  have unnamed := (sound.matched.noted number _ found).unnamed rfl
  rw [sound.logs.next] at span
  have posted : (Errand.running (.publishing place message after) : Errand ε ρ σ κ η).posted? =
      some (message, w.postings.length) := Errand.posted_publishing span
  rw [note_opened found here there span]
  refine ⟨?_, sound.matched.act grown errands ?_ ?_ ?_ ?_, listed, prepared, ?_⟩
  · dsimp only
    rw [books]
    exact sound.logs.opens number a.backend message
  · intro there posting apart
    refine ⟨fun held => ?_, fun held => ?_⟩
    · rcases getElem?_concat_cases held with held | ⟨-, rfl⟩
      · exact held
      · exact absurd rfl apart
    · rw [List.getElem?_append_left (List.getElem?_eq_some_iff.1 held).1, held]
  · constructor
    case polled =>
      intro call other part message' span' running known posted'
      cases running
      cases known
      obtain ⟨b, held, -, transport, -⟩ := grown place a here
      have backend : b.backend = a.backend := congrArg Transport.kind transport
      have same : (message, w.postings.length) = (message', span') := by
        rw [Errand.posted_running rfl, posted'] at posted
        exact (Option.some.inj posted).symm
      cases same
      exact ⟨b, held, by simp [backend]⟩
    case underway =>
      intro span' posting held own upshot
      rcases getElem?_concat_cases held with held | ⟨rfl, rfl⟩
      · exact absurd own (unnamed _ (List.mem_of_getElem? held))
      · exact posted
    case ended =>
      intro span' posting upshot held own ended
      rcases getElem?_concat_cases held with held | ⟨rfl, rfl⟩
      · exact absurd own (unnamed _ (List.mem_of_getElem? held))
      · cases ended
    case answered =>
      intro result reply
      cases reply
  · intro posting member
    rcases List.mem_append.1 member with member | member
    · exact sound.matched.known posting member
    · rw [List.mem_singleton.1 member]
      exact bound
  · rw [List.map_append, List.map_singleton, List.nodup_append_comm]
    refine List.nodup_cons.2 ⟨fun member => ?_, sound.matched.once⟩
    obtain ⟨posting, listed, own⟩ := List.mem_map.1 member
    exact unnamed posting listed own
  · intro posting member receipt upshot
    rcases List.mem_append.1 member with member | member
    · exact sound.receipts posting member receipt upshot
    · rw [List.mem_singleton.1 member] at upshot
      cases upshot

theorem closed (sound : w.Sound) {number place span : Nat} {message : Outgoing} {progress : Publishing ρ κ}
    {a : Adapter ε ρ σ κ} {upshot : Upshot} {y : Exchange ε ρ σ κ η}
    (found : w.exchange.errands[number]? = some (.running (.publishing place message progress)))
    (here : w.exchange.registry.adapters[place]? = some a) (grown : w.exchange.registry.Extends y.registry)
    (errands : y.errands = w.exchange.errands.set number (.ended upshot.reply))
    (known : progress.span? = some span)
    (books : y.registry.shared.books =
      w.exchange.registry.shared.books.closes a.backend span upshot) (listed : y.Listed)
    (prepared : y.EachPart fun _ part => part.Prepared)
    (sent : ∀ given, upshot = .returned (.ok given) → progress.Sent a.backend given) :
    Sound ⟨y, w.note number y⟩ := by
  have bound : number < w.exchange.errands.length := (List.getElem?_eq_some_iff.1 found).1
  have there : y.errands[number]? = some (.ended upshot.reply) := by
    rw [errands, List.getElem?_set_self bound]
  have before := sound.matched.noted number _ found
  obtain ⟨b, held, own⟩ := sound.own_posting found known
  rw [here] at held
  cases held
  -- the postings after the call ended, by their place
  have entry (there : Nat) : (w.postings.modify span (.close upshot progress.standing.lease?))[there]? =
      if there = span then some ⟨number, a.backend, message, some upshot, progress.standing.lease?⟩
      else w.postings[there]? := by
    by_cases same : there = span
    · simp [same, own, Posting.close]
    · simp [same, Ne.symm same]
  rw [note_closed found there known]
  refine ⟨?_, sound.matched.act grown errands ?_ ?_ ?_ ?_, listed, prepared, ?_⟩
  · dsimp only
    rw [books]
    exact sound.logs.closes own rfl (sound.listed place a here) upshot progress.standing.lease?
  · intro there posting apart
    rw [entry]
    split
    · rename_i same
      subst same
      rw [own]
      refine ⟨fun same => ?_, fun same => ?_⟩ <;> cases same <;> exact absurd rfl apart
    · exact Iff.rfl
  · constructor
    case polled =>
      intro call other part message' span' running
      cases running
    case underway =>
      intro there posting held own' open_
      rw [entry] at held
      split at held
      · cases held
        cases open_
      · rename_i apart
        exact absurd (before.place (Errand.posted_publishing known) held own') apart
    case ended =>
      intro there posting ending held own' ended
      rw [entry] at held
      split at held
      · cases held
        cases ended
        rfl
      · rename_i apart
        exact absurd (before.place (Errand.posted_publishing known) held own') apart
    case answered =>
      intro result reply
      refine ⟨_, List.mem_of_getElem? ((entry span).trans (if_pos rfl)), rfl, ?_⟩
      cases upshot with
      | returned given => cases reply; rfl
      | dropped => cases reply
  · intro posting member
    obtain ⟨there, held⟩ := List.getElem?_of_mem member
    rw [entry] at held
    split at held
    · cases held
      exact bound
    · exact sound.matched.known posting (List.mem_of_getElem? held)
  · have same : (w.postings.modify span (.close upshot progress.standing.lease?)).map Posting.errand =
        w.postings.map Posting.errand := by
      apply List.ext_getElem?
      intro there
      rw [List.getElem?_map, List.getElem?_map, entry]
      split
      · rename_i at_
        rw [at_, own]
        rfl
      · rfl
    rw [same]
    exact sound.matched.once
  · intro posting member receipt ok
    obtain ⟨there, held⟩ := List.getElem?_of_mem member
    rw [entry] at held
    split at held
    · cases held
      cases ok
      obtain ⟨span, lease, envelope, execution, rfl, backend, destination, size⟩ := sent receipt rfl
      obtain ⟨original, content, destination', payload⟩ := sound.prepared number _ place _ found rfl
      refine ⟨original, content, ?_, destination.trans destination', backend⟩
      rw [size, Envelope.size, Envelope.size, payload]
    · exact sound.receipts posting (List.mem_of_getElem? held) receipt ok

theorem perform (sound : w.Sound) (move : Exchange.Move ε ρ σ κ η) : (w.perform move).Sound := by
  have change := w.exchange.perform_change move
  unfold Watch.perform
  generalize w.exchange.perform move = y at change
  have prepared : y.EachPart fun _ part => part.Prepared := change.prepared sound.prepared
  cases change with
  | tended unprompted errands tended =>
      simp only [unprompted]
      obtain ⟨now, registry, errands, unreported⟩ := y
      obtain rfl := errands
      change Relation.ReflTransGen _ _ registry at tended
      clear prepared
      induction tended with
      | refl =>
          exact ⟨sound.logs, ⟨sound.matched.noted, sound.matched.known, sound.matched.once⟩, sound.listed,
            sound.prepared, sound.receipts⟩
      | tail _ last ih => exact ih.tend rfl last
  | began unprompted begins checks registry errands =>
      have fresh place part known := (begins place part known).isFresh
      simp only [unprompted]
      refine ⟨?_, sound.matched.begin fresh registry errands, ?_, prepared, sound.receipts⟩
      · rw [registry]
        exact sound.logs
      · rw [Exchange.Listed, registry]
        exact sound.listed
  | @passed number prompt prompted idle registry errands =>
      simp only [prompted, note_idle y idle]
      refine ⟨?_, sound.matched.grow (.of_eq (by rw [registry])) errands, ?_, prepared, sound.receipts⟩
      · rw [registry]
        exact sound.logs
      · rw [Exchange.Listed, registry]
        exact sound.listed
  | @left number prompt call errand prompted found vacant leaves registry errands =>
      have noted := sound.matched.noted number _ found
      simp only [prompted, sound.note_left found vacant leaves errands]
      refine sound.kept (.of_eq (by rw [registry])) errands (by rw [registry]) ?_ ?_ prepared
      · exact .ofUnposted leaves.posted.1 leaves.posted.2 (noted.unnamed (sound.unposted found vacant))
      · rw [Exchange.Listed, registry]
        exact sound.listed
  | @acted number prompt call errand place part a next later fate prompted found known here deed succeeds
      registry errands =>
      have noted := sound.matched.noted number _ found
      have grown : w.exchange.registry.Extends y.registry := by
        rw [registry]
        exact .set here deed.wiring.1 deed.wiring.2 deed.options
      have booking := deed.booking
      have listed : y.Listed := by
        intro there b held
        rw [registry] at held ⊢
        refine booking.series ?_
        rcases getElem?_set_cases held with ⟨-, rfl⟩ | ⟨-, held⟩
        · rw [Adapter.backend, deed.wiring.2]
          exact sound.listed place a here
        · exact sound.listed there b held
      have books : y.registry.shared.books = later.books := by rw [registry]
      have there : y.errands[number]? = some errand := by
        rw [errands, List.getElem?_set_self (List.getElem?_eq_some_iff.1 found).1]
      simp only [prompted]
      generalize later.books = after at booking books
      cases booking with
      | kept same unanswered =>
          have unnoted := note_same found errands
            ((succeeds.posted.trans same).trans (Errand.posted_running known).symm)
          rw [unnoted]
          exact sound.kept grown errands books (noted.follow grown known succeeds same unanswered) listed prepared
      | @opened message progress first span =>
          subst first
          obtain rfl := Call.eq_publishing known
          cases succeeds with
          | goesOn nextKnown checks =>
              obtain rfl := Call.eq_publishing nextKnown
              exact sound.opened found here grown errands span books listed prepared
      | @closed message progress span upshot posted spanKnown sent =>
          subst posted
          obtain rfl := Call.eq_publishing known
          have ended : errand = .ended upshot.reply := by
            cases upshot <;> cases succeeds <;> rfl
          subst ended
          exact sound.closed found here grown errands spanKnown books listed prepared sent

end Watch.Sound

end Watching

end Dispatch
