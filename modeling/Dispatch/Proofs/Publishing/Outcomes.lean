import Dispatch.Proofs.Publishing.Postings

set_option autoImplicit false

namespace Dispatch

def Posting.key {ρ : Type} (p : Posting ρ) : Nat × Backend × Outgoing := (p.errand, p.backend, p.message)

theorem Publishing.span_of_begun {ρ κ : Type} {progress : Publishing ρ κ} (begun : progress ≠ .fresh) :
    ∃ span, progress.span? = some span := by
  cases progress with
  | fresh => exact absurd rfl begun
  | limiting span | leasing span | preparing span | sending span => exact ⟨span, rfl⟩

theorem Errand.eq_publishing {ε ρ σ κ η : Type} {errand : Errand ε ρ σ κ η} {place : Nat} {message : Outgoing}
    {progress : Publishing ρ κ} (publishing : errand.publishing? = some (place, message, progress)) :
    errand = .running (.publishing place message progress) := by
  unfold publishing? at publishing
  split at publishing <;> cases publishing
  rfl

def Call.isCheck {ε ρ σ κ η : Type} : Call ε ρ σ κ η → Bool
  | .checking _ _ | .checkingAll _ _ _ => true
  | _ => false

namespace Watch

variable {ε ρ σ κ η : Type}

structure Accounted (w : Watch ε ρ σ κ η) : Prop where
  once : (w.postings.map Posting.errand).Nodup
  /-- The first step of a call always opens its posting. -/
  begun : ∀ (number place : Nat) (message : Outgoing) (a : Adapter ε ρ σ κ) (cancelled : Bool),
    w.exchange.errands[number]? = some (.running (.publishing place message .fresh)) →
    w.exchange.registry.adapters[place]? = some a →
    (w.perform (.step number cancelled)).postings = w.postings ++ [⟨number, a.backend, message, none, none⟩]
  polled : ∀ (number place : Nat) (message : Outgoing) (progress : Publishing ρ κ),
    w.exchange.errands[number]? = some (.running (.publishing place message progress)) →
    progress ≠ .fresh → ∃ a, w.exchange.registry.adapters[place]? = some a ∧
      ⟨number, a.backend, message, none, none⟩ ∈ w.postings
  returned : ∀ (number : Nat) (result : Except BrokerError Receipt),
    w.exchange.errands[number]? = some (.ended (.published result)) →
    ∃ posting ∈ w.postings, posting.errand = number ∧ posting.upshot = some (.returned result)
  running : ∀ posting ∈ w.postings, posting.upshot = none → ∃ place progress,
    w.exchange.errands[posting.errand]? = some (.running (.publishing place posting.message progress)) ∧
      progress ≠ .fresh
  ended : ∀ posting ∈ w.postings, ∀ upshot, posting.upshot = some upshot →
    w.exchange.errands[posting.errand]? = some (.ended upshot.reply)
  dropped : ∀ (number place : Nat) (message : Outgoing) (progress : Publishing ρ κ),
    w.exchange.errands[number]? = some (.running (.publishing place message progress)) → progress ≠ .fresh →
    ∃ posting ∈ (w.perform (.abandon number)).postings,
      posting.errand = number ∧ posting.upshot = some .dropped
  confirmed : ∀ posting ∈ w.postings, ∀ receipt, posting.upshot = some (.returned (.ok receipt)) →
    posting.Confirms receipt
  counted : ∀ backend : Backend,
    let counters := w.exchange.registry.shared.metrics.countersOf backend.name
    counters.published = w.postings.countP (·.isPublished backend) ∧
      counters.failed = w.postings.countP (·.isFailed backend)
  spans : w.exchange.registry.shared.spans.spans = w.postings.map Posting.span
  checks : ∀ (number : Nat) (call : Call ε ρ σ κ η), w.exchange.errands[number]? = some (.running call) →
    call.isCheck → ∀ move prompt, move.prompt? = some (number, prompt) →
      (w.exchange.perform move).registry.shared.books = w.exchange.registry.shared.books

theorem check_books {x : Exchange ε ρ σ κ η} {number : Nat} {call : Call ε ρ σ κ η} {prompt : Prompt}
    {move : Exchange.Move ε ρ σ κ η} (found : x.errands[number]? = some (.running call)) (check : call.isCheck)
    (prompted : move.prompt? = some (number, prompt)) :
    (x.perform move).registry.shared.books = x.registry.shared.books := by
  cases x.perform_change move with
  | tended unprompted | began unprompted =>
      rw [prompted] at unprompted
      cases unprompted
  | passed _ _ registry | left _ _ _ _ registry => rw [registry]
  | @acted here _ other _ _ part a next later fate prompted' found' known _ deed _ registry =>
      rw [prompted] at prompted'
      cases prompted'
      rw [found] at found'
      cases found'
      have unposted (message : Outgoing) (progress : Publishing ρ κ) : part ≠ .publishing message progress := by
        rintro rfl
        obtain rfl := Call.eq_publishing known
        cases check
      rw [registry]
      generalize same : later.books = books
      have booking := deed.booking
      rw [same] at booking
      cases booking with
      | kept => rfl
      | opened first => exact absurd first (unposted _ _)
      | closed _ posted => exact absurd posted (unposted _ _)

theorem opens {w : Watch ε ρ σ κ η} {number place : Nat} {message : Outgoing} {a : Adapter ε ρ σ κ}
    (found : w.exchange.errands[number]? = some (.running (.publishing place message .fresh)))
    (here : w.exchange.registry.adapters[place]? = some a) (cancelled : Bool) :
    (w.perform (.step number cancelled)).postings =
      w.postings ++ [⟨number, a.backend, message, none, none⟩] := by
  have bound : number < w.exchange.errands.length := (List.getElem?_eq_some_iff.1 found).1
  obtain ⟨after, span, stepped, known⟩ : ∃ (after : Publishing ρ κ) (span : Nat),
      (Publishing.fresh.step a w.exchange.registry.shared message w.exchange.now cancelled).turn = .moved after ∧
        after.span? = some span := by
    refine ⟨_, w.exchange.registry.shared.nextSpan, rfl, ?_⟩
    cases a.bucket.isSome <;> rfl
  have there : (w.exchange.perform (.step number cancelled)).errands[number]? =
      some (.running (.publishing place message after)) := by
    simp only [Exchange.perform, found, Exchange.advance, Call.step, here, stepped, Turn.lift, Exchange.setErrand,
      Exchange.become, List.getElem?_set_self bound]
  exact Sound.note_opened found here there known

theorem Sound.drops {w : Watch ε ρ σ κ η} (sound : w.Sound) {number place : Nat} {message : Outgoing}
    {progress : Publishing ρ κ}
    (found : w.exchange.errands[number]? = some (.running (.publishing place message progress)))
    {span : Nat} (known : progress.span? = some span) :
    ∃ posting ∈ (w.perform (.abandon number)).postings,
      posting.errand = number ∧ posting.upshot = some .dropped := by
  have bound : number < w.exchange.errands.length := (List.getElem?_eq_some_iff.1 found).1
  obtain ⟨a, here, own⟩ := sound.own_posting found known
  have there : (w.exchange.perform (.abandon number)).errands[number]? = some (.ended Upshot.dropped.reply) := by
    simp only [Exchange.perform, found, Exchange.giveUp, Exchange.setErrand, Exchange.become, Upshot.reply,
      List.getElem?_set_self bound]
  have closed : (w.perform (.abandon number)).postings =
      w.postings.modify span (.close .dropped progress.standing.lease?) :=
    note_closed found there known
  have listed : (w.perform (.abandon number)).postings[span]? =
      some ⟨number, a.backend, message, some .dropped, progress.standing.lease?⟩ := by
    rw [closed, List.getElem?_modify_eq, own]
    rfl
  exact ⟨_, List.mem_of_getElem? listed, rfl, rfl⟩

theorem Sound.accounted {w : Watch ε ρ σ κ η} (sound : w.Sound) : w.Accounted where
  once := sound.matched.once
  begun number place message a cancelled found here := opens found here cancelled
  polled := by
    intro number place message progress found begun
    obtain ⟨span, known⟩ := Publishing.span_of_begun begun
    obtain ⟨a, here, listed⟩ := sound.own_posting found known
    exact ⟨a, here, List.mem_of_getElem? listed⟩
  returned number result found := (sound.matched.noted number _ found).answered rfl
  running := by
    intro posting member opened
    obtain ⟨span, listed⟩ := List.getElem?_of_mem member
    obtain ⟨errand, found⟩ : ∃ errand, w.exchange.errands[posting.errand]? = some errand :=
      ⟨_, List.getElem?_eq_getElem (sound.matched.known posting member)⟩
    have posted := (sound.matched.noted _ _ found).underway listed rfl opened
    rw [found]
    cases errand with
    | ended reply => cases posted
    | running call =>
        obtain ⟨⟨place, part⟩, known, posted⟩ := Option.bind_eq_some_iff.1 posted
        cases part with
        | checking | consuming => cases posted
        | publishing message progress =>
            obtain ⟨span', begun, same⟩ := Option.map_eq_some_iff.1 posted
            cases same
            refine ⟨place, progress, by rw [Call.eq_publishing known], ?_⟩
            rintro rfl
            cases begun
  ended := by
    intro posting member upshot ended
    obtain ⟨span, listed⟩ := List.getElem?_of_mem member
    have bound := sound.matched.known posting member
    have found := List.getElem?_eq_getElem bound
    rw [found, (sound.matched.noted _ _ found).ended listed rfl ended]
  dropped number place message progress found begun := by
    obtain ⟨span, known⟩ := Publishing.span_of_begun begun
    exact sound.drops found known
  confirmed := sound.receipts
  counted := by
    intro backend
    have tally := sound.logs.tally backend
    simp only [Shared.books, MetricsRegistry.countersOf] at tally ⊢
    cases series : w.exchange.registry.shared.metrics.counters.lookup backend.name <;>
      simpa [series, Prod.ext_iff] using tally
  spans := sound.logs.spans
  checks number call found check move prompt prompted := check_books found check prompted

theorem Sound.run {w : Watch ε ρ σ κ η} (sound : w.Sound) (moves : List (Exchange.Move ε ρ σ κ η)) :
    (w.run moves).Sound := by
  induction moves generalizing w with
  | nil => exact sound
  | cons move moves ih => exact ih (sound.perform move)

theorem perform_postings (w : Watch ε ρ σ κ η) (move : Exchange.Move ε ρ σ κ η) :
    (∃ opened, (w.perform move).postings = w.postings ++ opened) ∨
      ∃ (number place : Nat) (message : Outgoing) (progress : Publishing ρ κ) (span : Nat) (upshot : Upshot)
        (lease : Option (Lease ρ)),
        w.exchange.errands[number]? = some (.running (.publishing place message progress)) ∧
          progress.span? = some span ∧ (w.perform move).postings = w.postings.modify span (.close upshot lease) := by
  have same : ∃ opened, w.postings = w.postings ++ opened := ⟨[], (List.append_nil _).symm⟩
  simp only [perform]
  split
  · exact .inl same
  · unfold note
    split
    · rename_i doing there
      split
      · exact .inl ⟨_, rfl⟩
      · rename_i known _
        obtain ⟨errand, found, publishing⟩ := Option.bind_eq_some_iff.1 doing
        rw [Errand.eq_publishing publishing] at found
        exact .inr ⟨_, _, _, _, _, _, _, found, known, rfl⟩
      · exact .inl same
    · exact .inl same

theorem perform_keys (w : Watch ε ρ σ κ η) (move : Exchange.Move ε ρ σ κ η) :
    w.postings.map Posting.key <+: (w.perform move).postings.map Posting.key := by
  rcases w.perform_postings move with ⟨opened, added⟩ | ⟨_, _, _, _, span, upshot, lease, _, _, closed⟩
  · rw [added, List.map_append]
    exact List.prefix_append _ _
  · have same : (w.postings.modify span (.close upshot lease)).map Posting.key = w.postings.map Posting.key := by
      apply List.ext_getElem?
      intro there
      rw [List.getElem?_map, List.getElem?_map, List.getElem?_modify]
      cases w.postings[there]? with
      | none => rfl
      | some posting =>
          simp only [Option.map_eq_map, Option.map_some]
          split <;> rfl
    rw [closed, same]

theorem run_keys (moves : List (Exchange.Move ε ρ σ κ η)) (w : Watch ε ρ σ κ η) :
    w.postings.map Posting.key <+: (w.run moves).postings.map Posting.key := by
  induction moves generalizing w with
  | nil => exact List.prefix_refl _
  | cons move moves ih => exact (w.perform_keys move).trans (ih (w.perform move))

theorem Sound.perform_settled {w : Watch ε ρ σ κ η} (sound : w.Sound) (move : Exchange.Move ε ρ σ κ η)
    {posting : Posting ρ} (member : posting ∈ w.postings) (settled : posting.upshot ≠ none) :
    posting ∈ (w.perform move).postings := by
  rcases w.perform_postings move with ⟨opened, added⟩ | ⟨_, _, _, _, span, upshot, lease, found, known, closed⟩
  · rw [added]
    exact List.mem_append_left _ member
  · obtain ⟨there, listed⟩ := List.getElem?_of_mem member
    obtain ⟨a, -, own⟩ := sound.own_posting found known
    -- what is closed was open
    have apart : span ≠ there := by
      rintro rfl
      rw [own] at listed
      cases listed
      exact settled rfl
    have still : (w.perform move).postings[there]? = some posting := by
      rw [closed, List.getElem?_modify_ne _ _ apart, listed]
    exact List.mem_of_getElem? still

theorem Sound.run_settled {w : Watch ε ρ σ κ η} (sound : w.Sound) (moves : List (Exchange.Move ε ρ σ κ η))
    {posting : Posting ρ} (member : posting ∈ w.postings) (settled : posting.upshot ≠ none) :
    posting ∈ (w.run moves).postings := by
  induction moves generalizing w with
  | nil => exact member
  | cons move moves ih => exact ih (sound.perform move) (sound.perform_settled move member settled)

/-- Every publish call gets one posting when it is first polled and keeps it, whatever happens later; once
it has ended, its outcome stays. At any time the counters and the spans are those of the postings: a call
that returned a receipt is published, any other that ended is failed, and its span is closed with the
status to match. -/
theorem each_publish_has_one_outcome (outside : ε) (process : String)
    (before after : List (Exchange.Move ε ρ σ κ η)) :
    let w := (Watch.start outside process).run before
    w.exchange = (Exchange.start outside process).run before ∧ w.Accounted ∧
      w.postings.map Posting.key <+: (w.run after).postings.map Posting.key ∧
        ∀ posting ∈ w.postings, posting.upshot ≠ none → posting ∈ (w.run after).postings := by
  have sound := (Sound.start outside process).run before
  exact ⟨run_exchange before _, sound.accounted, run_keys after _, fun _ => sound.run_settled after⟩

end Watch

end Dispatch
