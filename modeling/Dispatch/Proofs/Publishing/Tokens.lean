import Dispatch.MemoryBroker
import Dispatch.Proofs.Errands

/-!
# Tokens

A publish call waits at the bucket of its adapter before it asks the pool for anything. `Part.Toll` is what a deed
has to do with the bucket: a call that passes takes one token and leaves the rest of the adapter as it is, a call
that goes on waiting or is given up leaves all of it, and whatever is past the bucket leaves the bucket alone. Over
a run every token that is gone was taken by another publish call (`tokens_taken_once`).
-/

set_option autoImplicit false

namespace Dispatch

/-! ## One deed -/

def Publishing.waits {ρ κ : Type} : Publishing ρ κ → Bool
  | .fresh | .limiting _ => true
  | .leasing _ _ | .preparing _ _ | .sending _ _ _ _ => false

namespace Part

variable {ε ρ σ κ η : Type}

def waits : Part ε ρ σ κ η → Bool
  | .publishing _ progress => progress.waits
  | .checking _ | .consuming _ _ _ => false

def acquires : Part ε ρ σ κ η → Bool
  | .publishing _ progress => !progress.waits
  | .checking _ | .consuming _ _ _ => false

inductive Toll (a : Adapter ε ρ σ κ) : Part ε ρ σ κ η → Prompt → Fate ε ρ σ κ η → Adapter ε ρ σ κ → Prop
  | paid {message : Outgoing} {span : Nat} {bucket : Bucket} (limited : a.bucket = some bucket)
      (left : bucket.tokens ≠ 0) :
      Toll a (.publishing message (.limiting span)) (.step false)
        (.goesOn (.publishing message (.leasing span .arriving)))
        { a with bucket := some { bucket with tokens := bucket.tokens - 1 } }
  | free {part : Part ε ρ σ κ η} {prompt : Prompt} {fate : Fate ε ρ σ κ η} (waits : part.waits = true)
      (unlimited : a.bucket = none) : Toll a part prompt fate a
  | waited {part : Part ε ρ σ κ η} {prompt : Prompt} {fate : Fate ε ρ σ κ η} (waits : part.waits = true)
      (still : ∀ after, fate = .goesOn after → after.waits = true) : Toll a part prompt fate a
  | past {part : Part ε ρ σ κ η} {prompt : Prompt} {fate : Fate ε ρ σ κ η} {next : Adapter ε ρ σ κ}
      (past : part.waits = false) (kept : next.bucket = a.bucket)
      (still : ∀ after, fate = .goesOn after → after.waits = false ∧ after.acquires = part.acquires) :
      Toll a part prompt fate next

theorem Fate.settled_over {P : Prop} {reply : Reply} {after : Part ε ρ σ κ η}
    (same : Fate.settled reply = .goesOn after) : P := by
  cases same

end Part

namespace Publishing

variable {ε ρ σ κ η : Type} (a : Adapter ε ρ σ κ) (s : Shared ε) (message : Outgoing) (now : Instant)

theorem conclude_past (destination : Destination) (span : Nat) (result : Except BrokerError Receipt) :
    (conclude a s destination span result).adapter.bucket = a.bucket ∧
      ∀ after, (conclude a s destination span result).turn = .moved after → after.waits = false := by
  obtain ⟨turn, adapter, -⟩ := conclude_frame a s destination span result
  rw [turn, adapter]
  refine ⟨rfl, fun after moved => ?_⟩
  cases moved

theorem step_past (cancelled : Bool) {progress : Publishing ρ κ} (past : progress.waits = false) :
    (progress.step a s message now cancelled).adapter.bucket = a.bucket ∧
      ∀ after, (progress.step a s message now cancelled).turn = .moved after → after.waits = false := by
  have on {after : Publishing ρ κ} (waits : after.waits = false) (other : Publishing ρ κ)
      (moved : (.moved after : Turn (Publishing ρ κ) (Except BrokerError Receipt)) = .moved other) :
      other.waits = false := Turn.moved.inj moved ▸ waits
  cases progress with
  | fresh | limiting => cases past
  | leasing span acquisition =>
      simp only [step]
      split
      · exact ⟨rfl, on rfl⟩
      · exact conclude_past _ _ message.destination span _
      · exact ⟨rfl, on rfl⟩
      · exact ⟨rfl, fun after moved => by cases moved⟩
      · exact ⟨rfl, fun after moved => by cases moved⟩
  | preparing span lease =>
      simp only [step]
      split
      · exact conclude_past _ _ message.destination span _
      · exact ⟨rfl, on rfl⟩
  | sending span lease envelope execution =>
      simp only [step]
      split
      · exact conclude_past _ _ message.destination span _
      · exact conclude_past _ _ message.destination span _
      · exact ⟨rfl, on rfl⟩
      · exact ⟨rfl, fun after moved => by cases moved⟩
      · exact ⟨rfl, fun after moved => by cases moved⟩

theorem abandon_bucket (progress : Publishing ρ κ) : (progress.abandon a s now).1.bucket = a.bucket := by
  cases progress <;> rfl

end Publishing

theorem Checking.step_bucket {ε ρ σ κ : Type} (a : Adapter ε ρ σ κ) (s : Shared ε) (now : Instant) (cancelled : Bool)
    (progress : Checking ρ κ) : (progress.step a s now cancelled).adapter.bucket = a.bucket := by
  cases progress <;> rfl

theorem Consuming.step_bucket {ε ρ σ κ η : Type} (a : Adapter ε ρ σ κ) (s : Shared ε) (source : String)
    (handler : Handler ε η) (now : Instant) (cancelled : Bool) (progress : Consuming ρ σ κ η) :
    (progress.step a s source handler now cancelled).adapter.bucket = a.bucket := by
  cases progress with
  | opening execution =>
      simp only [step]
      split <;> rfl
  | receiving subscription summary call =>
      simp only [step]
      split
      · rfl
      · split <;> rfl
  | handling subscription summary delivery call =>
      simp only [step]
      split <;> rfl
  | settling subscription summary accepted call =>
      simp only [step]
      split <;> rfl

namespace Part

variable {ε ρ σ κ η : Type} {now : Instant} {a next : Adapter ε ρ σ κ} {s later : Shared ε}
  {part : Part ε ρ σ κ η} {prompt : Prompt} {fate : Fate ε ρ σ κ η}

theorem waits_cases (waits : part.waits = true) :
    ∃ message progress, part = .publishing message progress ∧ progress.waits = true := by
  cases part with
  | publishing message progress => exact ⟨message, progress, rfl, waits⟩
  | checking | consuming => cases waits

theorem abandon_waiting (a : Adapter ε ρ σ κ) (s : Shared ε) (now : Instant) (part : Part ε ρ σ κ η)
    (waits : part.waits = true) : (part.abandon a s now).1 = a := by
  obtain ⟨message, progress, rfl, waiting⟩ := waits_cases waits
  cases progress with
  | fresh | limiting => rfl
  | leasing | preparing | sending => cases waiting

theorem waiting_toll (waits : part.waits = true) (cancelled : Bool) :
    (part.step a s now cancelled).turn ≠ .overflowed ∧
      part.Toll a (.step cancelled) (.of part (part.step a s now cancelled).turn)
        (part.step a s now cancelled).adapter := by
  obtain ⟨message, progress, rfl, waiting⟩ := waits_cases waits
  cases progress with
  | leasing | preparing | sending => cases waiting
  | fresh =>
      simp only [step, Publishing.step, Turn.lift, Fate.of]
      refine ⟨by simp, ?_⟩
      cases limited : a.bucket with
      | none => exact .free rfl limited
      | some bucket => exact .waited rfl fun after same => by cases same; rfl
  | limiting span =>
      cases limited : a.bucket with
      | none =>
          simp only [step, Publishing.step, limited, Turn.lift, Fate.of]
          exact ⟨by simp, .free rfl limited⟩
      | some bucket =>
          cases cancelled with
          | true =>
              simp only [step, Publishing.step, limited, Bucket.wait, if_true, Publishing.conclude_turn, Turn.lift,
                Fate.of]
              rw [(Publishing.conclude_frame a s message.destination span _).2.1]
              exact ⟨by simp, .waited rfl fun after => Fate.settled_over⟩
          | false =>
              by_cases empty : bucket.tokens = 0
              · have waits : bucket.wait false = (.blocked none, bucket) := by simp [Bucket.wait, Bucket.take, empty]
                simp only [step, Publishing.step, limited, waits, Turn.lift, Fate.of]
                exact ⟨by simp, .waited rfl fun after same => by cases same; rfl⟩
              · have passes : bucket.wait false =
                    (.finished (.ok ()), { bucket with tokens := bucket.tokens - 1 }) := by
                  simp [Bucket.wait, Bucket.take, empty]
                simp only [step, Publishing.step, limited, passes, Turn.lift, Fate.of]
                exact ⟨by simp, .paid limited empty⟩

theorem step_past (cancelled : Bool) (past : part.waits = false) :
    (part.step a s now cancelled).adapter.bucket = a.bucket ∧
      ∀ after, (part.step a s now cancelled).turn = .moved after →
        after.waits = false ∧ after.acquires = part.acquires := by
  cases part with
  | publishing message progress =>
      obtain ⟨kept, still⟩ := progress.step_past a s message now cancelled past
      refine ⟨kept, fun after moved => ?_⟩
      obtain ⟨later, stepped, rfl⟩ := Turn.of_lift_moved moved
      have waits : later.waits = false := still later stepped
      exact ⟨waits, by simp [acquires, waits, show progress.waits = false from past]⟩
  | checking progress =>
      refine ⟨progress.step_bucket a s now cancelled, fun after moved => ?_⟩
      obtain ⟨later, -, rfl⟩ := Turn.of_lift_moved moved
      exact ⟨rfl, rfl⟩
  | consuming source handler progress =>
      refine ⟨progress.step_bucket a s source handler now cancelled, fun after moved => ?_⟩
      obtain ⟨later, -, rfl⟩ := Turn.of_lift_moved moved
      exact ⟨rfl, rfl⟩

theorem abandon_bucket (a : Adapter ε ρ σ κ) (s : Shared ε) (now : Instant) (part : Part ε ρ σ κ η) :
    (part.abandon a s now).1.bucket = a.bucket := by
  cases part with
  | publishing message progress => exact progress.abandon_bucket a s now
  | checking progress => cases progress <;> rfl
  | consuming source handler progress => cases progress <;> rfl

theorem Deed.toll (deed : part.Deed now a s prompt fate next later) : part.Toll a prompt fate next := by
  have left {b : Adapter ε ρ σ κ} {t : Shared ε} (gone : part.abandon b t now = (next, later)) :
      next = (part.abandon b t now).1 := by rw [gone]
  cases waits : part.waits with
  | true =>
      cases prompt with
      | step cancelled =>
          obtain ⟨whole, toll⟩ := waiting_toll (a := a) (s := s) waits cancelled
          rw [deed.fate_of, (deed.whole whole).1]
          exact toll
      | giveUp =>
          cases deed with
          | gaveUp gone =>
              rw [left gone, part.abandon_waiting a s now waits]
              exact .waited waits fun after => Fate.settled_over
  | false =>
      have stepped (cancelled : Bool) : (part.step a s now cancelled).adapter.bucket = a.bucket ∧
          ∀ after, (part.step a s now cancelled).turn = .moved after →
            after.waits = false ∧ after.acquires = part.acquires := part.step_past cancelled waits
      cases deed with
      | moved turn =>
          refine .past waits (stepped _).1 fun after same => ?_
          cases same
          exact (stepped _).2 _ turn
      | waited turn =>
          refine .past waits (stepped _).1 fun after same => ?_
          cases same
          exact ⟨waits, rfl⟩
      | finished turn => exact .past waits (stepped _).1 fun after => Fate.settled_over
      | broke turn gone =>
          refine .past waits ?_ fun after => Fate.settled_over
          rw [left gone, part.abandon_bucket, (stepped _).1]
      | gaveUp gone =>
          refine .past waits ?_ fun after => Fate.settled_over
          rw [left gone, part.abandon_bucket]

theorem Deed.unpaid {message : Outgoing} {span : Nat} {bucket : Bucket} (limited : a.bucket = some bucket)
    (deed : (.publishing message (.limiting span) : Part ε ρ σ κ η).Deed now a s prompt fate next later)
    (unpaid : prompt ≠ .step false) : ∃ reply, fate = .settled reply ∧ ∀ result, reply ≠ .checked result := by
  cases prompt with
  | giveUp =>
      cases deed
      exact ⟨_, rfl, by simp⟩
  | step cancelled =>
      cases cancelled with
      | false => exact absurd rfl unpaid
      | true =>
          have fate_of := deed.fate_of
          simp only [step, Publishing.step, limited, Bucket.wait, if_true, Publishing.conclude_turn, Turn.lift, Fate.of]
            at fate_of
          exact ⟨_, fate_of, by simp⟩

def side (part : Part ε ρ σ κ η) : Nat := if part.waits then 0 else 1

theorem side_climbs : Climbs (side : Part ε ρ σ κ η → Nat) 1 where
  bounded part := by
    unfold side
    split <;> simp
  again := rfl
  deed deed := by
    cases deed.toll with
    | paid => exact Nat.zero_le _
    | free waits | waited waits => simp [side, waits]
    | past past kept still => simp [side, past, (still _ rfl).1]

end Part

/-! ## One move -/

namespace Exchange

variable {ε ρ σ κ η : Type} {x y : Exchange ε ρ σ κ η} {move : Move ε ρ σ κ η} {moves : List (Move ε ρ σ κ η)}
  {number place : Nat} {bucket : Bucket}

def bucket? (x : Exchange ε ρ σ κ η) (place : Nat) : Option Bucket := x.registry.adapters[place]?.bind Adapter.bucket

def AwaitsToken (x : Exchange ε ρ σ κ η) (number place : Nat) : Prop :=
  ∃ message span, x.part? number = some (place, .publishing message (.limiting span))

def Acquires (x : Exchange ε ρ σ κ η) (number place : Nat) : Prop :=
  ∃ part, x.part? number = some (place, part) ∧ part.acquires = true

/-- The call whose move changes the bucket at a place. -/
def charged? (x : Exchange ε ρ σ κ η) (place : Nat) (move : Move ε ρ σ κ η) : Option Nat :=
  if (x.perform move).bucket? place = x.bucket? place then none else move.prompt?.map Prod.fst

def charged (x : Exchange ε ρ σ κ η) (place : Nat) : List (Move ε ρ σ κ η) → List Nat
  | [] => []
  | move :: moves => (x.charged? place move).toList ++ (x.perform move).charged place moves

structure Pays (x : Exchange ε ρ σ κ η) (move : Move ε ρ σ κ η) (y : Exchange ε ρ σ κ η) (number place : Nat)
    (bucket : Bucket) : Prop where
  asked : move = .step number false
  awaited : x.AwaitsToken number place
  onward : y.Acquires number place
  enough : bucket.tokens ≠ 0
  left : y.bucket? place = some { bucket with tokens := bucket.tokens - 1 }

theorem Change.draws (change : x.Change move y) (limited : x.bucket? place = some bucket) :
    y.bucket? place = some bucket ∨ ∃ number, x.Pays move y number place bucket := by
  obtain ⟨a, here, has⟩ := Option.bind_eq_some_iff.1 limited
  cases change with
  | tended _ _ tended =>
      obtain ⟨b, there, kept⟩ := Registry.Tended.keeps (P := fun b => b.bucket = some bucket)
        (fun tended holds => by cases tended <;> exact holds) tended here has
      exact .inl (Option.bind_eq_some_iff.2 ⟨b, there, kept⟩)
  | began _ _ _ registry | passed _ _ registry | left _ _ _ _ registry =>
      rw [bucket?, registry]
      exact .inl limited
  | @acted number _ call _ there part b next _ _ prompted found known here' deed succeeds registry errands =>
      by_cases same : there = place
      · subst same
        rw [here] at here'
        cases here'
        have left : y.bucket? there = next.bucket := by
          rw [bucket?, registry, List.getElem?_set_self (List.getElem?_eq_some_iff.1 here).1]
          rfl
        cases deed.toll with
        | @paid message span paying limited' enough =>
            rw [has] at limited'
            cases limited'
            cases succeeds with
            | goesOn after =>
                have bound := (List.getElem?_eq_some_iff.1 found).1
                have onward : y.part? number = some (there, .publishing message (.leasing span .arriving)) :=
                  part?_iff.2 ⟨_, by rw [errands, List.getElem?_set_self bound], after⟩
                exact .inr ⟨number, Move.eq_step prompted, ⟨message, span, part?_iff.2 ⟨call, found, known⟩⟩,
                  ⟨_, onward, rfl⟩, enough, left⟩
        | free waits unlimited =>
            rw [has] at unlimited
            cases unlimited
        | waited => exact .inl (left.trans has)
        | past _ kept => exact .inl (left.trans (kept.trans has))
      · refine .inl ?_
        rw [bucket?, registry, List.getElem?_set_ne same]
        exact limited

theorem Change.acquires (change : x.Change move y) (limited : x.bucket? place = some bucket)
    (acquires : y.Acquires number place) : x.Acquires number place ∨ x.Pays move y number place bucket := by
  obtain ⟨after, doing, onward⟩ := acquires
  obtain ⟨a, here, has⟩ := Option.bind_eq_some_iff.1 limited
  cases change.comes doing with
  | stayed same => exact .inl ⟨after, same, onward⟩
  | begun begins => cases begins <;> cases onward
  | acted prompted known here' deed there =>
      rw [here] at here'
      cases here'
      cases deed.toll with
      | @paid message span paying limited' enough =>
          rw [has] at limited'
          cases limited'
          exact .inr ⟨Move.eq_step prompted, ⟨message, span, known⟩, ⟨_, doing, rfl⟩, enough,
            Option.bind_eq_some_iff.2 ⟨_, there, rfl⟩⟩
      | free waits unlimited =>
          rw [has] at unlimited
          cases unlimited
      | waited waits still =>
          obtain ⟨message, progress, rfl, waiting⟩ := Part.waits_cases (still after rfl)
          simp [Part.acquires, waiting] at onward
      | past past kept still => exact .inl ⟨_, known, (still after rfl).2 ▸ onward⟩

theorem Pays.charged? (pays : x.Pays move (x.perform move) number place bucket)
    (limited : x.bucket? place = some bucket) : x.charged? place move = some number := by
  have changed : (x.perform move).bucket? place ≠ x.bucket? place := by
    rw [pays.left, limited]
    intro same
    have tokens := congrArg Bucket.tokens (Option.some.inj same)
    have enough := pays.enough
    simp only at tokens
    omega
  rw [Exchange.charged?, if_neg changed, pays.asked]
  rfl

theorem perform_bucket (limited : x.bucket? place = some bucket) (move : Move ε ρ σ κ η) :
    x.charged? place move = none ∧ (x.perform move).bucket? place = some bucket ∨
      ∃ number, x.charged? place move = some number ∧ x.Pays move (x.perform move) number place bucket := by
  rcases (x.perform_change move).draws limited with same | ⟨number, pays⟩
  · exact .inl ⟨if_pos (same.trans limited.symm), same⟩
  · exact .inr ⟨number, pays.charged? limited, pays⟩

/-! ## Runs -/

theorem run_bucket (limited : x.bucket? place = some bucket) (moves : List (Move ε ρ σ κ η)) :
    (x.charged place moves).length ≤ bucket.tokens ∧
      (x.run moves).bucket? place =
        some { bucket with tokens := bucket.tokens - (x.charged place moves).length } := by
  induction moves generalizing x bucket with
  | nil => exact ⟨Nat.zero_le _, limited⟩
  | cons move moves ih =>
      rcases perform_bucket limited move with ⟨none, same⟩ | ⟨number, charged, pays⟩
      · rw [Exchange.charged, none]
        exact ih same
      · obtain ⟨bounded, left⟩ := ih pays.left
        have enough := pays.enough
        rw [Exchange.charged, charged, Option.toList_some, List.length_append, List.length_singleton]
        simp only at bounded
        refine ⟨by omega, left.trans ?_⟩
        rw [Nat.sub_sub]

theorem mem_charged (limited : x.bucket? place = some bucket) (charged : number ∈ x.charged place moves) :
    ∃ before, before ++ [.step number false] <+: moves ∧ (x.run before).AwaitsToken number place ∧
      (x.run (before ++ [.step number false])).Acquires number place := by
  induction moves generalizing x bucket with
  | nil => cases charged
  | cons move moves ih =>
      have later {bucket : Bucket} (limited : (x.perform move).bucket? place = some bucket)
          (charged : number ∈ (x.perform move).charged place moves) :
          ∃ before, before ++ [.step number false] <+: move :: moves ∧ (x.run before).AwaitsToken number place ∧
            (x.run (before ++ [.step number false])).Acquires number place := by
        obtain ⟨before, past, known⟩ := ih limited charged
        exact ⟨move :: before, List.cons_prefix_cons.2 ⟨rfl, past⟩, known⟩
      rw [Exchange.charged] at charged
      rcases perform_bucket limited move with ⟨none, same⟩ | ⟨payer, paid, pays⟩
      · rw [none] at charged
        exact later same charged
      · rw [paid, Option.toList_some, List.singleton_append, List.mem_cons] at charged
        rcases charged with rfl | charged
        · obtain rfl := pays.asked
          exact ⟨[], List.cons_prefix_cons.2 ⟨rfl, List.nil_prefix⟩, pays.awaited, pays.onward⟩
        · exact later pays.left charged

theorem run_acquires (limited : x.bucket? place = some bucket)
    (acquires : (x.run moves).Acquires number place) :
    x.Acquires number place ∨ number ∈ x.charged place moves := by
  induction moves generalizing x bucket with
  | nil => exact .inl acquires
  | cons move moves ih =>
      rw [Exchange.charged, List.mem_append]
      have known : (x.perform move).Acquires number place ∨ number ∈ (x.perform move).charged place moves := by
        rcases perform_bucket limited move with ⟨-, same⟩ | ⟨payer, -, pays⟩
        · exact ih same acquires
        · exact ih pays.left acquires
      rcases known with acquires | charged
      · rcases (x.perform_change move).acquires limited acquires with already | pays
        · exact .inl already
        · exact .inr (.inl (by rw [pays.charged? limited]; exact List.mem_singleton_self number))
      · exact .inr (.inr charged)

theorem charged_append (x : Exchange ε ρ σ κ η) (place : Nat) (before after : List (Move ε ρ σ κ η)) :
    x.charged place (before ++ after) = x.charged place before ++ (x.run before).charged place after := by
  induction before generalizing x with
  | nil => rfl
  | cons move before ih =>
      rw [List.cons_append, charged, charged, ih, List.append_assoc]
      rfl

def Past (x : Exchange ε ρ σ κ η) (number : Nat) : Prop :=
  ∃ errand, x.errands[number]? = some errand ∧ errand.level Part.side 1 = 1

theorem Past.run (past : x.Past number) (moves : List (Move ε ρ σ κ η)) : (x.run moves).Past number := by
  obtain ⟨errand, found, top⟩ := past
  obtain ⟨after, found, grown⟩ := run_climbs Part.side_climbs moves found
  exact ⟨after, found, Nat.le_antisymm (Part.side_climbs.errand_le after) (top.ge.trans grown)⟩

theorem past_of_part {part : Part ε ρ σ κ η} (doing : x.part? number = some (place, part)) (past : part.waits = false) :
    x.Past number := by
  obtain ⟨call, found, known⟩ := part?_iff.1 doing
  exact ⟨_, found, by simp [Errand.level, Errand.part?, known, Part.side, past]⟩

theorem Acquires.past (acquires : x.Acquires number place) : x.Past number := by
  obtain ⟨part, doing, onward⟩ := acquires
  refine past_of_part doing ?_
  cases part with
  | publishing message progress => simpa [Part.acquires, Part.waits] using onward
  | checking | consuming => rfl

theorem AwaitsToken.not_past (awaits : x.AwaitsToken number place) : ¬x.Past number := by
  rintro ⟨errand, found, top⟩
  obtain ⟨message, span, doing⟩ := awaits
  obtain ⟨call, found', known⟩ := part?_iff.1 doing
  rw [found] at found'
  cases found'
  simp [Errand.level, Errand.part?, known, Part.side, Part.waits, Publishing.waits] at top

theorem charged_nodup (limited : x.bucket? place = some bucket) (moves : List (Move ε ρ σ κ η)) :
    (x.charged place moves).Nodup := by
  induction moves generalizing x bucket with
  | nil => exact List.nodup_nil
  | cons move moves ih =>
      rw [Exchange.charged]
      rcases perform_bucket limited move with ⟨none, same⟩ | ⟨number, charged, pays⟩
      · rw [none]
        exact ih same
      · rw [charged, Option.toList_some, List.singleton_append]
        -- whoever pays again waits again, which is never seen of a call past the bucket
        refine List.nodup_cons.2 ⟨fun again => ?_, ih pays.left⟩
        obtain ⟨before, -, awaits, -⟩ := mem_charged pays.left again
        exact awaits.not_past (pays.onward.past.run before)

def Untouched (first : Exchange ε ρ σ κ η) (moves : List (Move ε ρ σ κ η)) (number : Nat) : Prop :=
  ∀ earlier move prompt, earlier ++ [move] <+: moves → move.prompt? = some (number, prompt) →
    (first.run (earlier ++ [move])).registry.adapters = (first.run earlier).registry.adapters

theorem Change.untouched {prompt : Prompt} (change : x.Change move y) (prompted : move.prompt? = some (number, prompt))
    (waiting : ∀ there part, x.part? number = some (there, part) → part.waits = true)
    (unpaid : prompt ≠ .step false ∨ ¬y.Past number) : y.registry.adapters = x.registry.adapters := by
  cases change with
  | tended unprompted | began unprompted =>
      rw [unprompted] at prompted
      cases prompted
  | passed _ _ registry | left _ _ _ _ registry => rw [registry]
  | @acted here _ call errand there part a next later fate prompted' found known here' deed succeeds registry errands =>
      rw [prompted] at prompted'
      cases prompted'
      have waits := waiting there part (part?_iff.2 ⟨call, found, known⟩)
      have same : next = a → y.registry.adapters = x.registry.adapters := by
        rintro rfl
        obtain ⟨bound, has⟩ := List.getElem?_eq_some_iff.1 here'
        rw [registry, ← has]
        exact List.set_getElem_self bound
      cases deed.toll with
      | free | waited => exact same rfl
      | past past =>
          rw [waits] at past
          cases past
      | paid =>
          cases succeeds with
          | goesOn after =>
              refine absurd (past_of_part (part?_iff.2 ⟨_, ?_, after⟩) rfl) (unpaid.resolve_left (· rfl))
              rw [errands, List.getElem?_set_self (List.getElem?_eq_some_iff.1 found).1]

theorem AwaitsToken.untouched {first : Exchange ε ρ σ κ η} {before : List (Move ε ρ σ κ η)}
    (awaits : (first.run before).AwaitsToken number place) (unpaid : move ≠ .step number false) :
    first.Untouched (before ++ [move]) number := by
  intro earlier deed prompt taken prompted
  -- a call that still waits was never past the bucket
  have fresh {earlier : List (Move ε ρ σ κ η)} (within : earlier <+: before) : ¬(first.run earlier).Past number := by
    obtain ⟨rest, rfl⟩ := within
    rw [run_append] at awaits
    exact fun past => awaits.not_past (past.run rest)
  have waiting {earlier : List (Move ε ρ σ κ η)} (within : earlier <+: before) (there : Nat) (part : Part ε ρ σ κ η)
      (doing : (first.run earlier).part? number = some (there, part)) : part.waits = true := by
    by_contra past
    exact fresh within (past_of_part doing (by simpa using past))
  have change := (first.run earlier).perform_change deed
  rw [run_append]
  rcases List.prefix_concat_iff.1 taken with same | within
  · obtain ⟨rfl, last⟩ := List.append_inj' same rfl
    cases last
    refine change.untouched prompted (waiting (List.prefix_refl _)) (.inl ?_)
    rintro rfl
    exact unpaid (Move.eq_step prompted)
  · refine change.untouched prompted (waiting ((List.prefix_append _ _).trans within)) (.inr ?_)
    have later := fresh within
    rwa [run_append] at later

theorem AwaitsToken.ends {prompt : Prompt} (awaits : x.AwaitsToken number place)
    (limited : x.bucket? place = some bucket) (prompted : move.prompt? = some (number, prompt))
    (unpaid : prompt ≠ .step false) : ∃ reply, (x.perform move).errands[number]? = some (.ended reply) := by
  obtain ⟨message, span, doing⟩ := awaits
  obtain ⟨a, here, has⟩ := Option.bind_eq_some_iff.1 limited
  obtain ⟨call, fate, errand, next, later, found, deed, succeeds, errands, -, -⟩ :=
    (x.perform_change move).acts prompted doing here
  obtain ⟨reply, finished, whole⟩ := deed.unpaid has unpaid
  rw [errands, List.getElem?_set_self (List.getElem?_eq_some_iff.1 found).1]
  cases succeeds with
  | goesOn => cases finished
  | settled reply => exact ⟨reply, rfl⟩
  | checked =>
      cases finished
      exact absurd rfl (whole _)

theorem AwaitsToken.not_charged {before : List (Move ε ρ σ κ η)} (limited : x.bucket? place = some bucket)
    (taken : before ++ [move] <+: moves) (awaits : (x.run before).AwaitsToken number place) {reply : Reply}
    (ended : (x.run (before ++ [move])).errands[number]? = some (.ended reply))
    (unpaid : move ≠ .step number false) : number ∉ x.charged place moves := by
  intro charged
  obtain ⟨earlier, paid, waited, acquires⟩ := mem_charged limited charged
  rcases List.prefix_or_prefix_of_prefix paid taken with sooner | later
  · rcases List.prefix_concat_iff.1 sooner with same | ⟨rest, rfl⟩
    · obtain ⟨-, last⟩ := List.append_inj' same rfl
      cases last
      exact unpaid rfl
    · rw [run_append] at awaits
      exact awaits.not_past (acquires.past.run rest)
  · rcases List.prefix_concat_iff.1 later with same | ⟨rest, rfl⟩
    · obtain ⟨-, last⟩ := List.append_inj' same rfl
      cases last
      exact unpaid rfl
    · have past : (x.run (before ++ [move])).Past number := ⟨_, ended, rfl⟩
      rw [run_append] at waited
      exact waited.not_past (past.run rest)

/-! ## The tokens of a bucket -/

/-- What a run takes from the bucket at a place, where tokens are never put back. -/
structure Throttles (x : Exchange ε ρ σ κ η) (place : Nat) (bucket : Bucket) (moves : List (Move ε ρ σ κ η)) :
    Prop where
  left : (x.run moves).bucket? place =
    some { bucket with tokens := bucket.tokens - (x.charged place moves).length }
  bounded : (x.charged place moves).length ≤ bucket.tokens
  once : (x.charged place moves).Nodup
  acquiring : ∀ before number, before <+: moves → (x.run before).Acquires number place →
    x.Acquires number place ∨ number ∈ x.charged place moves
  publishing : ∀ number ∈ x.charged place moves, ∃ before, before ++ [.step number false] <+: moves ∧
    (x.run before).AwaitsToken number place ∧ (x.run (before ++ [.step number false])).Acquires number place
  spared : ∀ before move number prompt there part, before ++ [move] <+: moves →
    move.prompt? = some (number, prompt) → (x.run before).part? number = some (there, part) →
    (∀ message progress, part ≠ .publishing message progress) →
    (x.run (before ++ [move])).bucket? place = (x.run before).bucket? place
  unspent : ∀ before move number, before ++ [move] <+: moves → (x.run before).AwaitsToken number place →
    move = .step number true ∨ move = .abandon number →
    (∃ reply, (x.run (before ++ [move])).errands[number]? = some (.ended reply)) ∧
      number ∉ x.charged place moves ∧ x.Untouched (before ++ [move]) number

theorem tokens_taken_once (x : Exchange ε ρ σ κ η) (place : Nat) (bucket : Bucket)
    (limited : x.bucket? place = some bucket) (moves : List (Move ε ρ σ κ η)) : x.Throttles place bucket moves where
  left := (run_bucket limited moves).2
  bounded := (run_bucket limited moves).1
  once := charged_nodup limited moves
  acquiring before number within acquires := by
    obtain ⟨rest, rfl⟩ := within
    rcases run_acquires limited acquires with already | charged
    · exact .inl already
    · rw [charged_append]
      exact .inr (List.mem_append_left _ charged)
  publishing number charged := mem_charged limited charged
  spared before move number prompt there part taken prompted doing other := by
    have limited := (run_bucket limited before).2
    rw [run_append]
    rcases perform_bucket limited move with ⟨-, same⟩ | ⟨payer, -, pays⟩
    · exact same.trans limited.symm
    · obtain rfl := pays.asked
      cases prompted
      obtain ⟨message, span, waits⟩ := pays.awaited
      rw [doing] at waits
      cases waits
      exact absurd rfl (other message _)
  unspent before move number taken awaits unpaid := by
    obtain ⟨prompt, prompted, refused⟩ : ∃ prompt, move.prompt? = some (number, prompt) ∧ prompt ≠ .step false := by
      rcases unpaid with rfl | rfl
      · exact ⟨_, rfl, by simp⟩
      · exact ⟨_, rfl, by simp⟩
    have unpaid : move ≠ .step number false := by
      rintro rfl
      cases prompted
      exact refused rfl
    have settled : ∃ reply, (x.run (before ++ [move])).errands[number]? = some (.ended reply) := by
      rw [run_append]
      exact awaits.ends (run_bucket limited before).2 prompted refused
    obtain ⟨reply, ended⟩ := settled
    exact ⟨⟨reply, ended⟩, awaits.not_charged limited taken ended unpaid, awaits.untouched unpaid⟩

def limitedShop : Exchange MemoryBroker MemoryHandle Nat MemoryCall Unit :=
  (start MemoryBroker.new "shop").run
    [.register MemoryBroker.connector "orders"
      (.amqp { AmqpSettings.standard with pool := { PoolSettings.standard with maxMessagesPerSecond := 2 } })]

def threeOrders : List (Move MemoryBroker MemoryHandle Nat MemoryCall Unit) :=
  let order : Outgoing := ⟨.topic "placed", .ok (.json (.topic "placed") .null)⟩
  [.publish 0 order, .publish 0 order, .publish 0 order, .step 0 false, .step 1 false, .step 2 false, .step 0 false,
    .step 1 false, .step 2 false, .abandon 2]

theorem tokens_taken_once_three :
    limitedShop.bucket? 0 = some ⟨2, .ofSeconds 1, 2⟩ ∧ limitedShop.Throttles 0 ⟨2, .ofSeconds 1, 2⟩ threeOrders ∧
      limitedShop.charged 0 threeOrders = [0, 1] :=
  ⟨rfl, tokens_taken_once limitedShop 0 _ rfl threeOrders, rfl⟩

end Exchange

end Dispatch
