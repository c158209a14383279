import Dispatch.Proofs.Json.Values
import Dispatch.Spans
import Mathlib.Data.List.DropRight
import Mathlib.Data.List.Forall2

/-!
# What a recorder keeps of spans

A recorder hears of spans by their ids only, and an id may go to another span once the one before it is closed. Here
spans are told apart by their history. `lives` reads off a list of events, and not off a recorder, which spans were
opened, in order, what was recorded under the id of each until it was closed, and whether it was; the first `gone` of
them were cleared away, open or not. A recorder that heard the events mirrors the rest (`SpanRecorder.Mirrors`).
-/

set_option autoImplicit false

namespace Dispatch

inductive SpanEvent where
  | opened (id : Nat) (name : String) (fields : List (String × String))
  | recorded (id : Nat) (fields : List (String × String))
  | closed (id : Nat)
  | cleared
  deriving DecidableEq, Repr

def SpanRecorder.hear (r : SpanRecorder) : SpanEvent → SpanRecorder
  | .opened id name fields => r.start id name fields
  | .recorded id fields => r.record id fields
  | .closed id => r.close id
  | .cleared => r.clear

def SpanRecorder.replay (events : List SpanEvent) : SpanRecorder := events.foldl hear empty

theorem getElem?_concat_iff {α : Type} {before : List α} {last entry : α} {n : Nat} :
    (before ++ [last])[n]? = some entry ↔ before[n]? = some entry ∨ n = before.length ∧ last = entry := by
  grind

theorem lookup_filter_ne {α : Type} (entries : List (Nat × α)) (here there : Nat) :
    (entries.filter (·.1 != here)).lookup there = if there = here then none else entries.lookup there := by
  induction entries with
  | nil => simp
  | cons entry entries ih =>
      obtain ⟨key, held⟩ := entry
      by_cases gone : key = here
      · subst gone
        by_cases same : there = key
        · simp [same] at ih ⊢
          exact ih
        · simp [ih, same, List.lookup_cons, beq_false_of_ne same]
      · by_cases same : there = key
        · simp [same, gone]
        · simp [gone, List.lookup_cons, beq_false_of_ne same, ih]

/-! ## Histories -/

structure SpanLife where
  id : Nat
  name : String
  values : List (String × String)
  closed : Bool
  deriving DecidableEq, Repr

namespace SpanEvent

def opens? : SpanEvent → Option Nat
  | .opened id _ _ => some id
  | .recorded _ _ | .closed _ | .cleared => none

def recordedOn (id : Nat) : List SpanEvent → List (String × String)
  | [] => []
  | .recorded there fields :: later => if there = id then fields ++ recordedOn id later else recordedOn id later
  | .closed there :: later => if there = id then [] else recordedOn id later
  | .opened _ _ _ :: later | .cleared :: later => recordedOn id later

def lives : List SpanEvent → List SpanLife
  | [] => []
  | .opened id name fields :: later =>
    ⟨id, name, fields ++ recordedOn id later, decide (.closed id ∈ later)⟩ :: lives later
  | .recorded _ _ :: later | .closed _ :: later | .cleared :: later => lives later

def gone (events : List SpanEvent) : Nat := (lives (events.rdropWhile (· ≠ .cleared))).length

def shown (events : List SpanEvent) : List SpanLife := (lives events).drop (gone events)

/-- An id goes to a new span only when every span that had it before is closed. -/
def Orderly (events : List SpanEvent) : Prop :=
  ∀ n < events.length, ∀ life ∈ lives (events.take n), events[n]?.bind opens? = some life.id → life.closed = true

instance (events : List SpanEvent) : Decidable (Orderly events) :=
  inferInstanceAs (Decidable (∀ n < events.length, ∀ life ∈ lives (events.take n),
    events[n]?.bind opens? = some life.id → life.closed = true))

end SpanEvent

namespace SpanLife

open SpanEvent (recordedOn)

def holds (life : SpanLife) (id : Nat) : Bool := life.id = id && !life.closed

def last (life : SpanLife) (field : String) : Option String := life.values.reverse.lookup field

def extend (life : SpanLife) (later : List SpanEvent) : SpanLife :=
  if life.closed then life
  else { life with values := life.values ++ recordedOn life.id later, closed := decide (.closed life.id ∈ later) }

def note (id : Nat) (fields : List (String × String)) (life : SpanLife) : SpanLife :=
  if life.holds id then { life with values := life.values ++ fields } else life

def finish (id : Nat) (life : SpanLife) : SpanLife :=
  if life.holds id then { life with closed := true } else life

@[simp] theorem extend_opened (life : SpanLife) (id : Nat) (name : String) (fields : List (String × String)) :
    life.extend [.opened id name fields] = life := by
  obtain ⟨id, name, values, closed⟩ := life
  cases closed <;> simp [extend, recordedOn]

@[simp] theorem extend_cleared (life : SpanLife) : life.extend [.cleared] = life := by
  obtain ⟨id, name, values, closed⟩ := life
  cases closed <;> simp [extend, recordedOn]

@[simp] theorem extend_recorded (life : SpanLife) (id : Nat) (fields : List (String × String)) :
    life.extend [.recorded id fields] = life.note id fields := by
  obtain ⟨there, name, values, closed⟩ := life
  by_cases same : id = there <;> cases closed <;> simp [extend, recordedOn, note, holds, same, eq_comm]

@[simp] theorem extend_closed (life : SpanLife) (id : Nat) : life.extend [.closed id] = life.finish id := by
  obtain ⟨there, name, values, closed⟩ := life
  by_cases same : id = there <;> cases closed <;> simp [extend, recordedOn, finish, holds, same, eq_comm]

theorem extend_holds {life : SpanLife} {later : List SpanEvent} {id : Nat} (holds : (life.extend later).holds id = true) :
    life.holds id = true := by
  unfold extend at holds
  split at holds
  · exact holds
  · rename_i live
    simp_all [SpanLife.holds]

end SpanLife

namespace SpanEvent

theorem recordedOn_append (id : Nat) (earlier later : List SpanEvent) :
    recordedOn id (earlier ++ later) =
      recordedOn id earlier ++ if .closed id ∈ earlier then [] else recordedOn id later := by
  induction earlier with
  | nil => simp [recordedOn]
  | cons event earlier ih =>
      cases event with
      | opened | cleared => simp [recordedOn, ih]
      | recorded there fields => by_cases same : there = id <;> simp [recordedOn, ih, same]
      | closed there => by_cases same : id = there <;> simp [recordedOn, ih, same, Ne.symm]

theorem lives_append (earlier later : List SpanEvent) :
    lives (earlier ++ later) = (lives earlier).map (·.extend later) ++ lives later := by
  induction earlier with
  | nil => rfl
  | cons event earlier ih =>
      cases event with
      | recorded | closed | cleared => exact ih
      | opened id name fields =>
          by_cases ends : SpanEvent.closed id ∈ earlier <;>
            simp [lives, ih, recordedOn_append, SpanLife.extend, ends]

theorem gone_le (events : List SpanEvent) : gone events ≤ (lives events).length := by
  obtain ⟨later, whole⟩ := List.rdropWhile_prefix (· ≠ .cleared) events
  have lengths := congrArg (fun events => (lives events).length) whole
  simp only [lives_append, List.length_append, List.length_map] at lengths
  exact Nat.le_of_add_right_le lengths.le

theorem gone_append {later : List SpanEvent} (kept : .cleared ∉ later) (events : List SpanEvent) :
    gone (events ++ later) = gone events := by
  have dropped : ∀ event ∈ later.reverse, decide (event ≠ .cleared) = true := fun event member =>
    decide_eq_true fun same => kept (same ▸ List.mem_reverse.1 member)
  simp only [gone, List.rdropWhile, List.reverse_append, List.dropWhile_append_of_pos dropped]

theorem shown_append {later : List SpanEvent} (kept : .cleared ∉ later) (events : List SpanEvent) :
    shown (events ++ later) = (shown events).map (·.extend later) ++ lives later := by
  simp only [shown, gone_append kept, lives_append, List.map_drop]
  exact List.drop_append_of_le_length (by simpa using gone_le events)

theorem shown_cleared (events : List SpanEvent) : shown (events ++ [.cleared]) = [] := by
  simp [shown, gone]

theorem getElem?_shown (events : List SpanEvent) (place : Nat) :
    (shown events)[place]? = (lives events)[gone events + place]? := List.getElem?_drop

theorem held_before {events : List SpanEvent} {event : SpanEvent} {n id : Nat} {life : SpanLife}
    (here : (lives (events ++ [event]))[n]? = some life) (holds : life.holds id = true) :
    (∃ earlier, (lives events)[n]? = some earlier ∧ earlier.holds id = true) ∨
      n = (lives events).length ∧ ∃ name fields, event = .opened id name fields := by
  have onward (here : ((lives events).map (·.extend [event]))[n]? = some life) :
      ∃ earlier, (lives events)[n]? = some earlier ∧ earlier.holds id = true := by
    obtain ⟨earlier, found, rfl⟩ := Option.map_eq_some_iff.1 (List.getElem?_map .. ▸ here)
    exact ⟨earlier, found, SpanLife.extend_holds holds⟩
  rw [lives_append] at here
  cases event with
  | recorded | closed | cleared => exact .inl (onward (by simpa [lives] using here))
  | opened there name fields =>
      rcases getElem?_concat_iff.1 here with here | ⟨last, rfl⟩
      · exact .inl (onward here)
      · have same : there = id := by simpa [SpanLife.holds] using holds
        exact .inr ⟨by simpa using last, name, fields, same ▸ rfl⟩

namespace Orderly

theorem of_append {events later : List SpanEvent} (orderly : Orderly (events ++ later)) : Orderly events := by
  intro n bound life member
  have before := orderly n (by simp; omega) life
  rw [List.take_append_of_le_length bound.le, List.getElem?_append_left bound] at before
  exact before member

theorem fresh {events : List SpanEvent} {id : Nat} {name : String} {fields : List (String × String)}
    (orderly : Orderly (events ++ [.opened id name fields])) : ∀ life ∈ lives events, life.holds id = false := by
  intro life member
  have closes := orderly events.length (by simp) life (by simpa using member)
  by_cases same : life.id = id
  · have closed : life.closed = true := closes (by simp [opens?, same])
    simp [SpanLife.holds, closed]
  · simp [SpanLife.holds, same]

theorem unique {events : List SpanEvent} {n m id : Nat} {life other : SpanLife} (orderly : Orderly events)
    (here : (lives events)[n]? = some life) (there : (lives events)[m]? = some other) (holds : life.holds id = true)
    (also : other.holds id = true) : n = m := by
  induction events using List.reverseRecOn generalizing n m life other with
  | nil => simp [lives] at here
  | append_singleton events event ih =>
      have opener {earlier : SpanLife} {n : Nat} {name : String} {fields : List (String × String)}
          (found : (lives events)[n]? = some earlier) (held : earlier.holds id = true) :
          event ≠ .opened id name fields := by
        rintro rfl
        exact absurd held (by simp [orderly.fresh earlier (List.mem_of_getElem? found)])
      rcases held_before here holds with ⟨earlier, found, held⟩ | ⟨end₁, name, fields, opened⟩
      · rcases held_before there also with ⟨earlier', found', held'⟩ | ⟨-, name, fields, opened⟩
        · exact ih orderly.of_append found found' held held'
        · exact absurd opened (opener found held)
      · rcases held_before there also with ⟨earlier', found', held'⟩ | ⟨end₂, -⟩
        · exact absurd opened (opener found' held')
        · exact end₁.trans end₂.symm

end Orderly

end SpanEvent

/-! ## A recorder and the history -/

namespace SpanRecorder

open SpanEvent

theorem withFields_append (earlier later : List (String × String)) (span : RecordedSpan) :
    withFields (earlier ++ later) span = withFields later (withFields earlier span) := by
  simp only [withFields, List.foldl_append]

theorem lookup_withFields (values : List (String × String)) (span : RecordedSpan) (field : String) :
    (withFields values span).fields.lookup field = (values.reverse.lookup field).or (span.fields.lookup field) := by
  induction values using List.reverseRecOn with
  | nil => simp [withFields]
  | append_singleton values value ih =>
      obtain ⟨key, held⟩ := value
      rw [withFields_append]
      simp only [withFields, List.foldl_cons, List.foldl_nil, lookup_insertSorted, List.reverse_append,
        List.reverse_singleton, List.singleton_append, List.lookup_cons] at ih ⊢
      by_cases same : field = key
      · simp [same]
      · simp [same, ih, beq_false_of_ne same]

theorem withFields_sorted (values : List (String × String)) {span : RecordedSpan}
    (sorted : span.fields.Pairwise fun field next => field.1 < next.1) :
    (withFields values span).fields.Pairwise fun field next => field.1 < next.1 := by
  induction values using List.reverseRecOn with
  | nil => exact sorted
  | append_singleton values value ih =>
      rw [withFields_append]
      exact insertSorted_sorted value.1 value.2 ih

end SpanRecorder

def SpanLife.span (life : SpanLife) : RecordedSpan :=
  { SpanRecorder.withFields life.values ⟨life.name, [], false⟩ with closed := life.closed }

structure RecordedSpan.Shows (span : RecordedSpan) (life : SpanLife) : Prop where
  name : span.name = life.name
  closed : span.closed = life.closed
  fields : ∀ field, span.fields.lookup field = life.last field
  sorted : span.fields.Pairwise fun field next => field.1 < next.1

theorem SpanLife.span_shows (life : SpanLife) : life.span.Shows life where
  name := rfl
  closed := rfl
  fields field := (SpanRecorder.lookup_withFields life.values ⟨life.name, [], false⟩ field).trans Option.or_none
  sorted := SpanRecorder.withFields_sorted life.values List.Pairwise.nil

theorem SpanLife.span_note {life : SpanLife} {id : Nat} (holds : life.holds id = true) (fields : List (String × String)) :
    (life.note id fields).span = SpanRecorder.withFields fields life.span := by
  simp only [note, holds, if_pos, span, SpanRecorder.withFields, List.foldl_append]

theorem SpanLife.span_finish {life : SpanLife} {id : Nat} (holds : life.holds id = true) :
    (life.finish id).span = { life.span with closed := true } := by
  simp only [finish, holds, if_pos, span, SpanRecorder.withFields]

namespace SpanRecorder

open SpanEvent

structure Mirrors (r : SpanRecorder) (shown : List SpanLife) : Prop where
  spans : r.spans = shown.map SpanLife.span
  entries : ∀ entry ∈ r.places, r.places.lookup entry.1 = some entry.2
  places : ∀ id place, r.places.lookup id = some place ↔ ∃ life, shown[place]? = some life ∧ life.holds id = true

namespace Mirrors

variable {r : SpanRecorder} {shown : List SpanLife} {id : Nat}

theorem empty : SpanRecorder.empty.Mirrors [] := ⟨rfl, by simp [SpanRecorder.empty], by simp [SpanRecorder.empty]⟩

theorem modify {place : Nat} (mirrors : r.Mirrors shown) (known : r.places.lookup id = some place)
    {change : RecordedSpan → RecordedSpan} {become : SpanLife → SpanLife}
    (here : ∀ life, life.holds id = true → (become life).span = change life.span)
    (elsewhere : ∀ life, life.holds id = false → become life = life) :
    r.spans.modify place change = (shown.map become).map SpanLife.span := by
  refine List.ext_getElem? fun n => ?_
  simp only [List.getElem?_modify, mirrors.spans, List.getElem?_map, Option.map_map]
  cases found : shown[n]? with
  | none => rfl
  | some life =>
      cases holds : life.holds id with
      | true =>
          have same : place = n := Option.some.inj (known.symm.trans ((mirrors.places id n).2 ⟨life, found, holds⟩))
          simp [same, here life holds]
      | false =>
          have apart : place ≠ n := fun same => by
            obtain ⟨other, there, held⟩ := (mirrors.places id place).1 known
            rw [same, found] at there
            exact absurd (Option.some.inj there ▸ held) (by simp [holds])
          simp [apart, elsewhere life holds]

theorem unknown (mirrors : r.Mirrors shown) : r.places.lookup id = none ↔ ∀ life ∈ shown, life.holds id = false := by
  constructor
  · intro none life member
    obtain ⟨place, found⟩ := List.mem_iff_getElem?.1 member
    by_contra held
    have known := (mirrors.places id place).2 ⟨life, found, by simpa using held⟩
    simp [none] at known
  · intro unheld
    by_contra known
    obtain ⟨place, known⟩ := Option.ne_none_iff_exists'.1 known
    obtain ⟨life, found, held⟩ := (mirrors.places id place).1 known
    exact absurd held (by simp [unheld life (List.mem_of_getElem? found)])

theorem start (mirrors : r.Mirrors shown) (fresh : ∀ life ∈ shown, life.holds id = false) (name : String)
    (fields : List (String × String)) : (r.start id name fields).Mirrors (shown ++ [⟨id, name, fields, false⟩]) where
  spans := by simp [SpanRecorder.start, mirrors.spans, SpanLife.span, withFields]
  entries := by
    intro entry member
    rcases List.mem_cons.1 member with rfl | member
    · simp [SpanRecorder.start]
    · obtain ⟨member, apart⟩ := List.mem_filter.1 member
      have apart : entry.1 ≠ id := by simpa using apart
      simp only [SpanRecorder.start, List.lookup_cons, beq_false_of_ne apart, lookup_filter_ne, if_neg apart]
      exact mirrors.entries entry member
  places there place := by
    have length : r.spans.length = shown.length := by simp [mirrors.spans]
    by_cases same : there = id
    · subst same
      have known : (r.start there name fields).places.lookup there = some shown.length := by
        simp [SpanRecorder.start, length]
      rw [known, Option.some.injEq]
      constructor
      · rintro rfl
        exact ⟨_, List.getElem?_concat_length, by simp [SpanLife.holds]⟩
      · rintro ⟨life, found, held⟩
        rcases getElem?_concat_iff.1 found with found | ⟨last, -⟩
        · exact absurd held (by simp [fresh life (List.mem_of_getElem? found)])
        · exact last.symm
    · have known : (r.start id name fields).places.lookup there = r.places.lookup there := by
        simp [SpanRecorder.start, List.lookup_cons, beq_false_of_ne same, lookup_filter_ne, same]
      rw [known, mirrors.places there place]
      refine exists_congr fun life => and_congr_left fun held => ?_
      rw [getElem?_concat_iff]
      refine ⟨.inl, fun found => found.resolve_right ?_⟩
      rintro ⟨-, rfl⟩
      simp [SpanLife.holds, Ne.symm same] at held

theorem record (mirrors : r.Mirrors shown) (id : Nat) (fields : List (String × String)) :
    (r.record id fields).Mirrors (shown.map (·.note id fields)) := by
  have idle (life : SpanLife) (none : life.holds id = false) : life.note id fields = life := by simp [SpanLife.note, none]
  have holds (life : SpanLife) (there : Nat) : (life.note id fields).holds there = life.holds there := by
    unfold SpanLife.note
    split <;> rfl
  unfold SpanRecorder.record
  split
  · rename_i none
    rwa [List.map_congr_left fun life member => idle life (mirrors.unknown.1 none life member), List.map_id']
  · rename_i place known
    exact ⟨mirrors.modify known (fun life held => SpanLife.span_note held fields) idle, mirrors.entries,
      fun there n => by simp [mirrors.places, holds]⟩

theorem close (mirrors : r.Mirrors shown) (id : Nat) : (r.close id).Mirrors (shown.map (·.finish id)) := by
  have idle (life : SpanLife) (none : life.holds id = false) : life.finish id = life := by simp [SpanLife.finish, none]
  have holds (life : SpanLife) (there : Nat) :
      (life.finish id).holds there = true ↔ there ≠ id ∧ life.holds there = true := by
    cases held : life.holds id with
    | false =>
        rw [idle life held]
        exact ⟨fun also => ⟨fun same => by simp [same, held] at also, also⟩, And.right⟩
    | true =>
        have ended : life.finish id = { life with closed := true } := if_pos held
        obtain ⟨same, -⟩ : life.id = id ∧ _ := by simpa [SpanLife.holds] using held
        refine ⟨fun also => by simp [ended, SpanLife.holds] at also, fun ⟨apart, also⟩ => ?_⟩
        exact absurd also (by simp [SpanLife.holds, same, Ne.symm apart])
  unfold SpanRecorder.close
  split
  · rename_i none
    rwa [List.map_congr_left fun life member => idle life (mirrors.unknown.1 none life member), List.map_id']
  · rename_i place known
    refine ⟨mirrors.modify known (fun life held => SpanLife.span_finish held) idle, fun entry member => ?_,
      fun there n => ?_⟩
    · obtain ⟨member, apart⟩ := List.mem_filter.1 member
      rw [lookup_filter_ne, if_neg (by simpa using apart)]
      exact mirrors.entries entry member
    · by_cases same : there = id
      · simp [lookup_filter_ne, same, holds]
      · simp [lookup_filter_ne, same, holds, mirrors.places]

theorem named (mirrors : r.Mirrors shown) (name : String) :
    r.named name = (shown.filter (·.name = name)).map SpanLife.span := by
  rw [SpanRecorder.named, mirrors.spans, List.filter_map]
  rfl

end Mirrors

theorem replay_append (events later : List SpanEvent) : replay (events ++ later) = later.foldl hear (replay events) :=
  List.foldl_append

theorem mirrors {events : List SpanEvent} (orderly : Orderly events) : (replay events).Mirrors (shown events) := by
  induction events using List.reverseRecOn with
  | nil => exact Mirrors.empty
  | append_singleton events event ih =>
      have before := ih orderly.of_append
      rw [replay_append]
      cases event with
      | cleared => exact shown_cleared events ▸ Mirrors.empty
      | opened id name fields =>
          have fresh : ∀ life ∈ shown events, life.holds id = false := fun life member =>
            orderly.fresh life (List.mem_of_mem_drop member)
          have shown := shown_append (by simp : SpanEvent.cleared ∉ [.opened id name fields]) events
          simp only [SpanLife.extend_opened, List.map_id', lives, recordedOn, List.append_nil, List.not_mem_nil,
            decide_false] at shown
          exact shown ▸ before.start fresh name fields
      | recorded id fields =>
          have shown := shown_append (by simp : SpanEvent.cleared ∉ [.recorded id fields]) events
          simp only [SpanLife.extend_recorded, lives, List.append_nil] at shown
          exact shown ▸ before.record id fields
      | closed id =>
          have shown := shown_append (by simp : SpanEvent.cleared ∉ [.closed id]) events
          simp only [SpanLife.extend_closed, lives, List.append_nil] at shown
          exact shown ▸ before.close id

theorem record_known {events : List SpanEvent} {n id : Nat} {life : SpanLife} (orderly : Orderly events)
    (found : (lives events)[n]? = some life) (holds : life.holds id = true) (fields : List (String × String)) :
    (replay events).record id fields =
      if n < gone events then replay events
      else { replay events with spans := (replay events).spans.modify (n - gone events) (withFields fields) } := by
  have mirrors := mirrors orderly
  split
  · rename_i cleared
    have unknown : (replay events).places.lookup id = none := by
      by_contra known
      obtain ⟨place, known⟩ := Option.ne_none_iff_exists'.1 known
      obtain ⟨other, there, also⟩ := (mirrors.places id place).1 known
      have := orderly.unique found (getElem?_shown events place ▸ there) holds also
      omega
    simp only [record, unknown]
  · rename_i kept
    have known : (replay events).places.lookup id = some (n - gone events) :=
      (mirrors.places id _).2 ⟨life, by rwa [getElem?_shown, Nat.add_sub_cancel' (not_lt.1 kept)], holds⟩
    simp only [record, known]

/-- A recorder does what it should after certain events, and will in whatever follows. -/
structure Faithful (r : SpanRecorder) (events : List SpanEvent) : Prop where
  places : ∀ entry ∈ r.places, ∃ span, r.spans[entry.2]? = some span ∧ span.closed = false
  record : ∀ n life id fields, (lives events)[n]? = some life → life.holds id = true →
    r.record id fields =
      if n < gone events then r
      else { r with spans := r.spans.modify (n - gone events) (withFields fields) }
  idle : ∀ id fields, (∀ life ∈ lives events, life.holds id = false) → r.record id fields = r
  settled : ∀ later, Orderly (events ++ later) → .cleared ∉ later → ∀ (place : Nat) (span : RecordedSpan),
    r.spans[place]? = some span → span.closed = true → (later.foldl hear r).spans[place]? = some span
  named : ∀ name, List.Forall₂ RecordedSpan.Shows (r.named name) ((shown events).filter (·.name = name))
  balance : ∀ name,
    r.closed name + ((shown events).filter fun life => life.name = name && !life.closed).length = r.opened name

theorem replay_faithful {events : List SpanEvent} (orderly : Orderly events) : (replay events).Faithful events where
  places := by
    intro entry member
    have mirrors := mirrors orderly
    obtain ⟨life, found, holds⟩ := (mirrors.places entry.1 entry.2).1 (mirrors.entries entry member)
    have live : life.closed = false := by simpa [SpanLife.holds] using (Bool.and_eq_true_iff.1 holds).2
    exact ⟨life.span, by rw [mirrors.spans, List.getElem?_map, found]; rfl, live⟩
  record := fun _ _ _ fields found holds => record_known orderly found holds fields
  idle := by
    intro id fields unheld
    have unknown := (mirrors orderly).unknown.2 fun life member => unheld life (List.mem_of_mem_drop member)
    simp only [SpanRecorder.record, unknown]
  settled := by
    intro later onward kept place span found closed
    rw [(mirrors orderly).spans, List.getElem?_map, Option.map_eq_some_iff] at found
    obtain ⟨life, found, rfl⟩ := found
    have still : life.extend later = life := if_pos closed
    rw [← replay_append, (mirrors onward).spans, shown_append kept, List.map_append, List.map_map,
      List.getElem?_append_left (by simpa using (List.getElem?_eq_some_iff.1 found).1), List.getElem?_map, found]
    exact congrArg (some ∘ SpanLife.span) still
  named := by
    intro name
    rw [(mirrors orderly).named, List.forall₂_map_left_iff, List.forall₂_same]
    exact fun life _ => life.span_shows
  balance := by
    intro name
    have halves := List.length_eq_countP_add_countP SpanLife.closed (l := (shown events).filter (·.name = name))
    rw [SpanRecorder.closed, opened, (mirrors orderly).named, List.length_map, halves,
      ← List.countP_eq_length_filter, List.countP_map]
    congr 1
    rw [← List.countP_eq_length_filter, List.countP_filter]
    simp [Bool.and_comm]

theorem replay_faithful_stale :
    (replay [.opened 1 "publish" [], .opened 2 "publish" [("size", "7")], .cleared, .opened 3 "publish" [],
      .recorded 1 [("size", "8")], .closed 3, .closed 1, .opened 1 "publish" [("size", "9")],
      .recorded 1 [("size", "10")]]).Faithful
      [.opened 1 "publish" [], .opened 2 "publish" [("size", "7")], .cleared, .opened 3 "publish" [],
        .recorded 1 [("size", "8")], .closed 3, .closed 1, .opened 1 "publish" [("size", "9")],
        .recorded 1 [("size", "10")]] := replay_faithful (by decide)

end SpanRecorder

end Dispatch
