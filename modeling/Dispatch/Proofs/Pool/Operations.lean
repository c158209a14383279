import Dispatch.Pool
import Mathlib.Data.List.TakeWhile

set_option autoImplicit false

namespace Dispatch

namespace PoolEvent

variable {ρ : Type}

def opened? : PoolEvent ρ → Option ρ
  | .opened resource => some resource
  | _ => none

def disposed? : PoolEvent ρ → Option ρ
  | .disposed resource => some resource
  | _ => none

def size? : PoolEvent ρ → Option (Nat × Nat)
  | .resized idle leased => some (idle, leased)
  | _ => none

def openings (events : List (PoolEvent ρ)) : List ρ := events.filterMap opened?

def disposals (events : List (PoolEvent ρ)) : List ρ := events.filterMap disposed?

def lastSize (events : List (PoolEvent ρ)) : Option (Nat × Nat) :=
  (events.filterMap size?).getLast?

@[simp] theorem openings_nil : openings ([] : List (PoolEvent ρ)) = [] := rfl

@[simp] theorem disposals_nil : disposals ([] : List (PoolEvent ρ)) = [] := rfl

@[simp] theorem lastSize_nil : lastSize ([] : List (PoolEvent ρ)) = none := rfl

@[simp] theorem openings_cons (event : PoolEvent ρ) (events : List (PoolEvent ρ)) :
    openings (event :: events) = event.opened?.toList ++ openings events := by
  cases event <;> rfl

@[simp] theorem disposals_cons (event : PoolEvent ρ) (events : List (PoolEvent ρ)) :
    disposals (event :: events) = event.disposed?.toList ++ disposals events := by
  cases event <;> rfl

@[simp] theorem lastSize_cons (event : PoolEvent ρ) (events : List (PoolEvent ρ)) :
    lastSize (event :: events) = (lastSize events).or event.size? := by
  simp only [lastSize, List.filterMap_cons]
  cases event.size? <;> simp [List.getLast?_cons, Option.or_some]

@[simp] theorem openings_append (a b : List (PoolEvent ρ)) :
    openings (a ++ b) = openings a ++ openings b := List.filterMap_append

@[simp] theorem disposals_append (a b : List (PoolEvent ρ)) :
    disposals (a ++ b) = disposals a ++ disposals b := List.filterMap_append

@[simp] theorem lastSize_append (a b : List (PoolEvent ρ)) :
    lastSize (a ++ b) = (lastSize b).or (lastSize a) := by
  simp [lastSize, List.getLast?_append]

section Quiet

variable (events : List Event)

@[simp] theorem openings_reported : openings (events.map (reported : Event → PoolEvent ρ)) = [] := by
  induction events <;> simp_all [opened?]

@[simp] theorem disposals_reported : disposals (events.map (reported : Event → PoolEvent ρ)) = [] := by
  induction events <;> simp_all [disposed?]

@[simp] theorem lastSize_reported : lastSize (events.map (reported : Event → PoolEvent ρ)) = none := by
  induction events <;> simp_all [size?]

end Quiet

end PoolEvent

namespace Pool

variable {ρ : Type}

open PoolEvent

section Farewells

variable (entries : List (Pooled ρ))

@[simp] theorem openings_closing : openings (closing entries) = [] := by
  induction entries <;> simp_all [closing, opened?]

@[simp] theorem disposals_closing : disposals (closing entries) = entries.map Pooled.resource := by
  induction entries <;> simp_all [closing, disposed?]

@[simp] theorem lastSize_closing : lastSize (closing entries) = none := by
  induction entries <;> simp_all [closing, size?]

@[simp] theorem openings_farewell : openings (farewell entries) = [] := by
  unfold farewell
  split <;> simp [report, opened?]

@[simp] theorem disposals_farewell : disposals (farewell entries) = entries.map Pooled.resource := by
  unfold farewell
  split <;> simp_all [report, disposed?]

@[simp] theorem lastSize_farewell : lastSize (farewell entries) = none := by
  unfold farewell
  split <;> simp [report, size?]

end Farewells

theorem takeIdle_some {pool next : Pool ρ} {healthy : ρ → Bool} {now : Instant} {lease : Lease ρ}
    {events : List (PoolEvent ρ)} (taken : pool.takeIdle healthy now = (some lease, next, events)) :
    ∃ unusable rest, pool.idle = unusable ++ lease :: rest ∧
      (∀ entry ∈ unusable, isUsable healthy pool now entry = false) ∧
      isUsable healthy pool now lease = true ∧
      next = { pool with
        idle := rest, leased := pool.leased + 1, closed := pool.closed + unusable.length } ∧
      events = next.resized :: farewell unusable := by
  simp only [takeIdle] at taken
  split at taken
  · cases taken
  · rename_i entry rest below
    obtain ⟨rfl, rfl, rfl⟩ := by simpa using taken
    let unusable (entry : Pooled ρ) : Bool := !isUsable healthy pool now entry
    have whole : pool.idle.takeWhile unusable ++ pool.idle.dropWhile unusable = pool.idle :=
      List.takeWhile_append_dropWhile
    have dropped : pool.idle.dropWhile unusable = entry :: rest := by
      have tail : (pool.idle.takeWhile unusable ++ pool.idle.dropWhile unusable).drop
          (pool.idle.takeWhile unusable).length = pool.idle.dropWhile unusable := List.drop_left' rfl
      rw [← tail, whole]
      exact below
    refine ⟨pool.idle.takeWhile unusable, rest, ?_, ?_, ?_, rfl, rfl⟩
    · rw [← dropped, whole]
    · intro entry member
      simpa [unusable] using List.mem_takeWhile_imp member
    · have usable := List.head_dropWhile_not unusable (l := pool.idle) (by simp [dropped])
      simpa [dropped, unusable] using usable

theorem takeIdle_none {pool next : Pool ρ} {healthy : ρ → Bool} {now : Instant}
    {events : List (PoolEvent ρ)} (missed : pool.takeIdle healthy now = (none, next, events)) :
    (∀ entry ∈ pool.idle, isUsable healthy pool now entry = false) ∧
      next = { pool with idle := [], closed := pool.closed + pool.idle.length } ∧
      events = farewell pool.idle := by
  simp only [takeIdle] at missed
  split at missed
  · rename_i below
    obtain ⟨rfl, rfl⟩ := by simpa using missed
    have whole : pool.idle.takeWhile (fun entry => !isUsable healthy pool now entry) = pool.idle := by
      have bound := List.drop_eq_nil_iff.1 below
      exact (List.takeWhile_prefix _).eq_of_length_le bound
    rw [whole]
    refine ⟨fun entry member => ?_, rfl, rfl⟩
    rw [← whole] at member
    simpa using List.mem_takeWhile_imp member
  · cases missed

section TakeBack

variable {pool : Pool ρ} {healthy : ρ → Bool} {discard : Bool} {now : Instant} {lease : Lease ρ}

theorem takeBack_kept
    (kept : pool.keeps (!discard && healthy lease.resource) now lease = true) :
    ∃ next, pool.takeBack healthy discard now lease = (next, [next.resized]) ∧
      next = { pool with
        idle := { lease with lastUsed := now } :: pool.idle, leased := pool.leased - 1 } :=
  ⟨_, if_pos kept, rfl⟩

theorem takeBack_closed
    (refused : pool.keeps (!discard && healthy lease.resource) now lease = false) :
    ∃ next event, pool.takeBack healthy discard now lease =
        (next, next.resized :: .reported event :: closing [lease]) ∧
      next = { pool with leased := pool.leased - 1, closed := pool.closed + 1 } :=
  ⟨_, _, if_neg (by rw [Bool.not_eq_true]; exact refused), rfl⟩

end TakeBack

section Reports

variable (pool : Pool ρ) (healthy : ρ → Bool) (discard : Bool) (now : Instant) (lease : Lease ρ)

theorem openings_takeBack : openings (pool.takeBack healthy discard now lease).2 = [] := by
  unfold takeBack
  dsimp only
  split <;> simp [resized, report, opened?]

theorem lastSize_takeBack :
    lastSize (pool.takeBack healthy discard now lease).2 =
      some ((pool.takeBack healthy discard now lease).1.idle.length,
        (pool.takeBack healthy discard now lease).1.leased) := by
  unfold takeBack
  dsimp only
  split <;> simp [resized, report, size?]

end Reports

end Pool

end Dispatch
