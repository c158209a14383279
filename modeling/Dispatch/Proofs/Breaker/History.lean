import Dispatch.Breaker

set_option autoImplicit false

namespace Dispatch

inductive Verdict where
  | success
  | failure
  | cancelled
  deriving DecidableEq, Repr

def Verdict.of {α : Type} : Except Failure α → Verdict
  | .ok _ => .success
  | .error cause => if cause.trips then .failure else .cancelled

def CircuitState.isOpen : CircuitState → Bool
  | .opened _ => true
  | .closed | .halfOpen => false

namespace Breaker

def record (b : Breaker) (now : Instant) (permit : Permit) : Verdict → Breaker
  | .success => (b.succeed permit).1
  | .failure => (b.fail now permit).1
  | .cancelled => b.cancel permit

theorem settle_record {α : Type} (b : Breaker) (now : Instant) (permit : Permit)
    (result : Except Failure α) :
    (b.settle now permit result).1 = b.record now permit (.of result) := by
  cases result with
  | ok value => rfl
  | error failure =>
      unfold settle Verdict.of
      dsimp only
      split
      · rfl
      · rfl

def Ignores (b : Breaker) (permit : Permit) (verdict : Verdict) : Prop :=
  match b.state with
  | .closed => verdict = .cancelled
  | .opened _ => True
  | .halfOpen => permit.probe = false

inductive Asked (b : Breaker) (now : Instant) : Except Failure Permit → Breaker → Prop
  | pass (closed : b.state = .closed) : Asked b now (.ok ⟨false⟩) b
  | early {probeAt : Instant} (cooling : b.state = .opened probeAt) (early : now < probeAt) :
      Asked b now (.error (.circuitOpen b.name)) b
  | due {probeAt : Instant} (cooling : b.state = .opened probeAt) (due : probeAt ≤ now) :
      Asked b now (.ok ⟨true⟩) { b with state := .halfOpen, probing := true }
  | busy (half : b.state = .halfOpen) (probing : b.probing = true) :
      Asked b now (.error (.circuitOpen b.name)) b
  | probe (half : b.state = .halfOpen) (free : b.probing = false) :
      Asked b now (.ok ⟨true⟩) { b with probing := true }

inductive Told (b : Breaker) (now : Instant) (permit : Permit) : Verdict → Breaker → Prop
  | ignored {verdict : Verdict} (ignored : b.Ignores permit verdict) : Told b now permit verdict b
  | forgiven (closed : b.state = .closed) : Told b now permit .success { b with failures := 0 }
  | counted (closed : b.state = .closed) (few : b.failures + 1 < b.policy.threshold) :
      Told b now permit .failure { b with failures := b.failures + 1 }
  | tripped (closed : b.state = .closed) (enough : b.policy.threshold ≤ b.failures + 1) :
      Told b now permit .failure
        { b with state := .opened (now + b.policy.cooldown), failures := 0 }
  | recovered (half : b.state = .halfOpen) (probe : permit.probe = true) :
      Told b now permit .success { b with state := .closed, failures := 0, probing := false }
  | reopened (half : b.state = .halfOpen) (probe : permit.probe = true) :
      Told b now permit .failure
        { b with state := .opened (now + b.policy.cooldown), probing := false }
  | freed (half : b.state = .halfOpen) (probe : permit.probe = true) :
      Told b now permit .cancelled { b with probing := false }

theorem request_asked (b : Breaker) (now : Instant) :
    b.Asked now (b.request now).1 (b.request now).2.1 := by
  unfold request
  split
  · rename_i closed
    exact .pass closed
  · rename_i probeAt cooling
    split
    · rename_i due
      exact .due cooling due
    · rename_i early
      exact .early cooling (Nat.lt_of_not_le early)
  · rename_i half
    split
    · rename_i probing
      exact .busy half probing
    · rename_i free
      exact .probe half (Bool.eq_false_iff.2 free)

theorem request_error {b : Breaker} {now : Instant} {failure : Failure}
    (answer : (b.request now).1 = .error failure) : failure = .circuitOpen b.name := by
  have asked := b.request_asked now
  rw [answer] at asked
  generalize (b.request now).2.1 = after at asked
  cases asked <;> rfl

theorem record_told (b : Breaker) (now : Instant) (permit : Permit) (verdict : Verdict) :
    b.Told now permit verdict (b.record now permit verdict) := by
  cases state : b.state with
  | closed =>
      cases verdict with
      | success => simpa [record, succeed, state] using Told.forgiven state
      | failure =>
          simp only [record, fail, state]
          split
          · rename_i enough
            exact .tripped state enough
          · rename_i few
            simpa only [state] using Told.counted state (Nat.lt_of_not_le few)
      | cancelled => simpa [record, cancel, state] using Told.ignored (by simp [Ignores, state])
  | opened probeAt =>
      have ignored : b.Ignores permit verdict := by simp [Ignores, state]
      cases verdict <;> simpa [record, succeed, fail, cancel, state] using Told.ignored ignored
  | halfOpen =>
      cases probe : permit.probe with
      | false =>
          have ignored : b.Ignores permit verdict := by simp [Ignores, state, probe]
          cases verdict <;>
            simpa [record, succeed, fail, cancel, state, probe] using Told.ignored ignored
      | true =>
          cases verdict with
          | success => simpa [record, succeed, state, probe] using Told.recovered state probe
          | failure => simpa [record, fail, state, probe] using Told.reopened state probe
          | cancelled => simpa [record, cancel, state, probe] using Told.freed state probe

theorem record_ignored {b : Breaker} {permit : Permit} {verdict : Verdict} (now : Instant)
    (ignored : b.Ignores permit verdict) : b.record now permit verdict = b := by
  have told := b.record_told now permit verdict
  unfold Ignores at ignored
  generalize b.record now permit verdict = after at told ⊢
  cases told with
  | ignored => rfl
  | forgiven closed | counted closed | tripped closed => simp [closed] at ignored
  | recovered half probe | reopened half probe | freed half probe => simp [half, probe] at ignored

inductive Use where
  | ask
  | settle (permit : Permit) (verdict : Verdict)
  | reset

end Breaker

inductive Act where
  | asked (answer : Except Failure Permit)
  | settled (permit : Permit) (verdict : Verdict)
  | reset

structure Entry where
  time : Instant
  act : Act
  before : Breaker
  after : Breaker

namespace Breaker

def entry (b : Breaker) (now : Instant) : Use → Entry
  | .ask => ⟨now, .asked (b.request now).1, b, (b.request now).2.1⟩
  | .settle permit verdict => ⟨now, .settled permit verdict, b, b.record now permit verdict⟩
  | .reset => ⟨now, .reset, b, b.reset⟩

@[simp]
theorem entry_time (b : Breaker) (now : Instant) (use : Use) : (b.entry now use).time = now := by
  cases use <;> rfl

theorem entry_settings (b : Breaker) (now : Instant) (use : Use) :
    (b.entry now use).after.name = b.name ∧ (b.entry now use).after.policy = b.policy := by
  cases use with
  | ask =>
      have asked := b.request_asked now
      simp only [entry]
      generalize (b.request now).1 = answer at asked
      generalize (b.request now).2.1 = after at asked ⊢
      cases asked <;> exact ⟨rfl, rfl⟩
  | settle permit verdict =>
      have told := b.record_told now permit verdict
      simp only [entry]
      generalize b.record now permit verdict = after at told ⊢
      cases told <;> exact ⟨rfl, rfl⟩
  | reset => exact ⟨rfl, rfl⟩

inductive Traced (start : Breaker) : List Entry → Breaker → Prop
  | start : Traced start [] start
  | use {history : List Entry} {b : Breaker} (traced : Traced start history b) (now : Instant)
      (use : Use) : Traced start (history ++ [b.entry now use]) (b.entry now use).after

theorem Traced.settings {start b : Breaker} {history : List Entry} (traced : Traced start history b) :
    b.name = start.name ∧ b.policy = start.policy := by
  induction traced with
  | start => exact ⟨rfl, rfl⟩
  | use traced now use ih =>
      obtain ⟨name, policy⟩ := entry_settings _ now use
      exact ⟨name.trans ih.1, policy.trans ih.2⟩

end Breaker

namespace Entry

def opens (e : Entry) : Bool := !e.before.state.isOpen && e.after.state.isOpen

def closes (e : Entry) : Bool := decide (e.before.state ≠ .closed ∧ e.after.state = .closed)

def isReset (e : Entry) : Bool :=
  match e.act with
  | .reset => true
  | _ => false

def succeeded (e : Entry) : Bool :=
  match e.act with
  | .settled _ .success => true
  | _ => false

def failed (e : Entry) : Bool :=
  match e.act with
  | .settled _ .failure => true
  | _ => false

end Entry

end Dispatch
