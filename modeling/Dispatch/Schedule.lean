import Dispatch.Clock

/-!
# Schedules

Calls that wait share one state and one clock. A task is a call with the instant it starts, the instant
its token is cancelled, and the instants at which it is given up: because nobody wants it any longer, or
because it took too long. `advance` takes one step of one task; `run` lets every task go as far as it
can, moves the clock to the next instant at which one of them has something to do, and stops when its
goal is met or nothing can happen any more. Calls are stepped through a `Machine`, which knows nothing
of clocks and tasks.
-/

set_option autoImplicit false

namespace Dispatch

/-- How calls `κ` with results `α` are stepped in a shared state `σ`, and what giving one up yields. -/
structure Machine (σ κ α : Type) where
  step : Instant → Bool → σ → κ → Turn κ α × σ
  abandon : Instant → σ → κ → α × σ

/-- How and when a task ended; `late` if it was given up because it took too long. -/
structure Ending (α : Type) where
  result : α
  late : Bool
  instant : Instant
  deriving Repr

inductive Phase (κ α : Type) where
  | running (call : κ)
  | ended (ending : Ending α)

structure Task (κ α : Type) where
  startAt : Instant
  cancelAt : Option Instant
  dropAt : Option Instant
  deadline : Option Instant
  token : Option String
  phase : Phase κ α

namespace Task

variable {κ α : Type}

def giveUpAt (task : Task κ α) : Option Instant := earlier task.dropAt task.deadline

def ending? (task : Task κ α) : Option (Ending α) :=
  match task.phase with
  | .running _ => none
  | .ended ending => some ending

def isOver (task : Task κ α) : Bool := task.ending?.isSome

end Task

structure Schedule (σ κ α : Type) where
  now : Instant
  state : σ
  tasks : List (Task κ α)
  cancelled : List String

/-- What stops a run: all of some tasks have ended, seen at once or when all others have settled, or
an instant is reached. -/
inductive Goal where
  | ended (tasks : List Nat)
  | joined (tasks : List Nat)
  | reached (instant : Instant)

/-- How a run stops: `stuck` when nothing can happen any more. -/
inductive RunResult where
  | met
  | stuck
  | overflowed
  deriving DecidableEq, Repr

/-- What a task did when it was given the chance. -/
inductive Advance (σ κ α : Type) where
  | moved (next : Schedule σ κ α)
  | waiting (wake : Option Instant)
  | overflowed

namespace Schedule

variable {σ κ α : Type}

def new (state : σ) : Schedule σ κ α := { now := 0, state, tasks := [], cancelled := [] }

def spawn (s : Schedule σ κ α) (task : Task κ α) : Nat × Schedule σ κ α :=
  (s.tasks.length, { s with tasks := s.tasks ++ [task] })

def cancel (s : Schedule σ κ α) (token : String) : Schedule σ κ α :=
  { s with cancelled := token :: s.cancelled }

def isCancelled (s : Schedule σ κ α) (task : Task κ α) : Bool :=
  task.cancelAt.any (· ≤ s.now) || task.token.any (s.cancelled.contains ·)

def setPhase (s : Schedule σ κ α) (number : Nat) (phase : Phase κ α) : Schedule σ κ α :=
  { s with tasks := s.tasks.modify number fun task => { task with phase } }

def future (s : Schedule σ κ α) (at_ : Option Instant) : Option Instant := at_.filter (s.now < ·)

/-- Gives up the call of a task, which is late unless it was to be dropped by now. -/
def giveUp (m : Machine σ κ α) (s : Schedule σ κ α) (number : Nat) : Schedule σ κ α :=
  match s.tasks[number]? with
  | none => s
  | some task =>
    match task.phase with
    | .ended _ => s
    | .running call =>
      let (result, state) := m.abandon s.now s.state call
      let late := task.deadline.any (· ≤ s.now) && !task.dropAt.any (· ≤ s.now)
      { s with state }.setPhase number (.ended ⟨result, late, s.now⟩)

/-- One step of one task. A blocked call whose time is up is given up. -/
def advance (m : Machine σ κ α) (s : Schedule σ κ α) (number : Nat) : Advance σ κ α :=
  match s.tasks[number]? with
  | none => .waiting none
  | some task =>
    match task.phase with
    | .ended _ => .waiting none
    | .running call =>
      if s.now < task.startAt then .waiting (some task.startAt)
      else
        match m.step s.now (s.isCancelled task) s.state call with
        | (.finished result, state) =>
          .moved ({ s with state }.setPhase number (.ended ⟨result, false, s.now⟩))
        | (.moved call, state) => .moved ({ s with state }.setPhase number (.running call))
        | (.overflowed, _) => .overflowed
        | (.blocked wake, _) =>
          if task.giveUpAt.any (· ≤ s.now) then .moved (s.giveUp m number)
          else .waiting (earlier (s.future wake) (earlier (s.future task.cancelAt) task.giveUpAt))

/-- Lets one task go as far as it can; tells when it wants to go on and whether it moved. -/
def drain (m : Machine σ κ α) (number : Nat) :
    Nat → Bool → Schedule σ κ α → Schedule σ κ α × Bool × Except Unit (Option Instant)
  | 0, moved, s => (s, moved, .ok none)
  | fuel + 1, moved, s =>
    match s.advance m number with
    | .moved s => drain m number fuel true s
    | .waiting wake => (s, moved, .ok wake)
    | .overflowed => (s, moved, .error ())

def ending? (s : Schedule σ κ α) (number : Nat) : Option (Ending α) :=
  s.tasks[number]?.bind Task.ending?

def allOver (s : Schedule σ κ α) (numbers : List Nat) : Bool :=
  numbers.all fun number => s.tasks[number]?.all Task.isOver

def meets (s : Schedule σ κ α) : Goal → Bool
  | .ended numbers | .joined numbers => s.allOver numbers
  | .reached instant => instant ≤ s.now

def Goal.isUrgent : Goal → Bool
  | .joined _ => false
  | _ => true

/-- The outcome of giving every task its chance, the awaited ones first. -/
inductive Sweep (σ κ α : Type) where
  | met (s : Schedule σ κ α)
  | settled (s : Schedule σ κ α) (moved : Bool) (wake : Option Instant)
  | overflowed (s : Schedule σ κ α)

def sweep (m : Machine σ κ α) (goal : Goal) (fuel : Nat) (s : Schedule σ κ α) (moved : Bool)
    (wake : Option Instant) : List Nat → Sweep σ κ α
  | [] => .settled s moved wake
  | number :: rest =>
    match drain m number fuel moved s with
    | (s, _, .error ()) => .overflowed s
    | (s, moved, .ok next) =>
      if Goal.isUrgent goal && s.meets goal then .met s
      else sweep m goal fuel s moved (earlier wake next) rest

def order (s : Schedule σ κ α) : Goal → List Nat
  | .ended numbers =>
    numbers ++ (List.range s.tasks.length).filter fun number => !numbers.contains number
  | _ => List.range s.tasks.length

def Goal.wake : Goal → Option Instant
  | .reached instant => some instant
  | _ => none

/-- Runs until the goal is met or nothing can happen any more. -/
def run (m : Machine σ κ α) (goal : Goal) : Nat → Schedule σ κ α → Schedule σ κ α × RunResult
  | 0, s => (s, .stuck)
  | fuel + 1, s =>
    if Goal.isUrgent goal && s.meets goal then (s, .met)
    else
      match sweep m goal fuel s false (Goal.wake goal) (s.order goal) with
      | .met s => (s, .met)
      | .overflowed s => (s, .overflowed)
      | .settled s true _ => run m goal fuel s
      | .settled s false wake =>
        if s.meets goal then (s, .met)
        else
          match wake with
          | some wake => run m goal fuel { s with now := max s.now wake }
          | none => (s, .stuck)

def stepLimit : Nat := 100000000

def await (m : Machine σ κ α) (numbers : List Nat) (s : Schedule σ κ α) :
    Schedule σ κ α × RunResult :=
  s.run m (.ended numbers) stepLimit

def join (m : Machine σ κ α) (number : Nat) (s : Schedule σ κ α) : Schedule σ κ α × RunResult :=
  if s.allOver [number] then (s, .met) else s.run m (.joined [number]) stepLimit

def sleep (m : Machine σ κ α) (duration : Duration) (s : Schedule σ κ α) :
    Schedule σ κ α × RunResult :=
  s.run m (.reached (s.now + duration)) stepLimit

end Schedule

end Dispatch
