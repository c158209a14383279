import Dispatch.Schedule

/-!
# Stages

A stage is a schedule whose background tasks have names. Calls are performed in the foreground, all at
once, or started in the background, to be joined or given up later. A call that takes longer than
anybody's `patience` is given up and is late.
-/

set_option autoImplicit false

namespace Dispatch.Rehearsal

def patience : Duration := .ofMillis 86400000

/-- When a call starts, counted from now, and when it is cancelled or given up, counted from its start.
A call with a named token is cancelled with it. -/
structure Timing where
  delay : Duration
  cancelAfter : Option Duration
  dropAfter : Option Duration
  token : Option String

def Timing.task {κ α : Type} (timing : Timing) (now : Instant) (call : κ) : Task κ α :=
  let startAt := now + timing.delay
  { startAt
    cancelAt := if timing.token.isSome then none else timing.cancelAfter.map (startAt + ·)
    dropAt := timing.dropAfter.map (startAt + ·)
    deadline := some (startAt + patience)
    token := timing.token
    phase := .running call }

inductive Played (β : Type) where
  | done (result : β)
  | overflowed

def Played.ofRun {β : Type} (result : β) : RunResult → Played β
  | .overflowed => .overflowed
  | _ => .done result

structure Stage (σ κ α : Type) where
  schedule : Schedule σ κ α
  tasks : List (String × Nat)

namespace Stage

variable {σ κ α : Type}

def new (state : σ) : Stage σ κ α := { schedule := .new state, tasks := [] }

def now (s : Stage σ κ α) : Instant := s.schedule.now

def state (s : Stage σ κ α) : σ := s.schedule.state

def setState (s : Stage σ κ α) (state : σ) : Stage σ κ α :=
  { s with schedule := { s.schedule with state } }

def start (s : Stage σ κ α) (timing : Timing) (call : κ) : Nat × Stage σ κ α :=
  let (number, schedule) := s.schedule.spawn (timing.task s.now call)
  (number, { s with schedule })

def startAll (s : Stage σ κ α) : List (Timing × κ) → List Nat × Stage σ κ α
  | [] => ([], s)
  | (timing, call) :: rest =>
    let (number, s) := s.start timing call
    let (numbers, s) := s.startAll rest
    (number :: numbers, s)

def perform (m : Machine σ κ α) (s : Stage σ κ α) (calls : List (Timing × κ)) :
    Played (List (Ending α)) × Stage σ κ α :=
  let (numbers, s) := s.startAll calls
  let (schedule, run) := s.schedule.await m numbers
  (.ofRun (numbers.filterMap schedule.ending?) run, { s with schedule })

def sleep (m : Machine σ κ α) (s : Stage σ κ α) (duration : Duration) :
    Played Unit × Stage σ κ α :=
  let (schedule, run) := s.schedule.sleep m duration
  (.ofRun () run, { s with schedule })

def spawn (s : Stage σ κ α) (name : String) (timing : Timing) (call : κ) : Stage σ κ α :=
  let (number, s) := s.start timing call
  { s with tasks := (name, number) :: s.tasks.filter (·.1 != name) }

def join (m : Machine σ κ α) (s : Stage σ κ α) (name : String) :
    Played (Option (Ending α)) × Stage σ κ α :=
  match s.tasks.lookup name with
  | none => (.done none, s)
  | some number =>
    let (schedule, run) := s.schedule.join m number
    (.ofRun (schedule.ending? number) run, { schedule, tasks := s.tasks.filter (·.1 != name) })

inductive Aborted (α : Type) where
  | running
  | over (result : α)
  | unknown

def abort (m : Machine σ κ α) (s : Stage σ κ α) (name : String) : Aborted α × Stage σ κ α :=
  match s.tasks.lookup name with
  | none => (.unknown, s)
  | some number =>
    let s := { s with tasks := s.tasks.filter (·.1 != name) }
    match s.schedule.ending? number with
    | some ending => (.over ending.result, s)
    | none => (.running, { s with schedule := s.schedule.giveUp m number })

def cancel (s : Stage σ κ α) (token : String) : Stage σ κ α :=
  { s with schedule := s.schedule.cancel token }

end Stage

end Dispatch.Rehearsal
