/-!
# Events

What a part of the library reports about its work: a level, a message and named texts. Parts return
their events in order; whoever runs them decides where events are kept.
-/

set_option autoImplicit false

namespace Dispatch

inductive Level where
  | error
  | warn
  | info
  | debug
  | trace
  deriving DecidableEq, Repr, Inhabited

def Level.name : Level → String
  | .error => "error"
  | .warn => "warn"
  | .info => "info"
  | .debug => "debug"
  | .trace => "trace"

def Level.all : List Level := [.error, .warn, .info, .debug, .trace]

def Level.rank : Level → Nat
  | .error => 0
  | .warn => 1
  | .info => 2
  | .debug => 3
  | .trace => 4

structure Event where
  level : Level
  message : String
  fields : List (String × String)
  deriving DecidableEq, Repr, Inhabited

/-- Whether an event is kept where a level is asked for. -/
def Event.reaches (e : Event) (level : Level) : Bool := e.level.rank ≤ level.rank

end Dispatch
