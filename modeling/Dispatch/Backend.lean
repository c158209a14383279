import Dispatch.Pipeline
import Dispatch.Message
import Dispatch.Text.Place

/-!
# Broker backends

The four kinds of broker, the failures their clients report, and the failures that cross the boundary
to the application.
-/

set_option autoImplicit false

namespace Dispatch

inductive Backend where
  | amqp
  | socket
  | log
  | mqtt
  deriving DecidableEq, Repr, Inhabited

namespace Backend

def all : List Backend := [.amqp, .socket, .log, .mqtt]

def name : Backend → String
  | .amqp => "amqp"
  | .socket => "socket"
  | .log => "log"
  | .mqtt => "mqtt"

def label : Backend → String
  | .amqp => "Amqp"
  | .socket => "Socket"
  | .log => "Log"
  | .mqtt => "Mqtt"

def ofName? (text : String) : Option Backend := all.find? fun kind => kind.name = text

/-- Reads a name in any mixture of upper and lower case ASCII letters. -/
def parse (text : String) : Except String Backend :=
  match all.find? fun kind => kind.name.toList = text.toList.map Char.toLower with
  | some kind => .ok kind
  | none => .error s!"unknown backend '{text}'"

end Backend

inductive TransportError where
  | connection (message : String)
  | authentication (message : String)
  | send (message : String)
  | rejected (message : String)
  | timeout (after : Duration)
  | closed
  | unsupported (message : String)
  deriving DecidableEq, Repr, Inhabited

namespace TransportError

def message : TransportError → String
  | .connection message => "connection failed: " ++ message
  | .authentication message => "authentication failed: " ++ message
  | .send message => "send failed: " ++ message
  | .rejected message => "message rejected: " ++ message
  | .timeout after => "timed out after " ++ after.text
  | .closed => "handle is closed"
  | .unsupported message => "not supported: " ++ message

def isTransient : TransportError → Bool
  | .connection _ | .send _ | .timeout _ => true
  | _ => false

def failure : TransportError → Failure
  | .timeout after => .timeout after
  | error => if error.isTransient then .transient error.message else .permanent error.message

end TransportError

/-- A failure that crosses the publish or acquire boundary. -/
inductive BrokerError where
  | connect (backend : Backend) (cause : Failure)
  | circuitOpen (backend : Backend) (operation : OperationKind)
  | transmission (backend : Backend) (message source : String)
  | cancelled (backend : Backend)
  | config (message : String)
  | unsupported (backend : Backend) (operation : String)
  deriving DecidableEq, Repr, Inhabited

namespace BrokerError

def message : BrokerError → String
  | .connect backend cause => s!"{backend.name}: could not obtain a connection: {cause.message}"
  | .circuitOpen backend operation => s!"{backend.name}: {operation.name} circuit is open"
  | .transmission backend message _ => s!"{backend.name}: transmission failed: {message}"
  | .cancelled backend => s!"{backend.name}: operation cancelled"
  | .config message => s!"configuration error: {message}"
  | .unsupported backend operation => s!"{backend.name}: {operation} is not supported"

def backend? : BrokerError → Option Backend
  | .connect backend _ | .circuitOpen backend _ | .transmission backend _ _ | .cancelled backend
  | .unsupported backend _ => some backend
  | .config _ => none

def source? : BrokerError → Option String
  | .connect _ cause => some cause.message
  | .transmission _ _ source => some source
  | _ => none

def isCancelled : BrokerError → Bool
  | .cancelled _ => true
  | _ => false

/-- The failure of a guarded call of one kind; `otherwise` wraps what is neither a cancellation nor an
open circuit. -/
def ofFailure (backend : Backend) (operation : OperationKind) (otherwise : Failure → BrokerError)
    (failure : Failure) : BrokerError :=
  if failure.isCancelled then .cancelled backend
  else if failure.isCircuitOpen then .circuitOpen backend operation
  else otherwise failure

/-- A lease or a subscription could not be obtained. -/
def ofAcquire (backend : Backend) (failure : Failure) : BrokerError :=
  ofFailure backend .connect (.connect backend) failure

def ofPublish (backend : Backend) (failure : Failure) : BrokerError :=
  ofFailure backend .publish (fun f => .transmission backend f.message f.message) failure

def ofTransport (backend : Backend) (error : TransportError) : BrokerError :=
  .transmission backend error.message error.message

def ofSerialization (backend : Backend) (complaint : String) : BrokerError :=
  let reason := Text.Place.passedOn complaint
  .transmission backend ("serialization failed: " ++ reason) reason

end BrokerError

end Dispatch
