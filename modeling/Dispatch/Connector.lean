import Dispatch.Frames

/-!
# Connectors

A connector is the client library of a broker: it opens handles to send on and subscriptions to read
from. Everything an adapter does to the outside goes through one, so a broker is known to the rest of
the library only by the operations below. `ε` is the state of the outside, `ρ` and `σ` name handles and
subscriptions in it, and `κ` is a call in progress.
-/

set_option autoImplicit false

namespace Dispatch

/-- What an MQTT broker is told about a session. -/
structure MqttSession where
  clientId : String
  host : String
  port : Nat
  username : String
  password : String
  cleanSession : Bool
  keepAlive : Duration
  deriving DecidableEq, Repr, Inhabited

inductive Opening where
  | channel
  | publisher (endpoint : String)
  | producer
  | session (options : MqttSession)
  deriving DecidableEq, Repr, Inhabited

def Opening.backend : Opening → Backend
  | .channel => .amqp
  | .publisher _ => .socket
  | .producer => .log
  | .session _ => .mqtt

inductive Listening where
  | queue (name : String)
  | subscriber (endpoint topic : String)
  | log (name : String)
  | filter (options : MqttSession) (topic : String) (qos : Nat)
  deriving DecidableEq, Repr, Inhabited

def Listening.source : Listening → String
  | .queue name | .log name => name
  | .subscriber _ topic | .filter _ topic _ => topic

/-- A message in the form in which one kind of handle takes it. -/
inductive Wire where
  | publication (exchange routingKey : String) (properties : AmqpProperties) (body : Bytes)
      (awaitConfirm : Bool)
  | frames (parts : List Bytes)
  | record (record : LogRecord) (timeout : Duration)
  | packet (packet : MqttPacket)
  deriving DecidableEq, Repr, Inhabited

structure Connector (ε ρ σ κ : Type) where
  openHandle : Opening → Operation ε κ (Except TransportError ρ)
  isOpen : ε → ρ → Bool
  /-- Asks for confirmation of everything sent on a handle. -/
  confirmSelect : ρ → Operation ε κ (Except TransportError Unit)
  send : ρ → Wire → Operation ε κ (Except TransportError Unit)
  close : ρ → ε → ε
  /-- The owner of a handle goes away without closing it. -/
  forget : ρ → ε → ε
  listen : Listening → Operation ε κ (Except TransportError σ)
  /-- The next delivery, `none` once the stream has ended. -/
  next : σ → Operation ε κ (Except TransportError (Option Delivery))
  ack : σ → Operation ε κ (Except TransportError Unit)
  nack : σ → Operation ε κ (Except TransportError Unit)
  leave : σ → ε → ε

/-- A type as one of the alternatives of another. -/
structure Alternative (α β : Type) where
  inject : α → β
  project : β → Option α

/-- A value as a part of a larger one. -/
structure Component (ε δ : Type) where
  get : δ → ε
  set : δ → ε → δ

namespace Operation

variable {ε κ α β δ μ : Type}

/-- The same operation inside a larger environment and as a part of larger calls. Calls of another kind
do not occur; they would block. -/
def embed (part : Component ε δ) (calls : Alternative κ μ) (op : Operation ε κ α) : Operation δ μ α where
  start := calls.inject op.start
  step now environment call :=
    match calls.project call with
    | none => (.blocked none, environment)
    | some call =>
      let (turn, inner) := op.step now (part.get environment) call
      (turn.lift calls.inject .finished, part.set environment inner)
  abandon environment call :=
    match calls.project call with
    | none => environment
    | some call => part.set environment (op.abandon (part.get environment) call)

def map (f : α → β) (op : Operation ε κ α) : Operation ε κ β where
  start := op.start
  step now environment call :=
    let (turn, environment) := op.step now environment call
    (turn.lift id fun result => .finished (f result), environment)
  abandon := op.abandon

def immediate (start : κ) (run : ε → α × ε) : Operation ε κ α where
  start
  step _ environment _ :=
    let (result, environment) := run environment
    (.finished result, environment)
  abandon environment _ := environment

end Operation

/-- A connector as one of several to a larger outside. A handle of another one is closed. -/
def Connector.embed {ε ρ σ κ δ ρ' σ' κ' : Type} (c : Connector ε ρ σ κ) (part : Component ε δ)
    (handles : Alternative ρ ρ') (subscriptions : Alternative σ σ') (calls : Alternative κ κ')
    (idle : κ') : Connector δ ρ' σ' κ' :=
  let refused {α : Type} : Operation δ κ' (Except TransportError α) :=
    .immediate idle fun outside => (.error .closed, outside)
  let onHandle {α : Type} (handle : ρ') (f : ρ → Operation ε κ (Except TransportError α)) :
      Operation δ κ' (Except TransportError α) :=
    ((handles.project handle).map fun handle => (f handle).embed part calls).getD refused
  let onSubscription {α : Type} (subscription : σ')
      (f : σ → Operation ε κ (Except TransportError α)) : Operation δ κ' (Except TransportError α) :=
    ((subscriptions.project subscription).map fun s => (f s).embed part calls).getD refused
  let change {α β : Type} (kind : Alternative α β) (value : β) (f : α → ε → ε) (outside : δ) : δ :=
    match kind.project value with
    | none => outside
    | some value => part.set outside (f value (part.get outside))
  { openHandle := fun request =>
      ((c.openHandle request).map (Except.map handles.inject)).embed part calls
    isOpen := fun outside handle => (handles.project handle).any (c.isOpen (part.get outside))
    confirmSelect := fun handle => onHandle handle c.confirmSelect
    send := fun handle wire => onHandle handle fun handle => c.send handle wire
    close := fun handle => change handles handle c.close
    forget := fun handle => change handles handle c.forget
    listen := fun request =>
      ((c.listen request).map (Except.map subscriptions.inject)).embed part calls
    next := fun subscription => onSubscription subscription c.next
    ack := fun subscription => onSubscription subscription c.ack
    nack := fun subscription => onSubscription subscription c.nack
    leave := fun subscription => change subscriptions subscription c.leave }

end Dispatch
