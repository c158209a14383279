import Dispatch.Connector
import Dispatch.Settings.Basic

/-!
# Transports

A transport is what an adapter knows of its broker: how to open a handle, whether a handle is usable,
how to send an envelope on it, how to dispose of it, and how to subscribe. `Transport.ofSettings` makes
the transport of each kind of backend out of a connector and settings. Sockets and MQTT carry no
headers; AMQP waits for a confirmation where the settings ask for one.
-/

set_option autoImplicit false

namespace Dispatch

/-- The outside as a running process sees it: the brokers, the name of the process, the number of its
next MQTT session, and the events reported so far. After 2 ^ 64 sessions the numbers start again. -/
structure Surroundings (ε : Type) where
  outside : ε
  process : String
  sessions : UInt64
  journal : List Event
  deriving Repr, Inhabited

namespace Surroundings

variable {ε : Type}

def new (outside : ε) (process : String) : Surroundings ε :=
  { outside, process, sessions := 0, journal := [] }

def report (s : Surroundings ε) (events : List Event) : Surroundings ε :=
  { s with journal := s.journal ++ events }

def update (s : Surroundings ε) (f : ε → ε) : Surroundings ε := { s with outside := f s.outside }

end Surroundings

/-- A call of a transport: not begun, or at one of the calls of the connector that make it up. -/
inductive TransportCall (ρ κ : Type) where
  | fresh
  | opening (request : Opening) (call : κ)
  | confirming (handle : ρ) (call : κ)
  | sending (deadline : Option Instant) (call : κ)
  | listening (request : Listening) (call : κ)
  | plain (call : κ)
  deriving Repr, Inhabited

def Operation.stepPart {ε κ α : Type} (op : Operation ε κ α) (now : Instant) (s : Surroundings ε)
    (call : κ) : Turn κ α × Surroundings ε :=
  let (turn, outside) := op.step now s.outside call
  (turn, { s with outside })

def Operation.whole {ε ρ κ α : Type} (op : Operation ε κ α) :
    Operation (Surroundings ε) (TransportCall ρ κ) α where
  start := .plain op.start
  step now s
    | .plain call =>
      let (turn, s) := op.stepPart now s call
      (turn.lift .plain .finished, s)
    | _ => (.blocked none, s)
  abandon s
    | .plain call => s.update fun outside => op.abandon outside call
    | _ => s

structure Transport (ε ρ σ κ : Type) where
  kind : Backend
  endpoint : String
  forwardsHeaders : Bool
  connect : Operation (Surroundings ε) (TransportCall ρ κ) (Except TransportError ρ)
  isUsable : ε → ρ → Bool
  send : ρ → Envelope → Operation (Surroundings ε) (TransportCall ρ κ) (Except TransportError Unit)
  close : ρ → ε → ε
  forget : ρ → ε → ε
  subscribe : String → Operation (Surroundings ε) (TransportCall ρ κ) (Except TransportError σ)
  next : σ → Operation (Surroundings ε) (TransportCall ρ κ) (Except TransportError (Option Delivery))
  ack : σ → Operation (Surroundings ε) (TransportCall ρ κ) (Except TransportError Unit)
  nack : σ → Operation (Surroundings ε) (TransportCall ρ κ) (Except TransportError Unit)
  leave : σ → ε → ε

namespace Transport

variable {ε ρ σ κ : Type}

/-- Asks a broker nothing: a handle that is usable answers. -/
def ping (t : Transport ε ρ σ κ) (outside : ε) (handle : ρ) : Except TransportError Unit :=
  if t.isUsable outside handle then .ok () else .error .closed

/-! ## Transports over a connector -/

def sessionOptions (settings : MqttSettings) (s : Surroundings ε) : MqttSession × Surroundings ε :=
  ({ clientId := settings.sessionClientId s.process s.sessions
     host := settings.host
     port := settings.port
     username := settings.username
     password := settings.password
     cleanSession := settings.cleanSession
     keepAlive := settings.keepAlive },
    { s with sessions := s.sessions + 1 })

def openingOf (settings : BackendSettings) (s : Surroundings ε) : Opening × Surroundings ε :=
  match settings with
  | .amqp _ => (.channel, s)
  | .socket settings => (.publisher settings.endpoint, s)
  | .log _ => (.producer, s)
  | .mqtt settings =>
    let (options, s) := sessionOptions settings s
    (.session options, s)

def listeningOf (settings : BackendSettings) (source : String) (s : Surroundings ε) :
    Listening × Surroundings ε :=
  match settings with
  | .amqp _ => (.queue source, s)
  | .socket settings => (.subscriber settings.endpoint source, s)
  | .log _ => (.log source, s)
  | .mqtt settings =>
    let (options, s) := sessionOptions settings s
    (.filter options source settings.qos, s)

def confirms : BackendSettings → Bool
  | .amqp settings => settings.publisherConfirms
  | _ => false

/-- How long a confirmation may take, where one is waited for. -/
def confirmLimit : BackendSettings → Option Duration
  | .amqp settings => if settings.publisherConfirms then some settings.confirmTimeout else none
  | _ => none

def wireOf (settings : BackendSettings) (e : Envelope) : Wire :=
  match settings with
  | .amqp settings =>
    .publication e.destination.exchange e.destination.routingKey (.ofEnvelope e) e.payload
      settings.publisherConfirms
  | .socket _ => .frames (socketFrames e)
  | .log settings => .record (.ofEnvelope e) settings.sendTimeout
  | .mqtt settings =>
    .packet
      { topic := e.destination.topicName, payload := e.payload, qos := settings.qos
        retain := settings.retain }

/-- Opens a handle and, where asked for, switches confirmations on; a handle that refuses is closed. -/
def connectVia (c : Connector ε ρ σ κ) (settings : BackendSettings) :
    Operation (Surroundings ε) (TransportCall ρ κ) (Except TransportError ρ) where
  start := .fresh
  step now s
    | .fresh =>
      let (request, s) := openingOf settings s
      (.moved (.opening request (c.openHandle request).start), s)
    | .opening request call =>
      let (turn, s) := (c.openHandle request).stepPart now s call
      (turn.lift (.opening request) fun
        | .error error => .finished (.error error)
        | .ok handle =>
          if confirms settings then .moved (.confirming handle (c.confirmSelect handle).start)
          else .finished (.ok handle), s)
    | .confirming handle call =>
      match (c.confirmSelect handle).stepPart now s call with
      | (.finished (.ok ()), s) => (.finished (.ok handle), s)
      | (.finished (.error error), s) => (.finished (.error error), s.update (c.close handle))
      | (.moved call, s) => (.moved (.confirming handle call), s)
      | (.blocked wake, s) => (.blocked wake, s)
      | (.overflowed, s) => (.overflowed, s)
    | _ => (.blocked none, s)
  abandon s
    | .opening request call => s.update fun outside => (c.openHandle request).abandon outside call
    | .confirming handle call =>
      s.update fun outside => c.forget handle ((c.confirmSelect handle).abandon outside call)
    | _ => s

/-- Sends an envelope; a confirmation that does not come in time is a failure. -/
def sendVia (c : Connector ε ρ σ κ) (settings : BackendSettings) (handle : ρ) (e : Envelope) :
    Operation (Surroundings ε) (TransportCall ρ κ) (Except TransportError Unit) :=
  let op := c.send handle (wireOf settings e)
  { start := .fresh
    step := fun now s call =>
      match call with
      | .fresh => (.moved (.sending ((confirmLimit settings).map (now + ·)) op.start), s)
      | .sending deadline call =>
        match op.stepPart now s call with
        | (.blocked wake, s) =>
          if deadline.any (· ≤ now) then
            (.finished (.error (.timeout ((confirmLimit settings).getD 0))),
              s.update fun outside => op.abandon outside call)
          else (.blocked (earlier wake deadline), s)
        | (turn, s) => (turn.lift (.sending deadline) .finished, s)
      | _ => (.blocked none, s)
    abandon := fun s call =>
      match call with
      | .sending _ call => s.update fun outside => op.abandon outside call
      | _ => s }

def subscribeVia (c : Connector ε ρ σ κ) (settings : BackendSettings) (source : String) :
    Operation (Surroundings ε) (TransportCall ρ κ) (Except TransportError σ) where
  start := .fresh
  step now s
    | .fresh =>
      let (request, s) := listeningOf settings source s
      (.moved (.listening request (c.listen request).start), s)
    | .listening request call =>
      let (turn, s) := (c.listen request).stepPart now s call
      (turn.lift (.listening request) .finished, s)
    | _ => (.blocked none, s)
  abandon s
    | .listening request call => s.update fun outside => (c.listen request).abandon outside call
    | _ => s

def carriesHeaders : Backend → Bool
  | .amqp | .log => true
  | .socket | .mqtt => false

def ofSettings (c : Connector ε ρ σ κ) (settings : BackendSettings) : Transport ε ρ σ κ where
  kind := settings.backend
  endpoint := settings.endpoint
  forwardsHeaders := carriesHeaders settings.backend
  connect := connectVia c settings
  isUsable := c.isOpen
  send := sendVia c settings
  close := c.close
  forget := c.forget
  subscribe := subscribeVia c settings
  next subscription := .whole (c.next subscription)
  ack subscription := .whole (c.ack subscription)
  nack subscription := .whole (c.nack subscription)
  leave := c.leave

end Transport

end Dispatch
