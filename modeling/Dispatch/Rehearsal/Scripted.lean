import Dispatch.Transport

/-!
# A scripted broker

A connector whose answers follow a script and which notes every call. Each operation takes the next cue
of its own queue: a delay and, where it fails, why. Without a cue it succeeds at once.
-/

set_option autoImplicit false

namespace Dispatch.Rehearsal

structure Cue where
  delay : Duration
  failure : Option TransportError
  deriving Inhabited

inductive Topic where
  | connect
  | subscribe
  | confirm
  | send
  | ack
  | nack
  deriving DecidableEq, Repr

inductive Noted where
  | opened (request : Opening)
  | listened (request : Listening)
  | confirmSelect (handle : Nat)
  | sent (handle : Nat) (wire : Wire)
  | closed (handle : Nat)
  | ack
  | nack
  | connected
  | subscribed (source : String)
  | sentPlain (handle : Nat) (wire : Wire)

structure ScriptedBroker where
  cues : Topic → List Cue
  /-- How many of the next sends break their handle. -/
  breaks : Nat
  /-- How many of the next handles ignore being closed. -/
  plainHandles : Nat
  plainSubscriptions : Nat
  deliveries : List (Except TransportError Delivery)
  handles : Nat
  unusable : List Nat
  notes : List Noted

structure ScriptedHandle where
  number : Nat
  backend : Backend
  plain : Bool
  deriving DecidableEq, Repr, Inhabited

structure ScriptedSubscription where
  plain : Bool
  deriving DecidableEq, Repr, Inhabited

inductive ScriptedCall where
  | fresh
  | waiting (until_ : Instant) (failure : Option TransportError)
  deriving DecidableEq, Repr, Inhabited

namespace ScriptedBroker

def new : ScriptedBroker where
  cues _ := []
  breaks := 0
  plainHandles := 0
  plainSubscriptions := 0
  deliveries := []
  handles := 0
  unusable := []
  notes := []

def note (b : ScriptedBroker) (noted : Noted) : ScriptedBroker := { b with notes := b.notes ++ [noted] }

def addCues (b : ScriptedBroker) (topic : Topic) (cues : List Cue) : ScriptedBroker :=
  { b with cues := fun other => if other = topic then b.cues other ++ cues else b.cues other }

def takeCue (b : ScriptedBroker) (topic : Topic) : Cue × ScriptedBroker :=
  ((b.cues topic).headD ⟨0, none⟩,
    { b with cues := fun other => if other = topic then (b.cues other).tail else b.cues other })

def isUsable (b : ScriptedBroker) (handle : ScriptedHandle) : Bool :=
  !b.unusable.contains handle.number

variable {α : Type}

/-- An operation that is noted, takes a cue and then fails, or succeeds with what `succeed` gives. Either
way `after` is done at the end. -/
def act (topic : Topic) (noted : Noted) (succeed : ScriptedBroker → α × ScriptedBroker)
    (after : ScriptedBroker → ScriptedBroker) :
    Operation ScriptedBroker ScriptedCall (Except TransportError α) where
  start := .fresh
  step now b
    | .fresh =>
      let (cue, b) := (b.note noted).takeCue topic
      (.moved (.waiting (now + cue.delay) cue.failure), b)
    | .waiting until_ failure =>
      if now < until_ then (.blocked (some until_), b)
      else
        match failure with
        | some error => (.finished (.error error), after b)
        | none =>
          let (result, b) := succeed b
          (.finished (.ok result), after b)
  abandon b _ := b

/-- Opens the next handle. Sockets have nothing to do when they are closed. -/
def addHandle (backend : Backend) (mayBePlain : Bool) (b : ScriptedBroker) :
    ScriptedHandle × ScriptedBroker :=
  let number := b.handles + 1
  let plain := mayBePlain && b.plainHandles > 0
  ({ number, backend, plain },
    { b with handles := number, plainHandles := if plain then b.plainHandles - 1 else b.plainHandles })

def addSubscription (b : ScriptedBroker) : ScriptedSubscription × ScriptedBroker :=
  ({ plain := b.plainSubscriptions > 0 }, { b with plainSubscriptions := b.plainSubscriptions - 1 })

def breakAfter (handle : ScriptedHandle) (b : ScriptedBroker) : ScriptedBroker :=
  if b.breaks > 0 then
    { b with breaks := b.breaks - 1, unusable := handle.number :: b.unusable }
  else b

def unit (b : ScriptedBroker) : Unit × ScriptedBroker := ((), b)

def settle (topic : Topic) (noted : Noted) (subscription : ScriptedSubscription) :
    Operation ScriptedBroker ScriptedCall (Except TransportError Unit) :=
  if subscription.plain then .immediate .fresh fun b => (.ok (), b)
  else act topic noted unit id

/-- The next scripted delivery; the stream ends with the script. -/
def receive : Operation ScriptedBroker ScriptedCall (Except TransportError (Option Delivery)) :=
  .immediate .fresh fun b =>
    match b.deliveries with
    | [] => (.ok none, b)
    | .ok delivery :: deliveries => (.ok (some delivery), { b with deliveries })
    | .error error :: deliveries => (.error error, { b with deliveries })

def close (handle : ScriptedHandle) (b : ScriptedBroker) : ScriptedBroker :=
  if handle.plain || handle.backend = .socket then b
  else { b with unusable := handle.number :: b.unusable }.note (.closed handle.number)

def connector : Connector ScriptedBroker ScriptedHandle ScriptedSubscription ScriptedCall where
  openHandle request :=
    act .connect (.opened request) (addHandle request.backend (request.backend != .socket)) id
  isOpen := isUsable
  confirmSelect handle := act .confirm (.confirmSelect handle.number) unit id
  send handle wire := act .send (.sent handle.number wire) unit (breakAfter handle)
  close := close
  forget _ b := b
  listen request := act .subscribe (.listened request) addSubscription id
  next _ := receive
  ack := settle .ack .ack
  nack := settle .nack .nack
  leave _ b := b

/-- The same script for handles of no particular kind. -/
def plainConnector : Connector ScriptedBroker ScriptedHandle ScriptedSubscription ScriptedCall :=
  { connector with
    openHandle := fun _ => act .connect .connected (addHandle .socket false) id
    send := fun handle wire => act .send (.sentPlain handle.number wire) unit (breakAfter handle)
    listen := fun request => act .subscribe (.subscribed request.source) addSubscription id }

end ScriptedBroker

/-- A transport that leaves to the defaults all it may: it closes a handle by letting go of it and
carries headers. -/
def plainTransport {ε ρ σ κ : Type} (c : Connector ε ρ σ κ) : Transport ε ρ σ κ where
  kind := .socket
  endpoint := "plain"
  forwardsHeaders := true
  connect := .whole (c.openHandle (.publisher "plain"))
  isUsable := c.isOpen
  send handle e :=
    .whole
      (c.send handle
        (.publication e.destination.exchange e.destination.routingKey (.ofEnvelope e) e.payload false))
  close := c.forget
  forget := c.forget
  subscribe source := .whole (c.listen (.subscriber "plain" source))
  next subscription := .whole (c.next subscription)
  ack subscription := .whole (c.ack subscription)
  nack subscription := .whole (c.nack subscription)
  leave := c.leave

end Dispatch.Rehearsal
