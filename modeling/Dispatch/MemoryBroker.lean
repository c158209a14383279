import Dispatch.Connector

/-!
# An in-process broker

A broker that lives in memory and speaks for all four kinds. It keeps every frame it accepts, hands
frames on to its subscribers and counts what is done to it. Settings make the next connects or sends
fail, wait or hang. A handle is usable until it is closed or all connections of its time are broken.
-/

set_option autoImplicit false

namespace Dispatch

/-- A frame the broker accepted, with the handle that sent it. -/
structure Frame where
  backend : Backend
  topic : String
  key : String
  payload : Bytes
  headers : Headers
  correlationId : Option String
  messageId : Option String
  deliveryMode : Option Nat
  qos : Option Nat
  retain : Bool
  connection : Nat
  deriving DecidableEq, Repr, Inhabited

namespace Frame

def plain (backend : Backend) (topic key : String) (payload : Bytes) : Frame where
  backend
  topic
  key
  payload
  headers := []
  correlationId := none
  messageId := none
  deliveryMode := none
  qos := none
  retain := false
  connection := 0

def ofWire (backend : Backend) (connection : Nat) (wire : Wire) : Frame :=
  let frame : Frame :=
    match wire with
    | .publication exchange routingKey properties body _ =>
      { plain backend exchange routingKey body with
        headers := properties.headers
        correlationId := properties.correlationId
        messageId := properties.messageId
        deliveryMode := some properties.deliveryMode }
    | .frames parts =>
      let topic := (parts.dropLast.head?.map Bytes.lossy).getD ""
      plain backend topic topic (parts.getLast?.getD [])
    | .record record _ =>
      { plain backend record.topic record.key record.payload with headers := record.headers }
    | .packet packet =>
      { plain backend packet.topic packet.topic packet.payload with
        qos := some packet.qos
        retain := packet.retain }
  { frame with connection }

/-- What a subscriber with a filter gets of the frame. -/
def delivery (frame : Frame) (filter : String) : Delivery where
  source := if filter.isEmpty then frame.topic else filter
  payload := frame.payload
  headers := frame.headers
  correlationId := frame.correlationId
  messageId := frame.messageId

/-- An empty filter takes everything, any other takes frames with that topic or key. -/
def matchesFilter (frame : Frame) (filter : String) : Bool :=
  filter.isEmpty || filter == frame.topic || filter == frame.key

end Frame

/-- A subscription with the deliveries that wait in it. -/
structure Subscriber where
  number : Nat
  filter : String
  queue : List Delivery
  listening : Bool
  deriving DecidableEq, Repr, Inhabited

def Subscriber.takes (s : Subscriber) (frame : Frame) : Bool :=
  s.listening && frame.matchesFilter s.filter

structure MemoryHandle where
  backend : Backend
  number : Nat
  generation : Nat
  deriving DecidableEq, Repr, Inhabited

structure MemoryBroker where
  frames : List Frame
  subscribers : List Subscriber
  nextSubscriber : Nat
  clientIds : List String
  sendDelay : Duration
  connectDelay : Duration
  failConnects : Nat
  failSends : Nat
  rejectSends : Nat
  hangSends : Bool
  generation : Nat
  connectAttempts : Nat
  connects : Nat
  closedHandles : List Nat
  busy : List Nat
  violations : Nat
  confirmSelects : Nat
  acks : Nat
  nacks : Nat
  deriving Repr, Inhabited

/-- A call to the broker. A send that hangs never ends by itself. -/
inductive MemoryCall where
  | fresh
  | connecting (until_ : Instant)
  | sending (deadline : Option Instant) (until_ : Instant)
  | hanging (deadline : Option Instant)
  deriving DecidableEq, Repr, Inhabited

namespace MemoryBroker

def new : MemoryBroker where
  frames := []
  subscribers := []
  nextSubscriber := 0
  clientIds := []
  sendDelay := 0
  connectDelay := 0
  failConnects := 0
  failSends := 0
  rejectSends := 0
  hangSends := false
  generation := 0
  connectAttempts := 0
  connects := 0
  closedHandles := []
  busy := []
  violations := 0
  confirmSelects := 0
  acks := 0
  nacks := 0

/-! ## Faults -/

def breakConnections (b : MemoryBroker) : MemoryBroker := { b with generation := b.generation + 1 }

def closeSubscriptions (b : MemoryBroker) : MemoryBroker :=
  { b with subscribers := b.subscribers.map fun s => { s with listening := false } }

/-! ## Readings -/

def framesFor (b : MemoryBroker) (topic : String) : List Frame := b.frames.filter (·.topic = topic)

def closed (b : MemoryBroker) : Nat := b.closedHandles.length

def describe (b : MemoryBroker) : String :=
  s!"InMemoryBroker \x7b frames: {b.frames.length}, connects: {b.connects}, closed: {b.closed} \x7d"

def isUsable (b : MemoryBroker) (handle : MemoryHandle) : Bool :=
  !b.closedHandles.contains handle.number && handle.generation == b.generation

/-! ## Frames and subscribers -/

def fanOut (b : MemoryBroker) (frame : Frame) : MemoryBroker :=
  { b with subscribers := b.subscribers.map fun s =>
      if s.takes frame then { s with queue := s.queue ++ [frame.delivery s.filter] }
      else s }

def receivers (b : MemoryBroker) (frame : Frame) : Nat :=
  (b.subscribers.filter (·.takes frame)).length

/-- A payload from another producer: tells how many subscribers got it. -/
def inject (b : MemoryBroker) (source : String) (payload : Bytes) : Nat × MemoryBroker :=
  let frame := Frame.plain .amqp source source payload
  (b.receivers frame, b.fanOut frame)

def accept (b : MemoryBroker) (frame : Frame) : MemoryBroker :=
  { b with frames := b.frames ++ [frame] }.fanOut frame

/-! ## Calls -/

/-- A connect or subscribe attempt: counted first, delayed, and then let in or failed. -/
def attempt {α : Type} (admitted : MemoryBroker → α × MemoryBroker) :
    Operation MemoryBroker MemoryCall (Except TransportError α) where
  start := .fresh
  step now b
    | .connecting until_ =>
      if now < until_ then (.blocked (some until_), b)
      else if b.failConnects > 0 then
        (.finished (.error (.connection "injected connect failure")),
          { b with failConnects := b.failConnects - 1 })
      else
        let (result, b) := admitted b
        (.finished (.ok result), b)
    | _ =>
      (.moved (.connecting (now + b.connectDelay)), { b with connectAttempts := b.connectAttempts + 1 })
  abandon b _ := b

/-- A new handle. An MQTT session leaves its client id. -/
def admitHandle (opening : Opening) (b : MemoryBroker) : MemoryHandle × MemoryBroker :=
  let number := b.connects + 1
  ({ backend := opening.backend, number, generation := b.generation },
    { b with
      connects := number
      clientIds :=
        match opening with
        | .session options => b.clientIds ++ [options.clientId]
        | _ => b.clientIds })

def admitSubscriber (filter : String) (b : MemoryBroker) : Nat × MemoryBroker :=
  (b.nextSubscriber,
    { b with
      nextSubscriber := b.nextSubscriber + 1
      subscribers :=
        b.subscribers ++ [{ number := b.nextSubscriber, filter, queue := [], listening := true }] })

/-- Only a log client limits the time of a send itself. -/
def limitOf : Wire → Option Duration
  | .record _ timeout => some timeout
  | _ => none

def finishSend (b : MemoryBroker) (handle : MemoryHandle) : MemoryBroker :=
  { b with busy := b.busy.erase handle.number }

/-- Past its delay, a send hangs, fails, is rejected or is accepted. -/
def arrive (b : MemoryBroker) (handle : MemoryHandle) (wire : Wire) :
    Except TransportError Unit × MemoryBroker :=
  if b.failSends > 0 then
    (.error (.send "injected send failure"), { b with failSends := b.failSends - 1 })
  else if b.rejectSends > 0 then
    (.error (.rejected "injected rejection"), { b with rejectSends := b.rejectSends - 1 })
  else (.ok (), b.accept (Frame.ofWire handle.backend handle.number wire))

/-- A send that waits longer than its limit is given up. -/
def stall (handle : MemoryHandle) (wire : Wire) (now : Instant) (b : MemoryBroker)
    (deadline wake : Option Instant) :
    Turn MemoryCall (Except TransportError Unit) × MemoryBroker :=
  if deadline.any (· ≤ now) then
    (.finished (.error (.timeout ((limitOf wire).getD 0))), b.finishSend handle)
  else (.blocked (earlier wake deadline), b)

def send (handle : MemoryHandle) (wire : Wire) :
    Operation MemoryBroker MemoryCall (Except TransportError Unit) where
  start := .fresh
  step now b
    | .hanging deadline => stall handle wire now b deadline none
    | .sending deadline until_ =>
      if now < until_ then stall handle wire now b deadline (some until_)
      else if b.hangSends then (.moved (.hanging deadline), b)
      else
        let (result, b) := b.arrive handle wire
        (.finished result, b.finishSend handle)
    | _ =>
      if b.isUsable handle then
        (.moved (.sending ((limitOf wire).map (now + ·)) (now + b.sendDelay)),
          { b with
            violations := if b.busy.contains handle.number then b.violations + 1 else b.violations
            busy := handle.number :: b.busy })
      else (.finished (.error .closed), b)
  abandon b
    | .sending _ _ | .hanging _ => b.finishSend handle
    | _ => b

/-- A handle is closed once, however often its owners let go of it. -/
def close (handle : MemoryHandle) (b : MemoryBroker) : MemoryBroker :=
  if b.closedHandles.contains handle.number then b
  else { b with closedHandles := handle.number :: b.closedHandles }

/-- Takes the first delivery that waits; a subscription that nobody fills any more ends when it is
empty. -/
def receive (number : Nat) :
    Operation MemoryBroker MemoryCall (Except TransportError (Option Delivery)) where
  start := .fresh
  step _ b _ :=
    match b.subscribers.find? (·.number = number) with
    | none => (.finished (.ok none), b)
    | some subscriber =>
      match subscriber.queue with
      | delivery :: queue =>
        (.finished (.ok (some delivery)),
          { b with subscribers := b.subscribers.map fun s =>
              if s.number = number then { s with queue } else s })
      | [] => if subscriber.listening then (.blocked none, b) else (.finished (.ok none), b)
  abandon b _ := b

def connector : Connector MemoryBroker MemoryHandle Nat MemoryCall where
  openHandle opening := attempt (admitHandle opening)
  isOpen := isUsable
  confirmSelect _ :=
    .immediate .fresh fun b => (.ok (), { b with confirmSelects := b.confirmSelects + 1 })
  send := send
  close := close
  forget := close
  listen listening := attempt (admitSubscriber listening.source)
  next := receive
  ack _ := .immediate .fresh fun b => (.ok (), { b with acks := b.acks + 1 })
  nack _ := .immediate .fresh fun b => (.ok (), { b with nacks := b.nacks + 1 })
  leave number b := { b with subscribers := b.subscribers.filter (·.number != number) }

end MemoryBroker

end Dispatch
