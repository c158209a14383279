import Dispatch.MemoryBroker
import Dispatch.Registry
import Dispatch.Rehearsal.Scripted

/-!
# A rehearsed world

One in-process broker, one scripted broker and one registry, with adapters on either of the two. Some
adapters are registered, others are wired directly, and handles can be used without an adapter's pool.
`worldMachine` steps every kind of call that has to wait.
-/

set_option autoImplicit false

namespace Dispatch.Rehearsal

inductive Sighting where
  | login (user : String) (metadata : Metadata)
  | raw (delivery : Delivery)

structure Outside where
  memory : MemoryBroker
  script : ScriptedBroker
  seen : List Sighting

namespace Outside

def new : Outside := { memory := .new, script := .new, seen := [] }

def note (o : Outside) (sighting : Sighting) : Outside := { o with seen := o.seen ++ [sighting] }

end Outside

inductive Handle where
  | memory (handle : MemoryHandle)
  | scripted (handle : ScriptedHandle)

inductive Subscription where
  | memory (number : Nat)
  | scripted (subscription : ScriptedSubscription)

inductive BrokerCall where
  | idle
  | memory (call : MemoryCall)
  | scripted (call : ScriptedCall)

abbrev BrokerConnector := Connector Outside Handle Subscription BrokerCall

def memoryConnector : BrokerConnector :=
  MemoryBroker.connector.embed ⟨Outside.memory, fun o memory => { o with memory }⟩
    ⟨.memory, fun | .memory handle => some handle | _ => none⟩
    ⟨.memory, fun | .memory number => some number | _ => none⟩
    ⟨.memory, fun | .memory call => some call | _ => none⟩ .idle

def onScript (c : Connector ScriptedBroker ScriptedHandle ScriptedSubscription ScriptedCall) :
    BrokerConnector :=
  c.embed ⟨Outside.script, fun o script => { o with script }⟩
    ⟨.scripted, fun | .scripted handle => some handle | _ => none⟩
    ⟨.scripted, fun | .scripted subscription => some subscription | _ => none⟩
    ⟨.scripted, fun | .scripted call => some call | _ => none⟩ .idle

def connectorFor (scripted : Bool) : BrokerConnector :=
  if scripted then onScript ScriptedBroker.connector else memoryConnector

/-! ## Handlers -/

/-- The handler of logins reads a record with a user and turns away one of them. A raw handler takes
its time, notes the delivery and may reject it. -/
inductive HandlerKind where
  | login
  | raw (pause : Duration) (rejects : Bool)

inductive HandlerCall where
  | fresh
  | pausing (until_ : Instant)

namespace HandlerKind

/-- What is said of a payload that cannot be read. -/
def unreadable : String := "JSON"

def receive (user : String) (metadata : Metadata) (o : Outside) : Except String Unit × Outside :=
  if user = "mallory" then (.error "blocked user", o) else (.ok (), o.note (.login user metadata))

def handler : HandlerKind → Handler Outside HandlerCall
  | .login =>
    .json (Json.memberOfBytes "user") (fun _ => unreadable) .fresh fun user metadata =>
      .immediate .fresh (receive user metadata)
  | .raw pause rejects => fun delivery =>
    { start := .fresh
      step := fun now o call =>
        match call with
        | .fresh => (.moved (.pausing (now + pause)), o)
        | .pausing until_ =>
          if now < until_ then (.blocked (some until_), o)
          else
            (.finished (if rejects then .error "rejected" else .ok ()), o.note (.raw delivery))
      abandon := fun o _ => o }

end HandlerKind

/-! ## The world -/

structure Built where
  name : String
  place : Nat
  settings : Option BackendSettings

structure World where
  registry : Registry Outside Handle Subscription BrokerCall
  built : List Built
  /-- Handles outside any pool, by the adapter that opened them and an id. -/
  handles : List ((String × String) × Handle)

namespace World

def new : World where
  registry := .new (.new .new "PID")
  built := []
  handles := []

def outside (w : World) : Outside := w.registry.shared.surroundings.outside

def setShared (w : World) (shared : Shared Outside) : World :=
  { w with registry := { w.registry with shared } }

def surroundings (w : World) : Surroundings Outside := w.registry.shared.surroundings

def setSurroundings (w : World) (surroundings : Surroundings Outside) : World :=
  w.setShared { w.registry.shared with surroundings }

def update (w : World) (f : Outside → Outside) : World := w.setShared (w.registry.shared.update f)

def updateMemory (w : World) (f : MemoryBroker → MemoryBroker) : World :=
  w.update fun o => { o with memory := f o.memory }

def updateScript (w : World) (f : ScriptedBroker → ScriptedBroker) : World :=
  w.update fun o => { o with script := f o.script }

def builtAs? (w : World) (name : String) : Option Built := w.built.find? (·.name = name)

def adapterOf? (w : World) (name : String) :
    Option (Nat × Adapter Outside Handle Subscription BrokerCall) := do
  let built ← w.builtAs? name
  let adapter ← w.registry.adapters[built.place]?
  return (built.place, adapter)

def forget (w : World) : Handle → World
  | .memory handle => w.updateMemory (MemoryBroker.close handle)
  | .scripted _ => w

def keepHandle (w : World) (name id : String) (handle : Handle) : World :=
  let held := w.handles.lookup (name, id)
  let w := { w with handles := ((name, id), handle) :: w.handles.filter (·.1 != (name, id)) }
  match held with
  | some old => w.forget old
  | none => w

def register (w : World) (name : String) (settings : BackendSettings) (scripted : Bool) :
    Except BrokerError Nat × World :=
  let (result, registry) := w.registry.register (connectorFor scripted) name settings
  (result, { w with registry })

/-- An adapter that is not used any more lets go of its idle handles. -/
def discard (w : World) (name : String) : World :=
  match w.adapterOf? name with
  | none => w
  | some (_, adapter) => adapter.pool.idle.foldl (fun w entry => w.forget entry.resource) w

def build (w : World) (name : String) (transport : Transport Outside Handle Subscription BrokerCall)
    (pool : PoolSettings) (destination : Destination) (source : String)
    (settings : Option BackendSettings) : Except BrokerError Unit × World :=
  match w.registry.add name transport pool destination source with
  | (.error error, registry) => (.error error, { w with registry })
  | (.ok place, registry) =>
    let w := { w with registry }.discard name
    (.ok (), { w with built := ⟨name, place, settings⟩ :: w.built.filter (·.name != name) })

def buildBackend (w : World) (name : String) (settings : BackendSettings) (scripted : Bool) :
    Except BrokerError Unit × World :=
  w.build name (.ofSettings (connectorFor scripted) settings) settings.pool settings.destination
    settings.source (some settings)

def buildPlain (w : World) (name : String) (pool : PoolSettings) (topic : String) :
    Except BrokerError Unit × World :=
  w.build name (plainTransport (onScript ScriptedBroker.plainConnector)) pool (.topic topic) topic none

def changeBuilt (w : World) (name : String)
    (f : Adapter Outside Handle Subscription BrokerCall → Shared Outside →
      Adapter Outside Handle Subscription BrokerCall × Shared Outside) : World :=
  match w.builtAs? name with
  | none => w
  | some built => { w with registry := w.registry.change built.place f }

def closeHandle (w : World) (name id : String) : World :=
  match w.adapterOf? name, w.handles.lookup (name, id) with
  | some (_, adapter), some handle =>
    { w.update (adapter.transport.close handle) with
      handles := w.handles.filter (·.1 != (name, id)) }
  | _, _ => w

end World

/-! ## Calls -/

inductive Message where
  | value (destination : Destination) (value : Except String Json)
  | context (destination : Destination) (context : Except String MessageContext)
  | envelope (envelope : Envelope)
  | metadata (value : Json) (metadata : Metadata)

def Message.outgoing (options : PublisherOptions) : Message → Outgoing
  | .value destination content => .message options destination content
  | .context destination content => .context options destination content
  | .envelope content => .envelope options content
  | .metadata content about => .withMetadata options content about

inductive Request where
  | publish (name : String) (value : Json) (metadata : Metadata)
  /-- A value that cannot be turned into JSON never reaches the adapter. -/
  | publishUnserializable (name reason : String)
  | ping (name : String)
  | pingAll
  | subscribe (name : String) (handler : HandlerKind)
  | publishOn (name : String) (message : Message)
  | checkOn (name : String)
  | consumeOn (name source : String) (handler : HandlerKind)
  | subscribeOn (name : String) (handler : HandlerKind)
  | connect (name id : String)
  | send (name id : String) (envelope : Envelope)
  | sendFrames (parts : List Bytes)

inductive Answer where
  | reply (reply : Reply)
  | refused (error : BrokerError)
  | transport (result : Except TransportError Unit)
  | frames (result : Except TransportError Bool)
  | unknown
  | abandoned

abbrev AdapterCall := Call Outside Handle Subscription BrokerCall HandlerCall

inductive WorldCall where
  | requested (request : Request)
  | calling (call : AdapterCall)
  | connecting (name id : String) (place : Nat) (call : TransportCall Handle BrokerCall)
  | sending (place : Nat) (handle : Handle) (envelope : Envelope)
      (call : TransportCall Handle BrokerCall)
  | openingSocket (parts : List Bytes) (call : MemoryCall)
  | sendingFrames (parts : List Bytes) (handle : MemoryHandle) (call : MemoryCall)

namespace World

def onRegistered (w : World) (name : String)
    (call : Nat → Adapter Outside Handle Subscription BrokerCall → Except BrokerError AdapterCall) :
    Except Answer WorldCall :=
  match w.registry.find name with
  | .error error => .error (.refused error)
  | .ok place =>
    match w.registry.adapters[place]? with
    | none => .error .unknown
    | some adapter => ((call place adapter).mapError .refused).map .calling

def onBuilt (w : World) (name : String)
    (call : Nat → Adapter Outside Handle Subscription BrokerCall → Except BrokerError AdapterCall) :
    Except Answer WorldCall :=
  match w.adapterOf? name with
  | none => .error .unknown
  | some (place, adapter) => ((call place adapter).mapError .refused).map .calling

def subscribeCall (handler : HandlerKind) (place : Nat)
    (adapter : Adapter Outside Handle Subscription BrokerCall) : Except BrokerError AdapterCall :=
  (Consuming.defaultSource adapter).map fun source =>
    .consuming place source handler.handler .start

def publishCall (message : Message) (place : Nat)
    (adapter : Adapter Outside Handle Subscription BrokerCall) : Except BrokerError AdapterCall :=
  .ok (.publishing place (message.outgoing adapter.options) .fresh)

def callOf (w : World) : Request → Except Answer WorldCall
  | .publish name value metadata => w.onRegistered name (publishCall (.metadata value metadata))
  | .publishUnserializable name reason =>
    w.onRegistered name fun _ adapter => .error (.ofSerialization adapter.backend reason)
  | .ping name => w.onRegistered name fun place _ => .ok (.checking place .start)
  | .pingAll => .ok (.calling (.checkAll w.registry))
  | .subscribe name handler => w.onRegistered name (subscribeCall handler)
  | .publishOn name message => w.onBuilt name (publishCall message)
  | .checkOn name => w.onBuilt name fun place _ => .ok (.checking place .start)
  | .consumeOn name source handler =>
    w.onBuilt name fun place _ => .ok (.consuming place source handler.handler .start)
  | .subscribeOn name handler => w.onBuilt name (subscribeCall handler)
  | .connect name id =>
    match w.adapterOf? name with
    | none => .error .unknown
    | some (place, adapter) => .ok (.connecting name id place adapter.transport.connect.start)
  | .send name id envelope =>
    match w.adapterOf? name, w.handles.lookup (name, id) with
    | some (place, adapter), some handle =>
      .ok (.sending place handle envelope (adapter.transport.send handle envelope).start)
    | _, _ => .error .unknown
  | .sendFrames parts =>
    .ok (.openingSocket parts (MemoryBroker.connector.openHandle (.publisher "")).start)

def stepMemory {α : Type} (w : World) (now : Instant) (op : Operation MemoryBroker MemoryCall α)
    (call : MemoryCall) : Turn MemoryCall α × World :=
  let (turn, memory) := op.step now w.outside.memory call
  (turn, w.updateMemory fun _ => memory)

def step (w : World) (now : Instant) (cancelled : Bool) : WorldCall → Turn WorldCall Answer × World
  | .requested request =>
    match w.callOf request with
    | .error answer => (.finished answer, w)
    | .ok call => (.moved call, w)
  | .calling call =>
    let (turn, registry) := call.step w.registry now cancelled
    (turn.lift .calling fun reply => .finished (.reply reply), { w with registry })
  | .connecting name id place call =>
    match w.registry.adapters[place]? with
    | none => (.finished .unknown, w)
    | some adapter =>
      let (turn, surroundings) := adapter.transport.connect.step now w.surroundings call
      let w := w.setSurroundings surroundings
      match turn with
      | .finished (.ok handle) => (.finished (.transport (.ok ())), w.keepHandle name id handle)
      | .finished (.error error) => (.finished (.transport (.error error)), w)
      | .moved call => (.moved (.connecting name id place call), w)
      | .blocked wake => (.blocked wake, w)
      | .overflowed => (.overflowed, w)
  | .sending place handle envelope call =>
    match w.registry.adapters[place]? with
    | none => (.finished .unknown, w)
    | some adapter =>
      let (turn, surroundings) :=
        (adapter.transport.send handle envelope).step now w.surroundings call
      (turn.lift (.sending place handle envelope) fun result => .finished (.transport result),
        w.setSurroundings surroundings)
  | .openingSocket parts call =>
    let (turn, w) := w.stepMemory now (MemoryBroker.connector.openHandle (.publisher "")) call
    (turn.lift (.openingSocket parts) fun
      | .error error => .finished (.frames (.error error))
      | .ok handle =>
        .moved (.sendingFrames parts handle (MemoryBroker.send handle (.frames parts)).start), w)
  | .sendingFrames parts handle call =>
    let (turn, w) := w.stepMemory now (MemoryBroker.send handle (.frames parts)) call
    match turn with
    | .finished result =>
      let isOpen := w.outside.memory.isUsable handle
      (.finished (.frames (result.map fun _ => isOpen)), w.forget (.memory handle))
    | .moved call => (.moved (.sendingFrames parts handle call), w)
    | .blocked wake => (.blocked wake, w)
    | .overflowed => (.overflowed, w)

def abandon (w : World) (now : Instant) : WorldCall → World
  | .requested _ => w
  | .calling call => { w with registry := call.abandon w.registry now }
  | .connecting _ _ place call =>
    match w.registry.adapters[place]? with
    | none => w
    | some adapter => w.setSurroundings (adapter.transport.connect.abandon w.surroundings call)
  | .sending place handle envelope call =>
    match w.registry.adapters[place]? with
    | none => w
    | some adapter =>
      w.setSurroundings ((adapter.transport.send handle envelope).abandon w.surroundings call)
  | .openingSocket _ call =>
    w.updateMemory fun b => (MemoryBroker.connector.openHandle (.publisher "")).abandon b call
  | .sendingFrames parts handle call =>
    (w.updateMemory fun b => (MemoryBroker.send handle (.frames parts)).abandon b call).forget
      (.memory handle)

end World

def worldMachine : Machine World WorldCall Answer where
  step now cancelled w call := w.step now cancelled call
  abandon now w call := (.abandoned, w.abandon now call)

end Dispatch.Rehearsal
