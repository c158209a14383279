import Dispatch.Proofs.Cancellation.Leases
import Dispatch.Proofs.Delivery.Messages
import Dispatch.Proofs.Publishing.Failures

set_option autoImplicit false

namespace Dispatch

/-! ## Records of a log -/

namespace LogRecord

def idUnder (correlationId messageId : Option String) (key : String) : Option String :=
  (if key = messageHeader then messageId else none).or (if key = correlationHeader then correlationId else none)

theorem lookup_withId (name : String) (id : Option String) (headers : Headers) (key : String) :
    (withId name id headers).lookup key = (if key = name then id else none).or (headers.lookup key) := by
  cases id with
  | none => simp [withId]
  | some id =>
      rw [withId, lookup_insertSorted]
      split <;> rfl

theorem lookup_headers (e : Envelope) (key : String) :
    (ofEnvelope e).headers.lookup key = (idUnder e.correlationId e.messageId key).or (e.headers.lookup key) := by
  simp only [ofEnvelope, lookup_withId, idUnder, Option.or_assoc]

end LogRecord

/-! ## Message contexts -/

namespace MessageContext

def envelope (context : MessageContext) (destination : Destination) : Envelope :=
  { Envelope.json destination context.payload with
    headers := context.headers
    correlationId := context.correlationId
    messageId := context.messageId }

def idUnder (context : MessageContext) (key : String) : Option String :=
  LogRecord.idUnder context.correlationId context.messageId key

def Apart (context : MessageContext) : Prop :=
  ∀ key id value, context.idUnder key = some id → context.headers.lookup key = some value → value = id

end MessageContext

/-- A frame has every application header with its value, and the ids that were set: AMQP has them as
properties, a log as headers of the record. -/
structure Frame.Intact (frame : Frame) (backend : Backend) (context : MessageContext) : Prop where
  headers : ∀ key value, context.headers.lookup key = some value → frame.headers.lookup key = some value
  properties : backend = .amqp → frame.correlationId = context.correlationId ∧ frame.messageId = context.messageId
  record : backend = .log → ∀ key id, context.idUnder key = some id → frame.headers.lookup key = some id

namespace Adapter

variable {ε ρ σ κ : Type}

def Forwards (a : Adapter ε ρ σ κ) : Prop :=
  a.options.headerPolicy = .forward ∧ (a.backend = .amqp ∨ a.backend = .log)

theorem prepare_envelope (a : Adapter ε ρ σ κ) (e : Envelope) :
    (Publishing.prepare a e).1 =
      if a.options.headerPolicy = .forward ∧ a.transport.forwardsHeaders = true then e
      else { e with headers := [] } := by
  obtain ⟨destination, payload, headers, correlationId, messageId, contentType⟩ := e
  unfold Publishing.prepare Publishing.withoutHeaders
  cases headers with
  | nil => simp
  | cons header headers =>
      cases a.options.headerPolicy with
      | drop => simp
      | forward => cases a.transport.forwardsHeaders <;> simp

end Adapter

namespace Adapter.OnMemory

variable {a : MemoryAdapter} {settings : BackendSettings}

theorem forwards_iff (wired : a.OnMemory settings) :
    a.options.headerPolicy = .forward ∧ a.transport.forwardsHeaders = true ↔ a.Forwards := by
  have carried : a.transport.forwardsHeaders = Transport.carriesHeaders a.backend := by
    rw [← wired.backend, wired]
    rfl
  rw [carried, Forwards]
  cases a.backend <;> simp [Transport.carriesHeaders]

theorem prepare_forwarded (wired : a.OnMemory settings) (forwards : a.Forwards) (e : Envelope) :
    (Publishing.prepare a e).1 = e := by
  rw [prepare_envelope, if_pos (wired.forwards_iff.2 forwards)]

theorem prepare_plain (wired : a.OnMemory settings) (stays : ¬a.Forwards) (e : Envelope) :
    (Publishing.prepare a e).1 = { e with headers := [] } := by
  rw [prepare_envelope, if_neg (mt wired.forwards_iff.1 stays)]

end Adapter.OnMemory

def Adapter.frameOf (a : MemoryAdapter) (settings : BackendSettings) (lease : Lease MemoryHandle)
    (destination : Destination) (context : MessageContext) : Frame :=
  .ofSend settings lease (Publishing.prepare a (context.envelope destination)).1

structure Adapter.Conveys (a : MemoryAdapter) (settings : BackendSettings) (lease : Lease MemoryHandle)
    (destination : Destination) (context : MessageContext) (receipt : Receipt) : Prop where
  amqp : a.Forwards → a.backend = .amqp →
    (a.frameOf settings lease destination context).headers = context.headers
  log : a.Forwards → a.backend = .log → ∀ key,
    (a.frameOf settings lease destination context).headers.lookup key =
      (context.idUnder key).or (context.headers.lookup key)
  intact : a.Forwards →
    ((a.frameOf settings lease destination context).Intact a.backend context ↔ (a.backend = .log → context.Apart))
  independent : ¬a.Forwards → ∀ headers : Headers,
    a.frameOf settings lease destination { context with headers } = a.frameOf settings lease destination context
  reported : receipt.headersForwarded = true ↔ context.headers ≠ [] ∧ a.Forwards

namespace Adapter.OnMemory

variable {a : MemoryAdapter} {settings : BackendSettings} (lease : Lease MemoryHandle) (destination : Destination)
  (context : MessageContext)

theorem forwarded_amqp (wired : a.OnMemory settings) (forwards : a.Forwards) (kind : a.backend = .amqp) :
    (a.frameOf settings lease destination context).headers = context.headers ∧
      (a.frameOf settings lease destination context).correlationId = context.correlationId ∧
      (a.frameOf settings lease destination context).messageId = context.messageId := by
  have backend := wired.backend.trans kind
  rw [frameOf, wired.prepare_forwarded forwards]
  cases settings with
  | amqp settings => exact ⟨rfl, rfl, rfl⟩
  | socket | log | mqtt => cases backend

theorem forwarded_log (wired : a.OnMemory settings) (forwards : a.Forwards) (kind : a.backend = .log)
    (key : String) :
    (a.frameOf settings lease destination context).headers.lookup key =
      (context.idUnder key).or (context.headers.lookup key) := by
  have backend := wired.backend.trans kind
  rw [frameOf, wired.prepare_forwarded forwards]
  cases settings with
  | log settings => exact LogRecord.lookup_headers _ key
  | amqp | socket | mqtt => cases backend

theorem intact_iff (wired : a.OnMemory settings) (forwards : a.Forwards) :
    (a.frameOf settings lease destination context).Intact a.backend context ↔
      (a.backend = .log → context.Apart) := by
  constructor
  · intro intact kind key id value set held
    have found := intact.headers key value held
    rw [wired.forwarded_log lease destination context forwards kind key, set] at found
    exact (Option.some.inj found).symm
  · intro apart
    rcases forwards.2 with kind | kind
    · obtain ⟨headers, ids⟩ := wired.forwarded_amqp lease destination context forwards kind
      refine ⟨fun key value held => headers ▸ held, fun _ => ids, fun log => ?_⟩
      rw [kind] at log
      cases log
    · have carried := wired.forwarded_log lease destination context forwards kind
      refine ⟨fun key value held => ?_, fun amqp => ?_, fun _ key id set => ?_⟩
      · rw [carried, held]
        cases set : context.idUnder key with
        | none => rfl
        | some id => rw [apart kind key id value set held]; rfl
      · rw [kind] at amqp
        cases amqp
      · rw [carried, set]
        rfl

theorem conveys (wired : a.OnMemory settings) {envelope : Envelope}
    (prepared : envelope = (Publishing.prepare a (context.envelope destination)).1) :
    a.Conveys settings lease destination context (Publishing.receipt a envelope) where
  amqp forwards kind := (wired.forwarded_amqp lease destination context forwards kind).1
  log := wired.forwarded_log lease destination context
  intact := wired.intact_iff lease destination context
  independent stays headers := by
    rw [frameOf, frameOf, wired.prepare_plain stays, wired.prepare_plain stays]
    rfl
  reported := by
    rw [prepared]
    by_cases forwards : a.Forwards
    · rw [wired.prepare_forwarded forwards]
      simp [Publishing.receipt, MessageContext.envelope, forwards]
    · rw [wired.prepare_plain forwards]
      simp [Publishing.receipt, forwards]

end Adapter.OnMemory

/-! ## What a call sends -/

section Sent

variable {ε ρ σ κ η : Type} {a b : Adapter ε ρ σ κ}

def Part.SentBy (a : Adapter ε ρ σ κ) : Part ε ρ σ κ η → Prop
  | .publishing message (.sending _ _ envelope _) =>
    ∃ original, message.content = .ok original ∧ envelope = (Publishing.prepare a original).1
  | _ => True

theorem Part.sentBy_congr (options : b.options = a.options) (transport : b.transport = a.transport)
    (part : Part ε ρ σ κ η) : part.SentBy b ↔ part.SentBy a := by
  have same (e : Envelope) : (Publishing.prepare b e).1 = (Publishing.prepare a e).1 := by
    simp only [Adapter.prepare_envelope, options, transport]
  cases part with
  | checking | consuming => exact Iff.rfl
  | publishing message progress =>
      cases progress with
      | sending => simp only [SentBy, same]
      | fresh | limiting | leasing | preparing => exact Iff.rfl

theorem Part.sentBy_fresh {part : Part ε ρ σ κ η} (fresh : part.isFresh) : part.SentBy a := by
  rcases fresh_cases fresh with ⟨message, rfl⟩ | rfl | ⟨source, handler, rfl⟩ <;> trivial

theorem Part.SentBy.deed {now : Instant} {next : Adapter ε ρ σ κ} {s later : Shared ε} {part after : Part ε ρ σ κ η}
    {prompt : Prompt} (sent : part.SentBy a) (deed : part.Deed now a s prompt (.goesOn after) next later) :
    after.SentBy a := by
  unfold SentBy
  split
  · rcases deed.sending with ⟨execution, rfl⟩ | made
    · exact sent
    · exact made
  · trivial

namespace Exchange

variable {x y : Exchange ε ρ σ κ η} {move : Move ε ρ σ κ η}

def Composed (x : Exchange ε ρ σ κ η) : Prop :=
  x.EachPart fun place part => part.isFresh ∨ ∃ a, x.registry.adapters[place]? = some a ∧ part.SentBy a

theorem Composed.change (composed : x.Composed) (change : x.Change move y) : y.Composed := by
  have kept (place : Nat) (part : Part ε ρ σ κ η)
      (before : part.isFresh ∨ ∃ a, x.registry.adapters[place]? = some a ∧ part.SentBy a) :
      part.isFresh ∨ ∃ b, y.registry.adapters[place]? = some b ∧ part.SentBy b := by
    rcases before with fresh | ⟨a, here, sent⟩
    · exact .inl fresh
    · obtain ⟨b, there, -, transport, options⟩ := change.extends place a here
      exact .inr ⟨b, there, (part.sentBy_congr options transport).2 sent⟩
  refine EachPart.change composed change (fun _ _ begins => .inl begins.isFresh) kept ?_
  intro prompt place part after a next later here deed there before
  have sent : part.SentBy a := by
    rcases before with fresh | ⟨b, found, sent⟩
    · exact part.sentBy_fresh fresh
    · rw [here] at found
      cases found
      exact sent
  exact .inr ⟨next, there, (after.sentBy_congr deed.options deed.wiring.2).2 (sent.deed deed)⟩

theorem composed_run (outside : ε) (process : String) (moves : List (Move ε ρ σ κ η)) :
    ((start outside process).run moves).Composed :=
  run_keeps (fun x move composed => composed.change (x.perform_change move)) moves
    fun number call place part found => by cases found

end Exchange

end Sent

/-! ## In a run -/

namespace Exchange

variable {η : Type}

/-- In whatever way a run came to it, a step in which a publish call for a message context returns a receipt puts
one frame into the broker, on the lease that the call had. It is intact if headers are forwarded, except that in a
log the ids take the place of headers of their names; otherwise the headers make no difference to it. -/
theorem context_headers_arrive (memory : MemoryBroker) (process : String) (moves : List (MemoryMove η))
    (onMemory : ∀ move ∈ moves, move.onMemory) (number place : Nat) (cancelled : Bool) (options : PublisherOptions)
    (destination : Destination) (context : MessageContext) (progress : Publishing MemoryHandle MemoryCall)
    (receipt : Receipt) :
    let x := (start memory process : MemoryExchange η).run moves
    let y := x.perform (.step number cancelled)
    x.errands[number]? =
      some (.running (.publishing place (.context options destination (.ok context)) progress)) →
    y.errands[number]? = some (.ended (.published (.ok receipt))) →
    ∃ a settings lease, x.registry.adapters[place]? = some a ∧ a.OnMemory settings ∧
      x.Holds number place lease ∧
      y.broker.frames =
        x.broker.frames ++ [a.frameOf settings lease (Outgoing.resolve options destination) context] ∧
      a.Conveys settings lease (Outgoing.resolve options destination) context receipt := by
  intro x y asked returned
  have forwarding : x.Forwarding := (Forwarding.start memory process).run moves onMemory
  have composed : x.Composed := composed_run memory process moves
  rcases (x.perform_change (.step number cancelled)).published returned with
    early | ⟨flag, there, message, before, a, same, doing, here, turn, shared⟩
  · rw [asked] at early
    cases early
  · cases same
    obtain ⟨call, found, known⟩ := part?_iff.1 doing
    rw [asked] at found
    cases found
    cases known
    obtain ⟨settings, wired⟩ := forwarding.connected place a here
    obtain ⟨span, lease, envelope, execution⟩ := Publishing.step_ends turn
    -- the envelope was made by the adapter as it is now
    have prepared :
        envelope = (Publishing.prepare a (context.envelope (Outgoing.resolve options destination))).1 := by
      rcases composed number _ place _ asked rfl with fresh | ⟨b, found, original, content, prepared⟩
      · cases fresh
      · rw [here] at found
        cases found
        cases content
        exact prepared
    have close (handle : MemoryHandle) (outside : MemoryBroker) :
        (a.transport.close handle outside).traffic = outside.traffic := by
      rw [wired]
      exact MemoryBroker.close_traffic handle outside
    have traffic := Publishing.sending_achieves (wired.sends_achieve lease envelope) close x.registry.shared _ x.now
      cancelled span execution turn
    rw [← shared] at traffic
    refine ⟨a, settings, lease, here, wired, ⟨_, doing, rfl⟩, ?_, wired.conveys lease _ context prepared⟩
    rw [Adapter.frameOf, ← prepared]
    exact congrArg Prod.fst traffic

def logPublish (context : MessageContext) : List (MemoryMove Unit) :=
  [.register MemoryBroker.connector "audit" (.log .standard),
    .publish 0 (.context ⟨.empty, .forward, none⟩ (.topic "placed") (.ok context))] ++
    List.replicate 11 (.step 0 false)

def ownName : MessageContext :=
  ((MessageContext.new (.integer 1)).withHeader "tenant" "acme").withCorrelationId "c-1"

theorem own_name_arrives :
    ∃ frame, (((start MemoryBroker.new "shop").run (logPublish ownName)).perform (.step 0 false)).broker.frames =
      [frame] ∧ frame.Intact .log ownName := by
  have onMemory : ∀ move ∈ logPublish ownName, move.onMemory := by simp [logPublish, Move.onMemory]
  obtain ⟨progress, asked⟩ : ∃ progress, ((start MemoryBroker.new "shop").run (logPublish ownName)).errands[0]? =
    some (.running (.publishing 0 (.context ⟨.empty, .forward, none⟩ (.topic "placed") (.ok ownName)) progress)) :=
      ⟨_, rfl⟩
  have returned : (((start MemoryBroker.new "shop").run (logPublish ownName)).perform (.step 0 false)).errands[0]? =
    some (.ended (.published (.ok ⟨.log, .topic "placed", 1, true⟩))) := rfl
  obtain ⟨a, settings, lease, here, -, -, frames, conveys⟩ := context_headers_arrive MemoryBroker.new "shop"
    (logPublish ownName) onMemory 0 0 false _ _ ownName progress _ asked returned
  have wired : ((start MemoryBroker.new "shop").run (logPublish ownName)).registry.adapters[0]?.map
    (fun a => (a.options.headerPolicy, a.backend)) = some (.forward, .log) := rfl
  rw [here] at wired
  obtain ⟨policy, kind⟩ := Prod.mk.inj (Option.some.inj wired)
  have apart : ownName.Apart := by
    intro key id value set held
    obtain rfl : key = "tenant" := by
      by_contra other
      simp [ownName, MessageContext.withCorrelationId, MessageContext.withHeader, MessageContext.new, insertSorted,
        beq_false_of_ne other] at held
    cases set
  have none : ((start MemoryBroker.new "shop").run (logPublish ownName)).broker.frames = [] := rfl
  rw [none] at frames
  have intact := (conveys.intact ⟨policy, .inr kind⟩).2 fun _ => apart
  rw [show a.backend = .log from kind] at intact
  exact ⟨_, frames, intact⟩

def reservedName : MessageContext :=
  ((MessageContext.new (.integer 1)).withHeader LogRecord.correlationHeader "app").withCorrelationId "c-1"

theorem reserved_name_lost :
    let y := ((start MemoryBroker.new "shop").run (logPublish reservedName)).perform (.step 0 false)
    y.errands[0]? = some (.ended (.published (.ok ⟨.log, .topic "placed", 1, true⟩))) ∧
      (∃ a, y.registry.adapters[0]? = some a ∧ a.Forwards) ∧
      ∃ frame, y.broker.frames = [frame] ∧ ¬frame.Intact .log reservedName := by
  refine ⟨rfl, ⟨_, rfl, rfl, .inr rfl⟩, _, rfl, ?_⟩
  intro intact
  have kept := intact.headers LogRecord.correlationHeader "app" (by decide)
  revert kept
  decide

end Exchange

end Dispatch
