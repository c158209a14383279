import Dispatch.Proofs.Delivery.Receipts
import Dispatch.Proofs.Json.RoundTrip

set_option autoImplicit false

namespace Dispatch

/-! ## Operations that end well -/

section Achieving

variable {ε ρ σ κ φ β : Type} {view : ε → β} {change : β → β}

def Operation.Achieves (op : Operation ε κ (Except φ Unit)) (view : ε → β) (change : β → β) : Prop :=
  ∀ now environment call, (op.step now environment call).1 = .finished (.ok ()) →
    view (op.step now environment call).2 = change (view environment)

theorem Operation.Achieves.sendVia {c : Connector ε ρ σ κ} {settings : BackendSettings} {handle : ρ} {e : Envelope}
    (sends : (c.send handle (Transport.wireOf settings e)).Achieves view change) :
    (Transport.sendVia c settings handle e).Achieves (view ·.outside) change := by
  intro now s call ended
  cases call with
  | fresh | opening | confirming | listening | plain => cases ended
  | sending deadline call =>
      have sent : ((c.send handle (Transport.wireOf settings e)).stepPart now s call).1 = .finished (.ok ()) →
          view ((c.send handle (Transport.wireOf settings e)).stepPart now s call).2.outside =
            change (view s.outside) := sends now s.outside call
      rw [Transport.sendVia_sending] at ended ⊢
      generalize (c.send handle (Transport.wireOf settings e)).stepPart now s call = outcome at sent ended ⊢
      obtain ⟨turn, next⟩ := outcome
      cases turn with
      | finished result =>
          cases ended
          exact sent rfl
      | moved | overflowed => cases ended
      | blocked wake =>
          dsimp only at ended
          split at ended <;> cases ended

theorem Operation.Achieves.sendOperation {a : Adapter ε ρ σ κ} {lease : Lease ρ} {e : Envelope}
    {view : Surroundings ε → β} (sends : (a.transport.send lease.resource e).Achieves view change) :
    (Publishing.sendOperation a lease e).Achieves view change := by
  intro now s call ended
  refine sends now s call ?_
  simp only [Publishing.sendOperation] at ended
  generalize ((a.transport.send lease.resource e).step now s call).1 = turn at ended
  cases turn with
  | finished result =>
      cases result with
      | ok => rfl
      | error => cases ended
  | moved | blocked | overflowed => cases ended

theorem Operation.Achieves.execution {op : Operation ε κ (Except Failure Unit)} (achieves : op.Achieves view change)
    (p : Pipeline) (now : Instant) (cancelled : Bool) (breaker : Breaker) (environment : ε) (execution : Execution κ)
    (ended : (execution.step p op now cancelled breaker environment).turn = .finished (.ok ())) :
    view (execution.step p op now cancelled breaker environment).environment = change (view environment) := by
  cases execution with
  | ready | resting => exact absurd ended ((Execution.step_between p op now breaker environment (by simp)).2 ())
  | trying attempt permit call =>
      by_cases cut : cancelled ∧ p.kind.abortsInFlight
      · exact absurd ended ((Execution.step_cut p op now breaker environment attempt permit call cut).2 ())
      · obtain ⟨environment', turn⟩ := Execution.step_trying p op now breaker environment attempt permit call cut
        rw [environment']
        exact achieves now environment call ((turn ()).1 ended)

theorem Publishing.sending_achieves {a : Adapter ε ρ σ κ} {lease : Lease ρ} {envelope : Envelope}
    (sends : (sendOperation a lease envelope).Achieves (view ·.outside) change)
    (close : ∀ handle outside, view (a.transport.close handle outside) = view outside) (s : Shared ε)
    (message : Outgoing) (now : Instant) (cancelled : Bool) (span : Nat) (execution : Execution (TransportCall ρ κ))
    {receipt : Receipt}
    (ended : (step a s message now cancelled (.sending span lease envelope execution)).turn =
      .finished (.ok receipt)) :
    (step a s message now cancelled (.sending span lease envelope execution)).shared.reading view =
      change (s.reading view) := by
  have achieved := sends.execution a.publish now cancelled a.publishBreaker s.surroundings execution
  simp only [step] at ended ⊢
  generalize execution.step a.publish (sendOperation a lease envelope) now cancelled a.publishBreaker
    s.surroundings = next at achieved ended ⊢
  obtain ⟨turn, breaker, surroundings, events⟩ := next
  cases turn with
  | finished result =>
      cases result with
      | ok =>
          refine (Transport.Spares.conclude _ message.destination span _ view).trans ?_
          exact (Adapter.absorb_reading (a := { a with publishBreaker := breaker }) close _ _).trans (achieved rfl)
      | error failure =>
          rw [conclusion_turn] at ended
          cases ended
  | moved | blocked | overflowed => cases ended

end Achieving

/-! ## What a broker hands on -/

def Subscriber.offered (s : Subscriber) (frame : Frame) : Subscriber :=
  if s.takes frame then { s with queue := s.queue ++ [frame.delivery s.filter] } else s

namespace MemoryBroker

def traffic (b : MemoryBroker) : List Frame × List Subscriber := (b.frames, b.subscribers)

theorem close_traffic (handle : MemoryHandle) (b : MemoryBroker) : (b.close handle).traffic = b.traffic := by
  unfold close
  split <;> rfl

theorem accept_traffic (b : MemoryBroker) (frame : Frame) :
    (b.accept frame).traffic = (b.frames ++ [frame], b.subscribers.map (·.offered frame)) := rfl

theorem stall_unfinished (handle : MemoryHandle) (wire : Wire) (now : Instant) (b : MemoryBroker)
    (deadline wake : Option Instant) : (stall handle wire now b deadline wake).1 ≠ .finished (.ok ()) := by
  unfold stall
  split <;> simp

theorem send_achieves (handle : MemoryHandle) (wire : Wire) :
    let frame := Frame.ofWire handle.backend handle.number wire
    (send handle wire).Achieves traffic fun seen => (seen.1 ++ [frame], seen.2.map (·.offered frame)) := by
  intro frame now b call ended
  have begun : ((send handle wire).step now b .fresh).1 ≠ .finished (.ok ()) := by
    simp only [send]
    split <;> simp
  cases call with
  | fresh | connecting => exact absurd ended begun
  | hanging deadline => exact absurd ended (stall_unfinished handle wire now b deadline none)
  | sending deadline until_ =>
      simp only [send] at ended ⊢
      split at ended
      · exact absurd ended (stall_unfinished handle wire now b deadline (some until_))
      · rename_i due
        rw [if_neg due]
        split at ended
        · cases ended
        · rename_i runs
          rw [if_neg runs]
          simp only [arrive] at ended ⊢
          split at ended
          · cases ended
          · rename_i delivers
            rw [if_neg delivers]
            split at ended
            · cases ended
            · rename_i accepts
              rw [if_neg accepts]
              exact accept_traffic b frame

end MemoryBroker

abbrev Shared.traffic (s : Shared MemoryBroker) : List Frame × List Subscriber := s.reading MemoryBroker.traffic

theorem Adapter.OnMemory.sends_achieve {a : MemoryAdapter} {settings : BackendSettings} (wired : a.OnMemory settings)
    (lease : Lease MemoryHandle) (e : Envelope) :
    (Publishing.sendOperation a lease e).Achieves (·.outside.traffic) fun seen =>
      (seen.1 ++ [.ofSend settings lease e], seen.2.map (·.offered (.ofSend settings lease e))) := by
  refine Operation.Achieves.sendOperation ?_
  rw [wired]
  exact Operation.Achieves.sendVia (MemoryBroker.send_achieves lease.resource _)

theorem Part.Deed.handed {η : Type} {a next : MemoryAdapter} {settings : BackendSettings} {s later : Shared MemoryBroker}
    {now : Instant} {prompt : Prompt} {message : Outgoing} {progress : Publishing MemoryHandle MemoryCall}
    {receipt : Receipt} (wired : a.OnMemory settings)
    (deed : (Part.publishing message progress : MemoryPart η).Deed now a s prompt
      (.settled (.published (.ok receipt))) next later) :
    ∃ span lease envelope execution, progress = .sending span lease envelope execution ∧
      later.traffic = (s.traffic.1 ++ [.ofSend settings lease envelope],
        s.traffic.2.map (·.offered (.ofSend settings lease envelope))) := by
  cases deed with
  | @finished cancelled reply turn =>
      obtain ⟨result, ended, same⟩ := Turn.of_lift_finished turn
      cases same
      have entry := progress.step_books a s message now cancelled
      rw [ended] at entry
      generalize (progress.step a s message now cancelled).shared.books = books at entry
      cases entry with
      | finished known sent =>
          obtain ⟨span, lease, envelope, execution, rfl, -⟩ := sent receipt rfl
          have close (handle : MemoryHandle) (outside : MemoryBroker) :
              (a.transport.close handle outside).traffic = outside.traffic := by
            rw [wired]
            exact MemoryBroker.close_traffic handle outside
          exact ⟨span, lease, envelope, execution, rfl, Publishing.sending_achieves (wired.sends_achieve lease envelope)
            close s message now cancelled span execution ended⟩

/-! ## What a delivery bears -/

/-- A delivery out of which the reader makes a value again if it goes deep enough. A consumer with a handler of
decoded values calls it with this value, and otherwise rejects the delivery in its next step, whatever the
handler is. -/
structure Delivery.Bears (d : Delivery) (v : Json) : Prop where
  decoded : d.json .any = if v.depth ≤ Json.maxDepth then .ok v else .error .malformed
  handled : v.depth ≤ Json.maxDepth → ∀ {ε η : Type} (describe : Json.Fault → String) (idle : η)
    (f : Json → Metadata → Operation ε η (Except String Unit)),
    Handler.json Json.Shape.any.ofBytes describe idle f d = f v d.metadata
  rejected : Json.maxDepth < v.depth → ∀ {ε ρ σ κ η : Type} (describe : Json.Fault → String) (idle call : η)
    (f : Json → Metadata → Operation ε η (Except String Unit)) (a : Adapter ε ρ σ κ) (s : Shared ε) (source : String)
    (now : Instant) (cancelled : Bool) (subscription : σ) (summary : ConsumeSummary),
    Consuming.step a s source (Handler.json Json.Shape.any.ofBytes describe idle f) now cancelled
        (.handling subscription summary d call) =
      { turn := .moved (.settling subscription { summary with rejected := summary.rejected + 1 } false
          (a.transport.nack subscription).start)
        adapter := a
        shared := s.report
          [Consuming.event a source .warn "handler rejected message" [("error", describe .malformed)]] }

theorem Json.Exact.bears {v : Json} (exact : v.Exact) {d : Delivery} (payload : d.payload = Bytes.ofString v.text) :
    d.Bears v := by
  have decoded : Json.Shape.any.ofBytes d.payload = if v.depth ≤ Json.maxDepth then .ok v else .error .malformed := by
    rw [payload, exact.ofBytes_text]
  refine ⟨decoded, ?_, ?_⟩
  · intro fits ε η describe idle f
    rw [if_pos fits] at decoded
    rw [Handler.json, decoded]
  · intro deep ε ρ σ κ η describe idle call f a s source now cancelled subscription summary
    rw [if_neg (by omega)] at decoded
    simp only [Consuming.step, Handler.json, decoded, Operation.immediate, Consuming.settlement]
    rfl

/-! ## In a run -/

structure Frame.Conveys (frame : Frame) (backend : Backend) (destination : Destination) (v : Json) : Prop where
  topic : frame.topic = (backend.address destination).1
  key : frame.key = (backend.address destination).2
  payload : frame.payload = Bytes.ofString v.text

theorem Frame.Conveys.ofSend {settings : BackendSettings} {lease : Lease MemoryHandle} {e : Envelope} {v : Json}
    (payload : e.payload = Bytes.ofString v.text) :
    (Frame.ofSend settings lease e).Conveys settings.backend e.destination v := by
  have sent := Frame.ofSend_parcel settings lease e
  exact ⟨congrArg Parcel.topic sent, congrArg Parcel.key sent, (congrArg Parcel.payload sent).trans payload⟩

namespace Request

def value? : Request → Option Json
  | .message _ value => value.toOption
  | .context _ given => given.toOption.map (·.payload)
  | .envelope _ => none
  | .withMetadata value _ => some value

theorem payload_value {request : Request} {v : Json} (value : request.value? = some v) :
    request.payload = .ok (Bytes.ofString v.text) := by
  cases request with
  | envelope given => cases value
  | withMetadata given metadata =>
      cases value
      rfl
  | message destination given =>
      cases given with
      | error reason => cases value
      | ok given =>
          cases value
          rfl
  | context destination given =>
      cases given with
      | error reason => cases value
      | ok given =>
          cases value
          rfl

end Request

namespace Exchange

variable {η : Type} {x y : MemoryExchange η} {move : MemoryMove η}

def Move.onMemory : MemoryMove η → Prop
  | .register connector _ _ => connector = MemoryBroker.connector
  | _ => True

abbrev Connected (r : Registry MemoryBroker MemoryHandle Nat MemoryCall) : Prop :=
  ∀ (place : Nat) (a : MemoryAdapter), r.adapters[place]? = some a → ∃ settings, a.OnMemory settings

theorem Connected.tend {r next : Registry MemoryBroker MemoryHandle Nat MemoryCall} (connected : Connected r)
    (tended : r.Tended move next) (onMemory : move.onMemory) : Connected next := by
  intro place b found
  cases tended with
  | enlisted | reported | disturbed => exact connected place b found
  | @added connector name settings bucket names asked =>
      rcases getElem?_concat_cases found with found | ⟨-, rfl⟩
      · exact connected place b found
      · subst asked
        exact ⟨settings, congrArg (Transport.ofSettings · settings) onMemory⟩
  | changed here tended =>
      rcases getElem?_set_cases found with ⟨rfl, rfl⟩ | ⟨-, found⟩
      · obtain ⟨settings, wired⟩ := connected _ _ here
        cases tended with
        | closeIdle | shutdown | reset => exact ⟨settings, wired⟩
      · exact connected place b found

structure Forwarding (x : MemoryExchange η) : Prop where
  connected : Connected x.registry
  prepared : x.EachPart fun _ part => part.Prepared

theorem Forwarding.start (broker : MemoryBroker) (process : String) :
    (Exchange.start broker process : MemoryExchange η).Forwarding where
  connected place a found := by cases found
  prepared number call place part found := by cases found

theorem Forwarding.perform (forwarding : x.Forwarding) (onMemory : move.onMemory) : (x.perform move).Forwarding := by
  have change := x.perform_change move
  refine ⟨?_, change.prepared forwarding.prepared⟩
  generalize x.perform move = y at change
  cases change with
  | tended _ _ tended =>
      generalize y.registry = registry at tended
      induction tended with
      | refl => exact forwarding.connected
      | tail _ last ih => exact ih.tend last onMemory
  | began _ _ _ registry | passed _ _ registry | left _ _ _ _ registry =>
      rw [registry]
      exact forwarding.connected
  | acted _ _ _ here deed _ registry =>
      rw [registry]
      intro place b found
      rcases getElem?_set_cases found with ⟨-, rfl⟩ | ⟨-, found⟩
      · obtain ⟨settings, wired⟩ := forwarding.connected _ _ here
        exact ⟨settings, deed.wiring.2.trans wired⟩
      · exact forwarding.connected place b found

theorem Forwarding.run (forwarding : x.Forwarding) (moves : List (MemoryMove η))
    (onMemory : ∀ move ∈ moves, move.onMemory) : (x.run moves).Forwarding :=
  run_within moves (fun _ move member forwarding => forwarding.perform (onMemory move member)) forwarding

abbrev broker (x : MemoryExchange η) : MemoryBroker := x.registry.shared.surroundings.outside

/-- In whatever way a run came to it, a step in which a publish call returns a receipt puts one frame with the
text of the value into the broker, and with it one delivery into the queue of every subscriber that takes it. -/
theorem publish_arrives (memory : MemoryBroker) (process : String) (moves : List (MemoryMove η))
    (onMemory : ∀ move ∈ moves, move.onMemory) (number place : Nat) (cancelled : Bool) (options : PublisherOptions)
    (request : Request) (progress : Publishing MemoryHandle MemoryCall) (receipt : Receipt) {v : Json}
    (exact : v.Exact) (value : request.value? = some v) :
    let x := (start memory process : MemoryExchange η).run moves
    let y := x.perform (.step number cancelled)
    x.errands[number]? = some (.running (.publishing place (request.outgoing options) progress)) →
    y.errands[number]? = some (.ended (.published (.ok receipt))) →
    ∃ a frame, x.registry.adapters[place]? = some a ∧
      frame.Conveys a.backend (Outgoing.resolve options request.destination) v ∧
      y.broker.frames = x.broker.frames ++ [frame] ∧
      y.broker.subscribers = x.broker.subscribers.map (·.offered frame) ∧
      ∀ s ∈ x.broker.subscribers, s.takes frame → (frame.delivery s.filter).Bears v := by
  intro x y asked returned
  have forwarding : x.Forwarding := (Forwarding.start memory process).run moves onMemory
  have change := x.perform_change (.step number cancelled)
  change x.Change _ y at change
  generalize y = y at change returned ⊢
  -- only a call that acts at its adapter returns a receipt
  cases change with
  | tended unprompted | began unprompted => cases unprompted
  | passed prompted idle =>
      cases prompted
      exact absurd asked (idle _)
  | left prompted found vacant leaves registry errands =>
      cases prompted
      rw [asked] at found
      cases found
      rw [errands, List.getElem?_set_self (List.getElem?_eq_some_iff.1 asked).1] at returned
      cases returned
      cases leaves
  | @acted _ prompt call errand there part a next later fate prompted found known here deed succeeds registry errands =>
      cases prompted
      rw [asked] at found
      cases found
      cases known
      rw [errands, List.getElem?_set_self (List.getElem?_eq_some_iff.1 asked).1] at returned
      cases returned
      cases succeeds
      obtain ⟨settings, wired⟩ := forwarding.connected place a here
      obtain ⟨span, lease, envelope, execution, rfl, traffic⟩ := deed.handed wired
      obtain ⟨original, content, destination, payload⟩ :=
        forwarding.prepared number _ place _ asked rfl
      obtain ⟨resolved, sent⟩ := Request.content_outgoing content
      rw [Request.payload_value value] at sent
      have conveys : (Frame.ofSend settings lease envelope).Conveys a.backend
          (Outgoing.resolve options request.destination) v := by
        rw [← resolved, ← destination, ← wired.backend]
        exact .ofSend (payload.trans (Except.ok.inj sent).symm)
      have shared : y.broker.traffic = later.traffic := by rw [Exchange.broker, registry]
      rw [traffic] at shared
      exact ⟨a, _, here, conveys, congrArg Prod.fst shared, congrArg Prod.snd shared,
        fun s _ _ => exact.bears conveys.payload⟩

def oneRequest : Request := .message (.topic "placed") (.ok (.array [.integer 1]))

def onePublish : List (MemoryMove Unit) :=
  [.register MemoryBroker.connector "orders" (.amqp .standard), .disturb fun b => (b.admitSubscriber "").2,
    .publish 0 (oneRequest.outgoing ⟨.empty, .forward, none⟩)] ++ List.replicate 11 (.step 0 false)

theorem publish_arrives_queued :
    ∃ d : Delivery, (((start MemoryBroker.new "shop").run onePublish).perform (.step 0 false)).broker.subscribers.map
      (·.queue) = [[d]] ∧ d.Bears (.array [.integer 1]) := by
  have onMemory : ∀ move ∈ onePublish, move.onMemory := by simp [onePublish, Move.onMemory]
  have exact : (Json.array [.integer 1]).Exact := .array fun element member => by
    obtain rfl := List.mem_singleton.1 member
    exact .integer (by decide) (by decide)
  obtain ⟨progress, asked⟩ : ∃ progress, ((start MemoryBroker.new "shop").run onePublish).errands[0]? =
    some (.running (.publishing 0 (oneRequest.outgoing ⟨.empty, .forward, none⟩) progress)) := ⟨_, rfl⟩
  have returned : (((start MemoryBroker.new "shop").run onePublish).perform (.step 0 false)).errands[0]? =
    some (.ended (.published (.ok ⟨.amqp, .topic "placed", 3, false⟩))) := rfl
  have before : ((start MemoryBroker.new "shop").run onePublish).broker.subscribers = [⟨0, "", [], true⟩] := rfl
  obtain ⟨a, frame, -, -, -, subscribers, bears⟩ :=
    publish_arrives MemoryBroker.new "shop" onePublish onMemory 0 0 false _ _ progress _ exact rfl asked returned
  have taken : (⟨0, "", [], true⟩ : Subscriber).takes frame := rfl
  rw [before] at subscribers bears
  refine ⟨frame.delivery "", ?_, bears _ (List.mem_singleton_self _) taken⟩
  rw [subscribers, List.map_singleton, Subscriber.offered, if_pos taken]
  rfl

end Exchange

end Dispatch
