import Dispatch.MemoryBroker
import Dispatch.Proofs.Readings

/-!
# Sends in the air

What a memory broker knows of sends is its `Air`: the frames it took, the handles on which a send is under
way, and how often two were under way on one handle. Only a send changes it. A send takes off when it begins
to wait; it lands when it ends or is given up, and it leaves a frame exactly when it ends well
(`Sends`). The same is true of a send under a pipeline, and so of a publish call.
-/

set_option autoImplicit false

namespace Dispatch

structure Air where
  frames : List Frame
  busy : List Nat
  violations : Nat

namespace Air

def takeOff (air : Air) (number : Nat) : Air :=
  { air with
    busy := number :: air.busy
    violations := if air.busy.contains number then air.violations + 1 else air.violations }

def land (air : Air) (number : Nat) (flying : Bool) : Air :=
  { air with busy := if flying then air.busy.erase number else air.busy }

def ground (air : Air) : Option Nat → Air
  | none => air
  | some number => air.land number true

def deliver (air : Air) (frame : Frame) : Air := { air with frames := air.frames ++ [frame] }

theorem ground_twice {air : Air} (once : air.busy.Nodup) (number : Option Nat) :
    (air.ground number).ground number = air.ground number := by
  cases number with
  | none => rfl
  | some number =>
      have gone : number ∉ air.busy.erase number := once.not_mem_erase
      simp only [ground, land, if_true, List.erase_of_not_mem gone]

end Air

namespace MemoryBroker

def air (b : MemoryBroker) : Air := ⟨b.frames, b.busy, b.violations⟩

/-- What of a broker neither faults nor subscribers change. -/
def desk (b : MemoryBroker) : Air × Nat := (b.air, b.connects)

def register (b : MemoryBroker) : Nat × List Nat := (b.connects, b.closedHandles)

def office (b : MemoryBroker) : (Air × Nat) × List Nat := (b.desk, b.closedHandles)

theorem close_desk (handle : MemoryHandle) (b : MemoryBroker) : (b.close handle).desk = b.desk := by
  unfold close
  split <;> rfl

theorem attempt_office {α : Type} {admitted : MemoryBroker → α × MemoryBroker}
    (kept : ∀ b, (admitted b).2.office = b.office) : (attempt admitted).Keeps office where
  step now b call := by
    unfold attempt
    cases call with
    | connecting until_ =>
        dsimp only
        split
        · rfl
        · split
          · rfl
          · exact kept b
    | fresh | sending | hanging => rfl
  abandon b call := rfl

theorem receive_office (number : Nat) : (receive number).Keeps office where
  step now b call := by
    unfold receive
    dsimp only
    split
    · rfl
    · split
      · rfl
      · split <;> rfl
  abandon b call := rfl

theorem immediate_office {α : Type} {run : MemoryBroker → α × MemoryBroker} (kept : ∀ b, (run b).2.office = b.office) :
    (Operation.immediate MemoryCall.fresh run).Keeps office :=
  ⟨fun _ b _ => kept b, fun _ _ => rfl⟩

theorem admitSubscriber_office (filter : String) (b : MemoryBroker) :
    (admitSubscriber filter b).2.office = b.office := rfl

theorem openHandle_air (request : Opening) : (connector.openHandle request).Keeps air where
  step now b call := by
    have opened (call : MemoryCall) : ((attempt (admitHandle request)).step now b call).2.air = b.air := by
      unfold attempt
      cases call with
      | connecting until_ =>
          dsimp only
          split
          · rfl
          · split <;> rfl
      | fresh | sending | hanging => rfl
    exact opened call
  abandon b call := rfl

theorem confirmSelect_air (handle : MemoryHandle) : (connector.confirmSelect handle).Keeps air :=
  ⟨fun _ _ _ => rfl, fun _ _ => rfl⟩

theorem subscribeVia_office (settings : BackendSettings) (source : String) :
    (Transport.subscribeVia connector settings source).Keeps (office ·.outside) where
  step now s call := by
    cases call with
    | fresh => cases settings <;> rfl
    | listening request call => exact (attempt_office (admitSubscriber_office _)).step now s.outside call
    | opening | confirming | sending | plain => rfl
  abandon s call := by cases call <;> rfl

theorem next_office (settings : BackendSettings) (subscription : Nat) :
    ((Transport.ofSettings connector settings).next subscription).Keeps (office ·.outside) :=
  (receive_office subscription).whole

theorem ack_office (settings : BackendSettings) (subscription : Nat) :
    ((Transport.ofSettings connector settings).ack subscription).Keeps (office ·.outside) :=
  (immediate_office fun _ => rfl).whole

theorem nack_office (settings : BackendSettings) (subscription : Nat) :
    ((Transport.ofSettings connector settings).nack subscription).Keeps (office ·.outside) :=
  (immediate_office fun _ => rfl).whole

theorem spares_desk (settings : BackendSettings) : (Transport.ofSettings connector settings).Spares desk where
  close handle outside := close_desk handle outside
  subscribe source := (subscribeVia_office settings source).comp Prod.fst
  next subscription := (next_office settings subscription).comp Prod.fst
  ack subscription := (ack_office settings subscription).comp Prod.fst
  nack subscription := (nack_office settings subscription).comp Prod.fst
  leave _ _ := rfl

end MemoryBroker

/-! ## One send -/

inductive Turn.Grounds {κ φ : Type} (flies : κ → Bool) : Turn κ (Except φ Unit) → Prop
  | failed (failure : φ) : Grounds flies (.finished (.error failure))
  | moved {next : κ} (grounded : flies next = false) : Grounds flies (.moved next)
  | overflowed : Grounds flies .overflowed

/-- What a step of a send on a handle does to the air. -/
inductive Sends {κ φ : Type} (flies : κ → Bool) (number : Nat) (frame : Frame) (air : Air) (call : κ) :
    Turn κ (Except φ Unit) → Air → Prop
  | waited (wake : Option Instant) : Sends flies number frame air call (.blocked wake) air
  | moved {next : κ} (same : flies next = flies call) : Sends flies number frame air call (.moved next) air
  | tookOff {next : κ} (grounded : flies call = false) (flying : flies next = true) :
      Sends flies number frame air call (.moved next) (air.takeOff number)
  | landed {turn : Turn κ (Except φ Unit)} (grounds : turn.Grounds flies) :
      Sends flies number frame air call turn (air.land number (flies call))
  | delivered (flying : flies call = true) :
      Sends flies number frame air call (.finished (.ok ())) ((air.deliver frame).land number true)

namespace Sends

variable {κ φ : Type} {flies : κ → Bool} {number : Nat} {frame : Frame} {air next : Air} {call : κ}
  {turn : Turn κ (Except φ Unit)}

theorem down (flying : flies call = true) (grounds : turn.Grounds flies) :
    Sends flies number frame air call turn (air.land number true) := flying ▸ .landed grounds

theorem still (grounded : flies call = false) (grounds : turn.Grounds flies) :
    Sends flies number frame air call turn air := by
  have landed : Sends flies number frame air call turn (air.land number (flies call)) := .landed grounds
  rwa [grounded] at landed

theorem lift {μ ψ : Type} (sends : Sends flies number frame air call turn next) {flies' : μ → Bool}
    {wrap : κ → μ} {finish : Except φ Unit → Turn μ (Except ψ Unit)} (same : ∀ call, flies' (wrap call) = flies call)
    (ok : finish (.ok ()) = .finished (.ok ())) (error : ∀ failure, (finish (.error failure)).Grounds flies') :
    Sends flies' number frame air (wrap call) (turn.lift wrap finish) next := by
  cases sends with
  | waited wake => exact .waited wake
  | moved kept => exact .moved (by rw [same, same, kept])
  | tookOff grounded flying => exact .tookOff (by rw [same, grounded]) (by rw [same, flying])
  | landed grounds =>
      rw [← same call]
      refine .landed ?_
      cases grounds with
      | failed failure => exact error failure
      | moved grounded => exact .moved (by rw [same, grounded])
      | overflowed => exact .overflowed
  | delivered flying =>
      rw [Turn.lift, ok]
      exact .delivered (by rw [same, flying])

end Sends

structure Operation.Flies {ε κ φ : Type} (op : Operation ε κ (Except φ Unit)) (air : ε → Air) (flies : κ → Bool)
    (number : Nat) (frame : Frame) : Prop where
  start : flies op.start = false
  step : ∀ now environment call, Sends flies number frame (air environment) call
    (op.step now environment call).1 (air (op.step now environment call).2)
  abandon : ∀ environment call,
    air (op.abandon environment call) = (air environment).land number (flies call)

def MemoryCall.flies : MemoryCall → Bool
  | .sending _ _ | .hanging _ => true
  | .fresh | .connecting _ => false

namespace MemoryBroker

theorem stall_sends (handle : MemoryHandle) (wire : Wire) (now : Instant) (b : MemoryBroker)
    (deadline wake : Option Instant) (frame : Frame) {call : MemoryCall} (flying : call.flies = true) :
    Sends MemoryCall.flies handle.number frame b.air call (stall handle wire now b deadline wake).1
      (stall handle wire now b deadline wake).2.air := by
  unfold stall
  split
  · exact .down flying (.failed _)
  · exact .waited _

theorem send_register (handle : MemoryHandle) (wire : Wire) : (send handle wire).Keeps register where
  step now b call := by
    have stalled (deadline wake : Option Instant) :
        (stall handle wire now b deadline wake).2.register = b.register := by
      unfold stall
      split <;> rfl
    have begun : ((send handle wire).step now b .fresh).2.register = b.register := by
      simp only [send]
      split <;> rfl
    cases call with
    | fresh | connecting => exact begun
    | hanging deadline => exact stalled deadline none
    | sending deadline until_ =>
        simp only [send]
        split
        · exact stalled deadline (some until_)
        · split
          · rfl
          · simp only [arrive]
            split
            · rfl
            · split <;> rfl
  abandon b call := by cases call <;> rfl

theorem send_connects (handle : MemoryHandle) (wire : Wire) : (send handle wire).Keeps connects :=
  (send_register handle wire).comp Prod.fst

theorem send_flies (handle : MemoryHandle) (wire : Wire) :
    (send handle wire).Flies air MemoryCall.flies handle.number
      (Frame.ofWire handle.backend handle.number wire) where
  start := rfl
  step now b call := by
    have begun (call : MemoryCall) (grounded : call.flies = false) : Sends MemoryCall.flies handle.number
        (Frame.ofWire handle.backend handle.number wire) b.air call ((send handle wire).step now b .fresh).1
        ((send handle wire).step now b .fresh).2.air := by
      simp only [send]
      split
      · exact .tookOff grounded rfl
      · exact .still grounded (.failed _)
    cases call with
    | fresh => exact begun _ rfl
    | connecting until_ => exact begun _ rfl
    | hanging deadline => exact stall_sends handle wire now b deadline none _ rfl
    | sending deadline until_ =>
        simp only [send]
        split
        · exact stall_sends handle wire now b deadline (some until_) _ rfl
        · split
          · exact .moved rfl
          · simp only [arrive]
            split
            · exact .down rfl (.failed _)
            · split
              · exact .down rfl (.failed _)
              · exact .delivered rfl
  abandon b call := by cases call <;> rfl

end MemoryBroker

section Composition

variable {ε ρ σ κ : Type} {air : ε → Air} {aloft : κ → Bool} {number : Nat} {frame : Frame}

def TransportCall.flies (aloft : κ → Bool) : TransportCall ρ κ → Bool
  | .sending _ call => aloft call
  | _ => false

theorem Transport.sendVia_sending (c : Connector ε ρ σ κ) (settings : BackendSettings) (handle : ρ) (e : Envelope)
    (now : Instant) (s : Surroundings ε) (deadline : Option Instant) (call : κ) :
    (sendVia c settings handle e).step now s (.sending deadline call) =
      match (c.send handle (wireOf settings e)).stepPart now s call with
      | (.blocked wake, s) =>
        if deadline.any (· ≤ now) then
          (.finished (.error (.timeout ((confirmLimit settings).getD 0))),
            s.update fun outside => (c.send handle (wireOf settings e)).abandon outside call)
        else (.blocked (earlier wake deadline), s)
      | (turn, s) => (turn.lift (.sending deadline) .finished, s) := rfl

theorem Operation.Flies.sendVia {c : Connector ε ρ σ κ} {settings : BackendSettings} {handle : ρ} {e : Envelope}
    (sends : (c.send handle (Transport.wireOf settings e)).Flies air aloft number frame) :
    (Transport.sendVia c settings handle e).Flies (air ·.outside) (TransportCall.flies aloft) number frame where
  start := rfl
  step now s call := by
    cases call with
    | fresh => exact .moved sends.start
    | opening | confirming | listening | plain => exact .waited _
    | sending deadline call =>
        have sent : Sends aloft number frame (air s.outside) call
            ((c.send handle (Transport.wireOf settings e)).stepPart now s call).1
            (air ((c.send handle (Transport.wireOf settings e)).stepPart now s call).2.outside) :=
          sends.step now s.outside call
        have whole (call : κ) : TransportCall.flies (ρ := ρ) aloft (.sending deadline call) = aloft call := rfl
        rw [Transport.sendVia_sending]
        generalize (c.send handle (Transport.wireOf settings e)).stepPart now s call = outcome at sent ⊢
        obtain ⟨turn, next⟩ := outcome
        cases turn with
        | blocked wake =>
            have kept : air next.outside = air s.outside := by
              generalize air next.outside = later at sent
              cases sent with
              | waited => rfl
              | landed grounds => cases grounds
            dsimp only
            split
            · have landed : Sends (TransportCall.flies aloft) number frame (air s.outside)
                  (.sending deadline call : TransportCall ρ κ) _ _ :=
                .landed (.failed (TransportError.timeout ((Transport.confirmLimit settings).getD 0)))
              rw [whole, ← kept, ← sends.abandon, kept] at landed
              exact landed
            · rw [← kept]
              exact .waited _
        | finished | moved | overflowed =>
            exact sent.lift whole rfl .failed
  abandon s call := by
    cases call with
    | sending deadline call => exact sends.abandon s.outside call
    | fresh | opening | confirming | listening | plain => rfl

theorem Operation.Flies.sendOperation {a : Adapter ε ρ σ κ} {lease : Lease ρ} {e : Envelope}
    {airOf : Surroundings ε → Air} {aloft : TransportCall ρ κ → Bool}
    (sends : (a.transport.send lease.resource e).Flies airOf aloft number frame) :
    (Publishing.sendOperation a lease e).Flies airOf aloft number frame where
  start := sends.start
  step now s call := by
    have whole (call : TransportCall ρ κ) : aloft (id call) = aloft call := rfl
    exact (sends.step now s call).lift whole rfl fun failure => .failed failure.failure
  abandon := sends.abandon

def Execution.flies (aloft : κ → Bool) : Execution κ → Bool
  | .trying _ _ call => aloft call
  | .ready _ | .resting _ _ => false

theorem Execution.conclude_grounds (p : Pipeline) (now : Instant) (attempt : Nat) (failure : Failure)
    (aloft : κ → Bool) :
    (conclude (α := Unit) p now attempt (.error failure)).1.Grounds (Execution.flies aloft) := by
  have concludes := conclude_concludes (κ := κ) (α := Unit) p now attempt (.error failure)
  generalize (conclude (κ := κ) p now attempt (.error failure : Except Failure Unit)).1 = turn at concludes
  cases concludes with
  | fatal | exhausted => exact .failed _
  | again => exact .moved rfl
  | endless => exact .overflowed

theorem Operation.Flies.execution {op : Operation ε κ (Except Failure Unit)}
    (sends : op.Flies air aloft number frame) (p : Pipeline) (now : Instant) (cancelled : Bool)
    (breaker : Breaker) (environment : ε) (execution : Execution κ) :
    let next := execution.step p op now cancelled breaker environment
    Sends (Execution.flies aloft) number frame (air environment) execution next.turn (air next.environment) := by
  cases execution with
  | ready made =>
      simp only [Execution.step]
      split
      · exact .still rfl (.failed _)
      · split
        · exact .moved sends.start
        · exact .still rfl (.failed _)
  | trying attempt permit call =>
      have whole (call : κ) : (Execution.trying attempt permit call).flies aloft = aloft call := rfl
      simp only [Execution.step]
      split
      · rw [Execution.settled, sends.abandon]
        exact .landed (Execution.conclude_grounds p now attempt .cancelled aloft)
      · have sent := sends.step now environment call
        generalize op.step now environment call = outcome at sent ⊢
        obtain ⟨turn, after⟩ := outcome
        have lifted : Sends (Execution.flies aloft) number frame (air environment) (.trying attempt permit call)
            (turn.lift (.trying attempt permit) fun result => (Execution.conclude p now attempt result).1)
            (air after) :=
          sent.lift whole rfl fun failure => Execution.conclude_grounds p now attempt failure aloft
        cases turn with
        | finished | moved | blocked | overflowed => exact lifted
  | resting attempt resumeAt =>
      simp only [Execution.step, RetryPolicy.rest]
      split
      · exact .still rfl (.failed _)
      · split
        · exact .moved rfl
        · exact .waited _

theorem Operation.Flies.execution_abandon {op : Operation ε κ (Except Failure Unit)}
    (sends : op.Flies air aloft number frame) (breaker : Breaker) (environment : ε) (execution : Execution κ) :
    air (execution.abandon op breaker environment).2 =
      (air environment).land number (execution.flies aloft) := by
  cases execution with
  | trying attempt permit call => exact sends.abandon environment call
  | ready | resting => rfl

end Composition

end Dispatch
