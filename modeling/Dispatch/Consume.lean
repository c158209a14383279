import Dispatch.Adapter

/-!
# Consuming

A consumer opens a subscription through the connect pipeline, so that a broker that refuses connections
trips one breaker for both directions. Then it takes delivery after delivery: each goes to the handler
and is settled before the next is asked for, acknowledged if the handler accepted it and rejected
otherwise. Cancellation ends the loop between two deliveries; a failure of the transport ends it at
once.
-/

set_option autoImplicit false

namespace Dispatch

/-- What an application does with a delivery; an error text rejects it. -/
abbrev Handler (ε η : Type) := Delivery → Operation ε η (Except String Unit)

/-- A handler of decoded messages and their metadata. A payload that does not decode is rejected at once. -/
def Handler.json {ε η α : Type} (decode : Bytes → Except Json.Fault α) (describe : Json.Fault → String) (idle : η)
    (f : α → Metadata → Operation ε η (Except String Unit)) : Handler ε η := fun delivery =>
  match decode delivery.payload with
  | .ok message => f message delivery.metadata
  | .error fault => .immediate idle fun outside => (.error (describe fault), outside)

structure ConsumeSummary where
  received : Nat
  handled : Nat
  rejected : Nat
  deriving DecidableEq, Repr, Inhabited

namespace ConsumeSummary

def zero : ConsumeSummary := ⟨0, 0, 0⟩

end ConsumeSummary

inductive Consuming (ρ σ κ η : Type) where
  | opening (execution : Execution (TransportCall ρ κ))
  | receiving (subscription : σ) (summary : ConsumeSummary) (call : TransportCall ρ κ)
  | handling (subscription : σ) (summary : ConsumeSummary) (delivery : Delivery) (call : η)
  | settling (subscription : σ) (summary : ConsumeSummary) (accepted : Bool)
      (call : TransportCall ρ κ)

namespace Consuming

variable {ε ρ σ κ η : Type}

def start : Consuming ρ σ κ η := .opening (.ready 0)

structure Outcome (ε ρ σ κ η : Type) where
  turn : Turn (Consuming ρ σ κ η) (Except BrokerError ConsumeSummary)
  adapter : Adapter ε ρ σ κ
  shared : Shared ε

/-- The source a subscribe call reads; there is none where the settings name none. -/
def defaultSource (a : Adapter ε ρ σ κ) : Except BrokerError String :=
  if a.defaultSource.isEmpty then
    .error (.config s!"[{a.backend.name}] no source configured to subscribe to")
  else .ok a.defaultSource

def event (a : Adapter ε ρ σ κ) (source : String) (level : Level) (message : String)
    (fields : List (String × String)) : Event :=
  { level, message, fields := [("backend", a.backend.name), ("source", source)] ++ fields }

/-- Opening a subscription, as the connect pipeline sees it. -/
def subscribeOperation (a : Adapter ε ρ σ κ) (source : String) :
    Operation (Surroundings ε) (TransportCall ρ κ) (Except Failure σ) :=
  let op := a.transport.subscribe source
  { start := op.start
    step := fun now s call =>
      let (turn, s) := op.step now s call
      (turn.lift id fun result => .finished (result.mapError TransportError.failure), s)
    abandon := op.abandon }

/-- How a delivery that its handler is done with is settled. -/
def settlement (a : Adapter ε ρ σ κ) (subscription : σ) (accepted : Bool) :
    Operation (Surroundings ε) (TransportCall ρ κ) (Except TransportError Unit) :=
  if accepted then a.transport.ack subscription else a.transport.nack subscription

def receive (a : Adapter ε ρ σ κ) (s : Shared ε) (subscription : σ) (summary : ConsumeSummary) :
    Outcome ε ρ σ κ η :=
  { turn := .moved (.receiving subscription summary (a.transport.next subscription).start)
    adapter := a
    shared := s }

def finish (a : Adapter ε ρ σ κ) (s : Shared ε) (source : String) (subscription : σ)
    (summary : ConsumeSummary) (reason : String) : Outcome ε ρ σ κ η :=
  let events :=
    [event a source .debug reason [],
      event a source .info "subscription closed"
        [("received", toString summary.received), ("rejected", toString summary.rejected)]]
  { turn := .finished (.ok summary)
    adapter := a
    shared := (s.report events).update (a.transport.leave subscription) }

/-- A failure of the transport ends the loop and the subscription. -/
def fail (a : Adapter ε ρ σ κ) (s : Shared ε) (subscription : σ) (error : TransportError) :
    Outcome ε ρ σ κ η :=
  { turn := .finished (.error (.ofTransport a.backend error))
    adapter := a
    shared := s.update (a.transport.leave subscription) }

def step (a : Adapter ε ρ σ κ) (s : Shared ε) (source : String) (handler : Handler ε η)
    (now : Instant) (cancelled : Bool) : Consuming ρ σ κ η → Outcome ε ρ σ κ η
  | .opening execution =>
    let next :=
      execution.step a.pool.connect (subscribeOperation a source) now cancelled a.connectBreaker
        s.surroundings
    let a := { a with connectBreaker := next.breaker }
    let s := { s with surroundings := next.environment }.report next.events
    match next.turn with
    | .finished (.ok subscription) =>
      receive a (s.report [event a source .info "subscription opened" []]) subscription .zero
    | .finished (.error failure) =>
      { turn := .finished (.error (.ofAcquire a.backend failure)), adapter := a, shared := s }
    | .moved execution => { turn := .moved (.opening execution), adapter := a, shared := s }
    | .blocked wake => { turn := .blocked wake, adapter := a, shared := s }
    | .overflowed => { turn := .overflowed, adapter := a, shared := s }
  | .receiving subscription summary call =>
    let op := a.transport.next subscription
    if cancelled then
      let s := { s with surroundings := op.abandon s.surroundings call }
      finish a s source subscription summary "subscription cancelled"
    else
      let (turn, surroundings) := op.step now s.surroundings call
      let s := { s with surroundings }
      match turn with
      | .finished (.ok (some delivery)) =>
        let summary := { summary with received := summary.received + 1 }
        { turn := .moved (.handling subscription summary delivery (handler delivery).start)
          adapter := a
          shared := s }
      | .finished (.ok none) => finish a s source subscription summary "subscription ended"
      | .finished (.error error) => fail a s subscription error
      | .moved call =>
        { turn := .moved (.receiving subscription summary call), adapter := a, shared := s }
      | .blocked wake => { turn := .blocked wake, adapter := a, shared := s }
      | .overflowed => { turn := .overflowed, adapter := a, shared := s }
  | .handling subscription summary delivery call =>
    let (turn, outside) := (handler delivery).step now s.surroundings.outside call
    let s := s.update fun _ => outside
    match turn with
    | .finished (.ok ()) =>
      let summary := { summary with handled := summary.handled + 1 }
      { turn := .moved (.settling subscription summary true (settlement a subscription true).start)
        adapter := a
        shared := s }
    | .finished (.error reason) =>
      let summary := { summary with rejected := summary.rejected + 1 }
      { turn := .moved (.settling subscription summary false (settlement a subscription false).start)
        adapter := a
        shared := s.report [event a source .warn "handler rejected message" [("error", reason)]] }
    | .moved call =>
      { turn := .moved (.handling subscription summary delivery call), adapter := a, shared := s }
    | .blocked wake => { turn := .blocked wake, adapter := a, shared := s }
    | .overflowed => { turn := .overflowed, adapter := a, shared := s }
  | .settling subscription summary accepted call =>
    let (turn, surroundings) := (settlement a subscription accepted).step now s.surroundings call
    let s := { s with surroundings }
    match turn with
    | .finished (.ok ()) => receive a s subscription summary
    | .finished (.error error) => fail a s subscription error
    | .moved call =>
      { turn := .moved (.settling subscription summary accepted call), adapter := a, shared := s }
    | .blocked wake => { turn := .blocked wake, adapter := a, shared := s }
    | .overflowed => { turn := .overflowed, adapter := a, shared := s }

def abandon (a : Adapter ε ρ σ κ) (s : Shared ε) (source : String) (handler : Handler ε η) :
    Consuming ρ σ κ η → Adapter ε ρ σ κ × Shared ε
  | .opening execution =>
    let (connectBreaker, surroundings) :=
      execution.abandon (subscribeOperation a source) a.connectBreaker s.surroundings
    ({ a with connectBreaker }, { s with surroundings })
  | .receiving subscription _ call =>
    let surroundings := (a.transport.next subscription).abandon s.surroundings call
    (a, { s with surroundings }.update (a.transport.leave subscription))
  | .handling subscription _ delivery call =>
    let s := s.update fun outside => (handler delivery).abandon outside call
    (a, s.update (a.transport.leave subscription))
  | .settling subscription _ accepted call =>
    let surroundings := (settlement a subscription accepted).abandon s.surroundings call
    (a, { s with surroundings }.update (a.transport.leave subscription))

end Consuming

end Dispatch
