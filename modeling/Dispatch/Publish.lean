import Dispatch.Adapter

/-!
# Publishing

A publish call opens a span, waits for a token where the adapter is throttled, leases a handle,
prepares the envelope, sends it through the publish pipeline and returns the lease. `conclude` is the
only place where a call is counted and its span closed; `abandon` does the same for a call that is given
up. So every call that was begun is counted once.
-/

set_option autoImplicit false

namespace Dispatch

structure Receipt where
  backend : Backend
  destination : Destination
  size : Nat
  headersForwarded : Bool
  deriving DecidableEq, Repr, Inhabited

/-- A message on its way: where it goes and its envelope, or why it cannot be serialized. -/
structure Outgoing where
  destination : Destination
  content : Except String Envelope

namespace Outgoing

def resolve (options : PublisherOptions) (destination : Destination) : Destination :=
  if destination.isEmpty then options.defaultDestination else destination

def message (options : PublisherOptions) (destination : Destination) (value : Except String Json) :
    Outgoing :=
  let destination := resolve options destination
  { destination, content := value.map (Envelope.json destination) }

def context (options : PublisherOptions) (destination : Destination)
    (context : Except String MessageContext) : Outgoing :=
  let destination := resolve options destination
  { destination
    content := context.map fun context =>
      { Envelope.json destination context.payload with
        headers := context.headers
        correlationId := context.correlationId
        messageId := context.messageId } }

def envelope (options : PublisherOptions) (envelope : Envelope) : Outgoing :=
  let destination := resolve options envelope.destination
  { destination, content := .ok { envelope with destination } }

def withMetadata (options : PublisherOptions) (value : Json) (metadata : Metadata) : Outgoing :=
  let destination := resolve options (.topic metadata.topic)
  { destination
    content := .ok { Envelope.json destination value with headers := metadata.headers } }

end Outgoing

inductive Publishing (ρ κ : Type) where
  | fresh
  | limiting (span : Nat)
  | leasing (span : Nat) (acquisition : Adapter.Leasing ρ κ)
  | preparing (span : Nat) (lease : Lease ρ)
  | sending (span : Nat) (lease : Lease ρ) (envelope : Envelope)
      (execution : Execution (TransportCall ρ κ))
  deriving Repr, Inhabited

namespace Publishing

variable {ε ρ σ κ : Type}

structure Outcome (ε ρ σ κ : Type) where
  turn : Turn (Publishing ρ κ) (Except BrokerError Receipt)
  adapter : Adapter ε ρ σ κ
  shared : Shared ε

/-- Counts a call with its result and closes its span. -/
def conclude (a : Adapter ε ρ σ κ) (s : Shared ε) (destination : Destination) (span : Nat)
    (result : Except BrokerError Receipt) : Outcome ε ρ σ κ :=
  let (counter, fields, events) : Counter × List (String × String) × List Event :=
    match result with
    | .ok receipt => (.published, PublishSpan.success receipt.size, [])
    | .error error =>
      let place := [("backend", a.backend.name), ("destination", destination.text)]
      let event : Event :=
        if error.isCancelled then
          { level := .debug, message := "publish cancelled", fields := place }
        else
          { level := .warn, message := "publish failed"
            fields := place ++ [("error", error.message)] }
      (.failed, PublishSpan.failure error.message, [event])
  let s := s.count a.key counter
  let s := { s with spans := (s.spans.record span fields).close span }
  { turn := .finished result, adapter := a, shared := s.report events }

def conclusion (a : Adapter ε ρ σ κ) (s : Shared ε) (now : Instant) (destination : Destination)
    (span : Nat) (lease : Lease ρ) (result : Except BrokerError Receipt) : Outcome ε ρ σ κ :=
  let (a, s) := a.release s now lease
  conclude a s destination span result

def withoutHeaders (a : Adapter ε ρ σ κ) (e : Envelope) : Envelope × List Event :=
  if e.headers.isEmpty then (e, [])
  else if a.options.headerPolicy = .drop then ({ e with headers := [] }, [])
  else if a.transport.forwardsHeaders then (e, [])
  else
    ({ e with headers := [] },
      [{ level := .debug
         message := "backend has no header support, headers dropped"
         fields := [("backend", a.backend.name), ("count", toString e.headers.length)] }])

def sizeWarning (a : Adapter ε ρ σ κ) (e : Envelope) : List Event :=
  match a.options.maxMessageSize with
  | none => []
  | some most =>
    if e.size > most then
      [{ level := .warn
         message := "message exceeds the configured maximum size"
         fields := [("backend", a.backend.name), ("size", toString e.size), ("max", toString most)] }]
    else []

def prepare (a : Adapter ε ρ σ κ) (e : Envelope) : Envelope × List Event :=
  let (e, events) := withoutHeaders a e
  (e, events ++ sizeWarning a e)

def receipt (a : Adapter ε ρ σ κ) (e : Envelope) : Receipt where
  backend := a.backend
  destination := e.destination
  size := e.size
  headersForwarded := !e.headers.isEmpty

def sendOperation (a : Adapter ε ρ σ κ) (lease : Lease ρ) (e : Envelope) :
    Operation (Surroundings ε) (TransportCall ρ κ) (Except Failure Unit) :=
  let op := a.transport.send lease.resource e
  { start := op.start
    step := fun now s call =>
      let (turn, s) := op.step now s call
      (turn.lift id fun result => .finished (result.mapError TransportError.failure), s)
    abandon := op.abandon }

def step (a : Adapter ε ρ σ κ) (s : Shared ε) (message : Outgoing) (now : Instant)
    (cancelled : Bool) : Publishing ρ κ → Outcome ε ρ σ κ
  | .fresh =>
    let span := s.nextSpan
    let spans :=
      s.spans.start span PublishSpan.name
        (PublishSpan.opening a.backend.name message.destination.text)
    { turn := .moved (if a.bucket.isSome then .limiting span else .leasing span .arriving)
      adapter := a
      shared := { s with spans, nextSpan := span + 1 } }
  | .limiting span =>
    match a.bucket with
    | none => { turn := .moved (.leasing span .arriving), adapter := a, shared := s }
    | some bucket =>
      match bucket.wait cancelled with
      | (.finished (.error failure), _) =>
        conclude a s message.destination span (.error (.ofPublish a.backend failure))
      | (.blocked wake, _) => { turn := .blocked wake, adapter := a, shared := s }
      | (_, bucket) =>
        { turn := .moved (.leasing span .arriving), adapter := { a with bucket := some bucket }
          shared := s }
  | .leasing span acquisition =>
    let (turn, a, s) := a.stepLease s now cancelled acquisition
    match turn with
    | .finished (.ok lease) =>
      { turn := .moved (.preparing span lease), adapter := a, shared := s }
    | .finished (.error failure) =>
      conclude a s message.destination span (.error (.ofAcquire a.backend failure))
    | .moved acquisition => { turn := .moved (.leasing span acquisition), adapter := a, shared := s }
    | .blocked wake => { turn := .blocked wake, adapter := a, shared := s }
    | .overflowed => { turn := .overflowed, adapter := a, shared := s }
  | .preparing span lease =>
    match message.content with
    | .error reason =>
      conclusion a s now message.destination span lease
        (.error (.ofSerialization a.backend reason))
    | .ok envelope =>
      let (envelope, events) := prepare a envelope
      { turn := .moved (.sending span lease envelope (.ready 0)), adapter := a
        shared := s.report events }
  | .sending span lease envelope execution =>
    let next :=
      execution.step a.publish (sendOperation a lease envelope) now cancelled a.publishBreaker
        s.surroundings
    let a := { a with publishBreaker := next.breaker }
    let s := { s with surroundings := next.environment }.report next.events
    match next.turn with
    | .finished (.ok ()) =>
      conclusion a s now message.destination span lease (.ok (receipt a envelope))
    | .finished (.error failure) =>
      conclusion a s now message.destination span lease (.error (.ofPublish a.backend failure))
    | .moved execution =>
      { turn := .moved (.sending span lease envelope execution), adapter := a, shared := s }
    | .blocked wake => { turn := .blocked wake, adapter := a, shared := s }
    | .overflowed => { turn := .overflowed, adapter := a, shared := s }

/-- Counts a call that was given up as failed and closes its span. -/
def abandoned (a : Adapter ε ρ σ κ) (s : Shared ε) (span : Nat) : Adapter ε ρ σ κ × Shared ε :=
  let s := s.count a.key .failed
  (a, { s with spans := (s.spans.record span (PublishSpan.failure "cancelled")).close span })

def abandon (a : Adapter ε ρ σ κ) (s : Shared ε) (now : Instant) :
    Publishing ρ κ → Adapter ε ρ σ κ × Shared ε
  | .fresh => (a, s)
  | .limiting span => abandoned a s span
  | .leasing span acquisition =>
    let (a, s) := a.abandonLease s acquisition
    abandoned a s span
  | .preparing span lease =>
    let (a, s) := a.release s now lease
    abandoned a s span
  | .sending span lease envelope execution =>
    let (publishBreaker, surroundings) :=
      execution.abandon (sendOperation a lease envelope) a.publishBreaker s.surroundings
    let (a, s) := { a with publishBreaker }.release { s with surroundings } now lease
    abandoned a s span

end Publishing

end Dispatch
