import Dispatch.Message

/-!
# Spans

A recorder remembers every span it saw open and close, with its fields. Spans are told apart by ids; an
id may be given to a new span once the one before it is closed, so the recorder keeps for each open span
where it stands in the list.
-/

set_option autoImplicit false

namespace Dispatch

structure RecordedSpan where
  name : String
  fields : List (String × String)
  closed : Bool
  deriving DecidableEq, Repr, Inhabited

structure SpanRecorder where
  spans : List RecordedSpan
  places : List (Nat × Nat)
  deriving DecidableEq, Repr, Inhabited

namespace SpanRecorder

def empty : SpanRecorder := ⟨[], []⟩

def withFields (fields : List (String × String)) (span : RecordedSpan) : RecordedSpan :=
  { span with fields := fields.foldl (fun held f => insertSorted f.1 f.2 held) span.fields }

def start (r : SpanRecorder) (id : Nat) (name : String) (fields : List (String × String)) :
    SpanRecorder where
  spans := r.spans ++ [withFields fields ⟨name, [], false⟩]
  places := (id, r.spans.length) :: r.places.filter (·.1 != id)

def record (r : SpanRecorder) (id : Nat) (fields : List (String × String)) : SpanRecorder :=
  match r.places.lookup id with
  | none => r
  | some place => { r with spans := r.spans.modify place (withFields fields) }

def close (r : SpanRecorder) (id : Nat) : SpanRecorder :=
  match r.places.lookup id with
  | none => r
  | some place =>
    { spans := r.spans.modify place fun span => { span with closed := true }
      places := r.places.filter (·.1 != id) }

/-- Forgets all spans, those that are still open too. -/
def clear (_ : SpanRecorder) : SpanRecorder := empty

def named (r : SpanRecorder) (name : String) : List RecordedSpan := r.spans.filter (·.name = name)

def opened (r : SpanRecorder) (name : String) : Nat := (r.named name).length

def closed (r : SpanRecorder) (name : String) : Nat := ((r.named name).filter (·.closed)).length

def describe (r : SpanRecorder) : String := s!"SpanRecorder \x7b spans: {r.spans.length} \x7d"

end SpanRecorder

/-! ## The span of a publish call -/

namespace PublishSpan

def name : String := "courier.publish"

def opening (backend destination : String) : List (String × String) :=
  [("otel.kind", "producer"), ("messaging.system", backend),
    ("messaging.destination.name", destination), ("messaging.operation", "publish")]

def success (size : Nat) : List (String × String) :=
  [("messaging.message.body.size", toString size), ("otel.status_code", "OK")]

def failure (message : String) : List (String × String) :=
  [("otel.status_code", "ERROR"), ("error.message", message)]

end PublishSpan

end Dispatch
