import Dispatch.Number.Decimal

/-!
# Time

Instants and durations are whole nanoseconds. Durations are written in the largest unit they reach,
with as many decimal places as they need.
-/

set_option autoImplicit false

namespace Dispatch

/-- Nanoseconds since the clock started. -/
abbrev Instant := Nat

/-- A number of nanoseconds. -/
abbrev Duration := Nat

namespace Duration

def ofMillis (ms : Nat) : Duration := ms * 1000000

def ofSeconds (seconds : Nat) : Duration := seconds * 1000000000

/-- Seconds and nanoseconds together, `none` where the seconds would not fit into 64 bits. -/
def ofParts? (seconds nanoseconds : Nat) : Option Duration :=
  let d := ofSeconds seconds + nanoseconds
  if d < ofSeconds (twoTo 64) then some d else none

def millis (d : Duration) : Nat := d / 1000000

/-- The places after the point for `rest` parts of `10 ^ width`, without zeros at the end. -/
def fraction (rest width : Nat) : List Char :=
  ((Decimal.padded width rest).reverse.dropWhile (· == '0')).reverse

def withUnit (d : Duration) (width : Nat) (unit : String) : String :=
  let whole := Decimal.digits (d / tenTo width)
  let places := fraction (d % tenTo width) width
  String.ofList (whole ++ (if places.isEmpty then [] else '.' :: places)) ++ unit

def text (d : Duration) : String :=
  if d ≥ 1000000000 then d.withUnit 9 "s"
  else if d ≥ 1000000 then d.withUnit 6 "ms"
  else if d ≥ 1000 then d.withUnit 3 "µs"
  else d.withUnit 0 "ns"

example : text 1500000000 = "1.5s" := by decide +kernel
example : text 999999 = "999.999µs" := by decide +kernel
example : text 0 = "0ns" := by decide +kernel

end Duration

/--
What one step of a call did. `blocked` leaves the call as it is, with nothing to do before `wake`
unless another call moves; `overflowed` means that a wait left the range of durations.
-/
inductive Turn (κ α : Type) where
  | finished (result : α)
  | moved (next : κ)
  | blocked (wake : Option Instant)
  | overflowed

namespace Turn

variable {κ μ α β : Type}

/-- The same turn for a call that has this one as its part. -/
def lift (wrap : κ → μ) (finish : α → Turn μ β) : Turn κ α → Turn μ β
  | .finished result => finish result
  | .moved next => .moved (wrap next)
  | .blocked wake => .blocked wake
  | .overflowed => .overflowed

end Turn

/-- The earlier of two wake-up times, where `none` is never. -/
def earlier : Option Instant → Option Instant → Option Instant
  | none, other | other, none => other
  | some a, some b => some (min a b)

/-- An operation that may have to wait: its steps in an environment `ε`, and what abandoning it does. -/
structure Operation (ε κ α : Type) where
  start : κ
  step : Instant → ε → κ → Turn κ α × ε
  abandon : ε → κ → ε

end Dispatch
