import Dispatch.Message
import Dispatch.Number.Decimal
import Dispatch.Text.Quote

/-!
# Metrics

Counters belong to a backend and are shared by all its adapters; gauges belong to one pool of a backend.
A series begins at zero when somebody first asks for it, and is found again by its labels run together:
pool `bc` of backend `a` and pool `c` of backend `ab` share their gauges, under the labels that came
first. Series are kept sorted by their labels.
-/

set_option autoImplicit false

namespace Dispatch

structure Counters where
  opened : Nat
  closed : Nat
  published : Nat
  failed : Nat
  deriving DecidableEq, Repr, Inhabited

structure Gauges where
  idle : Int
  leased : Int
  deriving DecidableEq, Repr, Inhabited

/-- Names one adapter's metrics: its counters by backend, its gauges by backend and pool. -/
structure MetricsKey where
  backend : String
  pool : String
  deriving DecidableEq, Repr, Inhabited

/-- Whether two names find the same gauges. -/
def MetricsKey.isSame (a b : MetricsKey) : Bool := a.backend ++ a.pool = b.backend ++ b.pool

structure MetricsRegistry where
  counters : List (String × Counters)
  gauges : List (MetricsKey × Gauges)
  deriving Repr, Inhabited

inductive Counter where
  | opened
  | closed
  | published
  | failed
  deriving DecidableEq, Repr

namespace Counters

def bump (c : Counters) : Counter → Counters
  | .opened => { c with opened := c.opened + 1 }
  | .closed => { c with closed := c.closed + 1 }
  | .published => { c with published := c.published + 1 }
  | .failed => { c with failed := c.failed + 1 }

end Counters

namespace MetricsRegistry

def empty : MetricsRegistry := ⟨[], []⟩

def keyLess (a b : MetricsKey) : Bool :=
  a.backend < b.backend || (a.backend == b.backend && a.pool < b.pool)

def insert {κ α : Type} (less : κ → κ → Bool) (key : κ) (initial : α) : List (κ × α) → List (κ × α)
  | [] => [(key, initial)]
  | (other, held) :: rest =>
    if less key other then (key, initial) :: (other, held) :: rest
    else (other, held) :: insert less key initial rest

/-- Adds an entry in order, unless there is one for the same series. -/
def ensure {κ α : Type} (same less : κ → κ → Bool) (key : κ) (initial : α)
    (entries : List (κ × α)) : List (κ × α) :=
  if entries.any fun entry => same key entry.1 then entries else insert less key initial entries

def enlist (m : MetricsRegistry) (key : MetricsKey) : MetricsRegistry where
  counters := ensure (fun a b => a = b) (fun a b => a < b) key.backend ⟨0, 0, 0, 0⟩ m.counters
  gauges := ensure MetricsKey.isSame keyLess key ⟨0, 0⟩ m.gauges

def countersOf (m : MetricsRegistry) (backend : String) : Counters :=
  (m.counters.lookup backend).getD ⟨0, 0, 0, 0⟩

def gaugesOf (m : MetricsRegistry) (key : MetricsKey) : Gauges :=
  ((m.gauges.find? fun entry => key.isSame entry.1).map (·.2)).getD ⟨0, 0⟩

def update {κ α : Type} (isMeant : κ → Bool) (f : α → α) (entries : List (κ × α)) : List (κ × α) :=
  entries.map fun entry => if isMeant entry.1 then (entry.1, f entry.2) else entry

def count (m : MetricsRegistry) (key : MetricsKey) (counter : Counter) : MetricsRegistry :=
  { m with counters := update (fun backend => key.backend = backend) (·.bump counter) m.counters }

/-- Sizes are kept as signed numbers of 64 bits. -/
def signed (n : Nat) : Int := Int.bmod n (twoTo 64)

def setSizes (m : MetricsRegistry) (key : MetricsKey) (idle leased : Nat) : MetricsRegistry :=
  { m with gauges := update key.isSame (fun _ => ⟨signed idle, signed leased⟩) m.gauges }

/-! ## Text -/

structure Series where
  labels : List (String × String)
  value : Int

structure Family where
  name : String
  help : String
  kind : String
  series : List Series

def family (m : MetricsRegistry) (name help : String) (read : Counters → Nat) : Family where
  name
  help
  kind := "counter"
  series := m.counters.map fun entry => ⟨[("backend", entry.1)], read entry.2⟩

def gaugeFamily (m : MetricsRegistry) (name help : String) (read : Gauges → Int) : Family where
  name
  help
  kind := "gauge"
  series := m.gauges.map fun entry =>
    ⟨[("backend", entry.1.backend), ("pool", entry.1.pool)], read entry.2⟩

def families (m : MetricsRegistry) : List Family :=
  [m.family "courier_connections_closed_total" "Broker connections closed" Counters.closed,
    m.family "courier_connections_opened_total" "Broker connections opened" Counters.opened,
    m.family "courier_messages_failed_total" "Publish calls that failed" Counters.failed,
    m.family "courier_messages_published_total" "Messages successfully published" Counters.published,
    m.gaugeFamily "courier_pool_idle" "Idle resources in the connection pool" Gauges.idle,
    m.gaugeFamily "courier_pool_leased" "Leased resources in the connection pool" Gauges.leased].filter
      fun f => !f.series.isEmpty

def escapedLabel (text : String) : List Char :=
  text.toList.flatMap fun c =>
    if c = '\\' then ['\\', '\\']
    else if c = '"' then ['\\', '"']
    else if c = '\n' then ['\\', 'n']
    else [c]

def labelText (label : String × String) : List Char :=
  label.1.toList ++ ['=', '"'] ++ escapedLabel label.2 ++ ['"']

/-- Values are written as floating-point numbers, which are whole here. -/
def valueText (n : Int) : List Char :=
  match Binary64.ofNat n.natAbs with
  | .finite _ significand exponent =>
    let (digits, power) := Decimal.shortest significand exponent
    (if n < 0 then ['-'] else []) ++ Decimal.digits digits ++ List.replicate power.toNat '0'
  | _ => []

example : valueText (-9223372036854775808) = "-9223372036854776000".toList := by decide +kernel

def seriesText (name : String) (s : Series) : List Char :=
  name.toList ++ '{' :: (List.intercalate [','] (s.labels.map labelText) ++ ['}', ' ']) ++
    valueText s.value ++ ['\n']

def familyText (f : Family) : List Char :=
  "# HELP ".toList ++ f.name.toList ++ ' ' :: f.help.toList ++ '\n' ::
    ("# TYPE ".toList ++ f.name.toList ++ ' ' :: f.kind.toList ++ '\n' ::
      f.series.flatMap (seriesText f.name))

def render (m : MetricsRegistry) : String := String.ofList (m.families.flatMap familyText)

def describe : String := "MetricsRegistry \x7b .. \x7d"

def describeAdapter (m : MetricsRegistry) (backend : String) : String :=
  let counters := m.countersOf backend
  s!"BrokerMetrics \x7b backend: {Text.quote backend}, published: {counters.published}, " ++
    s!"failed: {counters.failed} \x7d"

end MetricsRegistry

end Dispatch
