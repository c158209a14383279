import Dispatch.Number.Binary64

/-!
# Decimal text of floating-point numbers

`shortest` finds the fewest decimal digits that read back as the same number, and of those the
nearest. `fixed` writes a given number of places.
-/

set_option autoImplicit false

namespace Dispatch.Decimal

/-- The value `numerator / denominator` divided by `10 ^ power`. -/
def scaledBy (numerator denominator : Nat) (power : Int) : Nat × Nat :=
  if 0 ≤ power then (numerator, denominator * tenTo power.toNat)
  else (numerator * tenTo (-power).toNat, denominator)

/-- Whether `10 ^ power` is at most `numerator / denominator`. -/
def reaches (numerator denominator : Nat) (power : Int) : Bool :=
  let (above, below) := scaledBy numerator denominator power
  below ≤ above

def leading (numerator denominator : Nat) : Int :=
  let binary : Int := (numerator.log2 : Int) - (denominator.log2 : Int)
  let guess := binary * 30103 / 100000
  if reaches numerator denominator (guess + 1) then guess + 1
  else if reaches numerator denominator guess then guess
  else guess - 1

/-- The set of reals that round to one number: its ends as ratios over one denominator. -/
structure Interval where
  low : Nat
  value : Nat
  high : Nat
  denominator : Nat
  closed : Bool

def Interval.around (significand : Nat) (exponent : Int) : Interval :=
  let (unit, denominator) := Binary64.scaled 1 1 (exponent - 2)
  let narrow := significand = twoTo 52 ∧ exponent > Binary64.lowest
  { low := (4 * significand - if narrow then 1 else 2) * unit
    value := 4 * significand * unit
    high := (4 * significand + 2) * unit
    denominator
    closed := significand % 2 = 0 }

def Interval.covers (interval : Interval) (digits : Nat) (power : Int) : Bool :=
  let (point, unit) :=
    if 0 ≤ power then (digits * tenTo power.toNat * interval.denominator, 1)
    else (digits * interval.denominator, tenTo (-power).toNat)
  if interval.closed then interval.low * unit ≤ point && point ≤ interval.high * unit
  else interval.low * unit < point && point < interval.high * unit

/-- The neighbour of the value on the grid of `10 ^ power` that reads back, if one does. -/
def Interval.onGrid (interval : Interval) (power : Int) : Option Nat :=
  let (above, below) := scaledBy interval.value interval.denominator power
  let under := above / below
  let rest := above % below
  let lower := interval.covers under power && under != 0
  let upper := interval.covers (under + 1) power
  if lower && upper then
    some (if 2 * rest < below || (2 * rest == below && under % 2 == 0) then under else under + 1)
  else if lower then some under
  else if upper then some (under + 1)
  else none

/-- Tries the grids with one digit more each time. -/
def Interval.search (interval : Interval) : Nat → Int → Nat × Int
  | 0, power => (interval.value, power)
  | fuel + 1, power =>
    match interval.onGrid power with
    | some digits => (digits, power)
    | none => interval.search fuel (power - 1)

def trim : Nat → Nat → Int → Nat × Int
  | 0, digits, power => (digits, power)
  | fuel + 1, digits, power =>
    if digits % 10 = 0 ∧ digits ≠ 0 then trim fuel (digits / 10) (power + 1) else (digits, power)

/-- Shortest `digits · 10 ^ power` that reads back as `significand · 2 ^ exponent`. -/
def shortest (significand : Nat) (exponent : Int) : Nat × Int :=
  if significand = 0 then (0, 0)
  else
    let interval := Interval.around significand exponent
    let (digits, power) := interval.search 17 (leading interval.value interval.denominator)
    trim 17 digits power

def digits (n : Nat) : List Char := Nat.toDigits 10 n

def padded (width n : Nat) : List Char :=
  let text := digits n
  List.replicate (width - text.length) '0' ++ text

def fixed (places : Nat) : Binary64 → String
  | .nan => "NaN"
  | .infinite negative => if negative then "-inf" else "inf"
  | .finite negative significand exponent =>
    let (above, below) := Binary64.ratio significand exponent
    let units := roundHalfEven (above * tenTo places) below
    let whole := digits (units / tenTo places)
    let fraction := if places = 0 then [] else '.' :: padded places (units % tenTo places)
    String.ofList ((if negative then ['-'] else []) ++ whole ++ fraction)

example : shortest 5404319552844595 (-54) = (3, -1) := by decide +kernel
example : shortest 1 (-1074) = (5, -324) := by decide +kernel
example : shortest (twoTo 52) (-52) = (1, 0) := by decide +kernel

end Dispatch.Decimal
