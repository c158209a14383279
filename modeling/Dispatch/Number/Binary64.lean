import Dispatch.Number.Power

/-!
# Binary floating point of 64 bits, by value

A finite number is a sign and an exact `significand · 2 ^ exponent`. Every operation computes the
exact rational result and then rounds once, to the nearest representable value and to the even
significand on a tie, so `ofRatio` is the only place where precision is lost.
-/

set_option autoImplicit false

namespace Dispatch

inductive Binary64 where
  | nan
  | infinite (negative : Bool)
  | finite (negative : Bool) (significand : Nat) (exponent : Int)
  deriving DecidableEq, Repr, Inhabited

/-- The quotient rounded to the nearest natural number, a half going to the even neighbour. -/
def roundHalfEven (numerator denominator : Nat) : Nat :=
  let quotient := numerator / denominator
  let twice := 2 * (numerator % denominator)
  if twice > denominator ∨ (twice = denominator ∧ quotient % 2 = 1) then quotient + 1 else quotient

namespace Binary64

/-- Exponent of the smallest positive number. -/
def lowest : Int := -1074

/-- The value `numerator / denominator · 2 ^ shift` as a ratio of natural numbers. -/
def scaled (numerator denominator : Nat) (shift : Int) : Nat × Nat :=
  if 0 ≤ shift then (numerator * twoTo shift.toNat, denominator)
  else (numerator, denominator * twoTo (-shift).toNat)

/-- The exponent `k` with `2 ^ k ≤ numerator / denominator < 2 ^ (k + 1)`. -/
def magnitude (numerator denominator : Nat) : Int :=
  let guess : Int := (numerator.log2 : Int) - (denominator.log2 : Int)
  let (above, below) := scaled numerator denominator (-guess)
  if above < below then guess - 1 else guess

/-- The nearest number to a quotient; the denominator is positive. -/
def ofRatio (negative : Bool) (numerator denominator : Nat) : Binary64 :=
  if numerator = 0 then .finite negative 0 lowest
  else
    let exponent := max (magnitude numerator denominator - 52) lowest
    let (above, below) := scaled numerator denominator (-exponent)
    let significand := roundHalfEven above below
    let (significand, exponent) :=
      if significand = twoTo 53 then (twoTo 52, exponent + 1) else (significand, exponent)
    if exponent > 971 then .infinite negative else .finite negative significand exponent

def ofNat (n : Nat) : Binary64 := ofRatio false n 1

def isFinite : Binary64 → Bool
  | .finite _ _ _ => true
  | _ => false

def isInfinite : Binary64 → Bool
  | .infinite _ => true
  | _ => false

def negate : Binary64 → Binary64
  | .nan => .nan
  | .infinite negative => .infinite (!negative)
  | .finite negative significand exponent => .finite (!negative) significand exponent

def ratio (significand : Nat) (exponent : Int) : Nat × Nat := scaled significand 1 exponent

def mul : Binary64 → Binary64 → Binary64
  | .nan, _ | _, .nan => .nan
  | .infinite a, .infinite b => .infinite (a != b)
  | .infinite a, .finite b m _ | .finite b m _, .infinite a =>
    if m = 0 then .nan else .infinite (a != b)
  | .finite a m e, .finite b n f =>
    let (above, below) := ratio (m * n) (e + f)
    ofRatio (a != b) above below

def div : Binary64 → Binary64 → Binary64
  | .nan, _ | _, .nan => .nan
  | .infinite _, .infinite _ => .nan
  | .infinite a, .finite b _ _ => .infinite (a != b)
  | .finite a _ _, .infinite b => .finite (a != b) 0 lowest
  | .finite a m e, .finite b n f =>
    if n = 0 then (if m = 0 then .nan else .infinite (a != b))
    else
      let (above, below) := scaled m n (e - f)
      ofRatio (a != b) above below

def addMagnitudes : Binary64 → Binary64 → Binary64
  | .finite _ m e, .finite _ n f =>
    let low := min e f
    let (above, below) := ratio (m * twoTo (e - low).toNat + n * twoTo (f - low).toNat) low
    ofRatio false above below
  | .nan, _ | _, .nan => .nan
  | _, _ => .infinite false

def one : Binary64 := .finite false (twoTo 52) (-52)

/-- The larger of a number and one; one where there is no number to compare. -/
def atLeastOne : Binary64 → Binary64
  | .nan => one
  | .infinite negative => if negative then one else .infinite false
  | .finite negative significand exponent =>
    let (above, below) := ratio significand exponent
    if negative ∨ above ≤ below then one else .finite false significand exponent

/-- Repeated squaring over the bits of the exponent, low bit first; `product` collects the factors. -/
def powerLoop (base product : Binary64) : Nat → Nat → Binary64
  | 0, _ => product
  | fuel + 1, exponent =>
    let product := if exponent % 2 = 1 then mul product base else product
    if exponent / 2 = 0 then product
    else powerLoop (mul base base) product fuel (exponent / 2)

/-- Integer power. A negative exponent takes the reciprocal last. -/
def power (base : Binary64) (exponent : Int) : Binary64 :=
  let result := powerLoop base one 64 exponent.natAbs
  if exponent < 0 then div one result else result

example : mul (ofNat 3) (ofRatio false 1 3) = ofNat 1 := by decide
example : power (ofNat 2) 10 = ofNat 1024 := by decide
example : addMagnitudes (ofRatio false 1 10) (ofRatio false 2 10) =
    .finite false 5404319552844596 (-54) := by decide

end Binary64

end Dispatch
