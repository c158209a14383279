import Dispatch.Number.Power
import Dispatch.Text.Search

/-!
# Places in texts

A complaint may end with the place that it is about, as in `unknown word at line 3 column 7`. When it is
passed on, the place is written anew: its numbers without zeros in front, and nothing at all if the line
is zero, which no text has.
-/

set_option autoImplicit false

namespace Dispatch.Text

structure Place where
  line : Nat
  column : Nat
  deriving DecidableEq, Repr

namespace Place

def text (place : Place) : String := s!" at line {place.line} column {place.column}"

def number? (digits : List Char) : Option Nat :=
  let n := digits.foldl (fun n c => n * 10 + (c.toNat - '0'.toNat)) 0
  if !digits.isEmpty && digits.all Char.isDigit && n < twoTo 64 then some n else none

/-- A complaint without the place at its end, and that place. -/
def split? (complaint : String) : Option (String × Place) := do
  let (before, behind) ← aroundLast " at line ".toList complaint.toList
  let line := behind.takeWhile Char.isDigit
  let rest := behind.drop line.length
  if " column ".toList.isPrefixOf rest then
    let place : Place := ⟨← number? line, ← number? (rest.drop " column ".length)⟩
    return (String.ofList before, place)
  else none

def passedOn (complaint : String) : String :=
  match split? complaint with
  | none => complaint
  | some (message, place) => if place.line = 0 then message else message ++ place.text

example : passedOn "boom at line 0 column 5" = "boom" := by decide +kernel
example : passedOn "boom at line 01 column 2" = "boom at line 1 column 2" := by decide +kernel

end Place

end Dispatch.Text
