import Dispatch.Number.Decimal
import Dispatch.Text.Bytes

/-!
# JSON values and their compact text

An object keeps its members sorted by key, one for each key; `Json.object` builds it from members in
any order, where a later member replaces an earlier one of the same key. Text is compact: no blanks,
members in key order, control characters escaped and everything else as it is.
-/

set_option autoImplicit false

namespace Dispatch

inductive Json where
  | null
  | bool (value : Bool)
  | integer (value : Int)
  | number (value : Binary64)
  | string (value : String)
  | array (elements : List Json)
  | members (fields : List (String × Json))
  deriving Repr, Inhabited

def insertSorted {α : Type} (key : String) (value : α) : List (String × α) → List (String × α)
  | [] => [(key, value)]
  | (other, held) :: rest =>
    if key < other then (key, value) :: (other, held) :: rest
    else if key = other then (key, value) :: rest
    else (other, held) :: insertSorted key value rest

def sortedByKey {α : Type} (fields : List (String × α)) : List (String × α) :=
  fields.foldl (fun sorted field => insertSorted field.1 field.2 sorted) []

namespace Json

def object (fields : List (String × Json)) : Json := .members (sortedByKey fields)

def ofNat (n : Nat) : Json := .integer n

def get? (key : String) : Json → Option Json
  | .members fields => fields.lookup key
  | _ => none

def escaped (c : Char) : List Char :=
  if c = '"' then ['\\', '"']
  else if c = '\\' then ['\\', '\\']
  else if c = '\x08' then ['\\', 'b']
  else if c = '\x0c' then ['\\', 'f']
  else if c = '\n' then ['\\', 'n']
  else if c = '\r' then ['\\', 'r']
  else if c = '\t' then ['\\', 't']
  else if c.toNat < 0x20 then
    ['\\', 'u', '0', '0', Bytes.hexDigit (c.toNat / 16), Bytes.hexDigit (c.toNat % 16)]
  else [c]

def quoted (text : String) : List Char := '"' :: (text.toList.flatMap escaped ++ ['"'])

def integerText (n : Int) : List Char :=
  if n < 0 then '-' :: Decimal.digits n.natAbs else Decimal.digits n.natAbs

/-- Shortest digits that read back; positional from `1e-5` up to below `1e16`, always with a mark that
tells it from an integer. -/
def numberText : Binary64 → List Char
  | .nan | .infinite _ => "null".toList
  | .finite negative significand exponent =>
    let (digits, power) := Decimal.shortest significand exponent
    let text := Decimal.digits digits
    let count : Int := text.length
    let point := count + power
    let body :=
      if significand = 0 then "0.0".toList
      else if 0 ≤ power ∧ point ≤ 16 then text ++ List.replicate power.toNat '0' ++ ['.', '0']
      else if 0 < point ∧ point ≤ 16 then text.take point.toNat ++ '.' :: text.drop point.toNat
      else if -5 < point ∧ point ≤ 0 then
        '0' :: '.' :: (List.replicate (-point).toNat '0' ++ text)
      else
        let mark := 'e' :: (if 0 < point then ['+'] else []) ++ integerText (point - 1)
        match text with
        | [digit] => digit :: mark
        | digit :: rest => digit :: '.' :: (rest ++ mark)
        | [] => mark
    if negative then '-' :: body else body

def separated (pieces : List (List Char)) : List Char := List.intercalate [','] pieces

mutual

def print : Json → List Char
  | .null => "null".toList
  | .bool value => if value then "true".toList else "false".toList
  | .integer value => integerText value
  | .number value => numberText value
  | .string value => quoted value
  | .array elements => '[' :: (separated (printElements elements) ++ [']'])
  | .members fields => '{' :: (separated (printFields fields) ++ ['}'])

def printElements : List Json → List (List Char)
  | [] => []
  | element :: rest => print element :: printElements rest

def printFields : List (String × Json) → List (List Char)
  | [] => []
  | (key, value) :: rest => (quoted key ++ ':' :: print value) :: printFields rest

end

def text (value : Json) : String := String.ofList value.print

end Json

end Dispatch
