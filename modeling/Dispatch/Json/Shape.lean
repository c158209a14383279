import Dispatch.Json.Reader

/-!
# Reading JSON of a wanted shape

A shape is checked while reading: the first symbol that cannot belong to it ends the reading with
`Fault.mismatch`, whatever stands behind it.
-/

set_option autoImplicit false

namespace Dispatch.Json

inductive Shape where
  | any
  | octets
  | text
  | integer
  | truth
  | texts
  deriving DecidableEq, Repr

namespace Reader

def refuse {α : Type} (input : Input) : Except Fault α :=
  match input with
  | [] => .error .truncated
  | some '"' :: rest => do
    let _ ← string rest
    .error .mismatch
  | some '[' :: _ | some '{' :: _ => .error .mismatch
  | some c :: rest => do
    let _ ← scalar c rest
    .error .mismatch
  | none :: _ => .error .malformed

def textValue (input : Input) : Except Fault (String × Input) :=
  match skipBlanks input with
  | some '"' :: rest => string rest
  | rest => refuse rest

def boundedInteger (below above : Nat) (input : Input) : Except Fault (Int × Input) :=
  match skipBlanks input with
  | some c :: rest =>
    if c = '-' ∨ c.isDigit then do
      match ← scalar c rest with
      | (.integer n, rest) =>
        if (-n).toNat ≤ below ∧ n.toNat ≤ above then return (n, rest) else .error .mismatch
      | _ => .error .mismatch
    else refuse (some c :: rest)
  | rest => refuse rest

def truthValue (input : Input) : Except Fault (Bool × Input) :=
  match skipBlanks input with
  | some 't' :: rest => do return (true, ← keyword ['r', 'u', 'e'] rest)
  | some 'f' :: rest => do return (false, ← keyword ['a', 'l', 's', 'e'] rest)
  | rest => refuse rest

def listOf {α : Type} (item : Input → Except Fault (α × Input)) :
    Nat → Bool → Input → Except Fault (List α × Input)
  | 0, _, _ => .error .truncated
  | fuel + 1, first, input => do
    match ← nextElement first input with
    | .closed rest => return ([], rest)
    | .item input =>
      let (element, rest) ← item input
      let (others, rest) ← listOf item fuel false rest
      return (element :: others, rest)

def membersOf {α : Type} (item : Input → Except Fault (α × Input)) :
    Nat → Bool → Input → Except Fault (List (String × α) × Input)
  | 0, _, _ => .error .truncated
  | fuel + 1, first, input => do
    match ← nextKey first input with
    | .closed rest => return ([], rest)
    | .item input =>
      let (key, rest) ← string input
      let rest ← colon rest
      let (member, rest) ← item rest
      let (others, rest) ← membersOf item fuel false rest
      return ((key, member) :: others, rest)

def shaped (shape : Shape) (input : Input) : Except Fault (Json × Input) :=
  match shape with
  | .any => value (enough input) maxDepth input
  | .text => do
    let (text, rest) ← textValue input
    return (.string text, rest)
  | .integer => do
    let (n, rest) ← boundedInteger (twoTo 63) (twoTo 63 - 1) input
    return (.integer n, rest)
  | .truth => do
    let (truth, rest) ← truthValue input
    return (.bool truth, rest)
  | .octets =>
    match skipBlanks input with
    | some '[' :: rest => do
      let (elements, rest) ← listOf (boundedInteger 0 255) (enough rest) true rest
      return (.array (elements.map .integer), rest)
    | rest => refuse rest
  | .texts =>
    match skipBlanks input with
    | some '{' :: rest => do
      let (fields, rest) ← membersOf textValue (enough rest) true rest
      return (.object (fields.map fun field => (field.1, .string field.2)), rest)
    | rest => refuse rest

def skipString : Nat → Input → Except Fault Input
  | 0, _ => .error .truncated
  | _ + 1, [] => .error .truncated
  | fuel + 1, none :: rest => skipString fuel rest
  | fuel + 1, some c :: rest =>
    if c = '"' then .ok rest
    else if c = '\\' then
      match rest with
      | [] => .error .truncated
      | some 'u' :: rest => do
        let (_, rest) ← escapeCode rest
        skipString fuel rest
      | some letter :: rest =>
        if (simpleEscape? letter).isSome then skipString fuel rest else .error .malformed
      | none :: _ => .error .malformed
    else if c.toNat < 0x20 then .error .malformed
    else skipString fuel rest

def someDigits (input : Input) : Except Fault Input :=
  match input with
  | [] => .error .truncated
  | symbol :: rest => if (digit? symbol).isSome then .ok (skipDigits rest) else .error .malformed

def skipNumber (input : Input) : Except Fault Input := do
  let rest ←
    match input with
    | some '0' :: next :: rest =>
      if (digit? next).isSome then .error .malformed else .ok (next :: rest)
    | input => someDigits input
  let rest ←
    match rest with
    | some '.' :: rest => someDigits rest
    | rest => .ok rest
  match rest with
  | some 'e' :: some '+' :: rest | some 'e' :: some '-' :: rest
  | some 'E' :: some '+' :: rest | some 'E' :: some '-' :: rest
  | some 'e' :: rest | some 'E' :: rest => someDigits rest
  | rest => .ok rest

mutual

def skipValue : Nat → Input → Except Fault Input
  | 0, _ => .error .truncated
  | fuel + 1, input =>
    match skipBlanks input with
    | [] => .error .truncated
    | some '"' :: rest => skipString (rest.length + 1) rest
    | some '[' :: rest => skipElements fuel true rest
    | some '{' :: rest => skipFields fuel true rest
    | some '-' :: rest => skipNumber rest
    | some c :: rest =>
      if c.isDigit then skipNumber (some c :: rest)
      else do
        let (_, rest) ← scalar c rest
        return rest
    | none :: _ => .error .malformed

def skipElements : Nat → Bool → Input → Except Fault Input
  | 0, _, _ => .error .truncated
  | fuel + 1, first, input => do
    match ← nextElement first input with
    | .closed rest => return rest
    | .item input => skipElements fuel false (← skipValue fuel input)

def skipFields : Nat → Bool → Input → Except Fault Input
  | 0, _, _ => .error .truncated
  | fuel + 1, first, input => do
    match ← nextKey first input with
    | .closed rest => return rest
    | .item input =>
      let rest ← colon (← skipString (input.length + 1) input)
      skipFields fuel false (← skipValue fuel rest)

end

/-- Looks through the members of an object for a text, which must be there once. -/
def namedText (name : String) : Nat → Bool → Option String → Input → Except Fault (String × Input)
  | 0, _, _, _ => .error .truncated
  | fuel + 1, first, found, input => do
    match ← nextKey first input with
    | .closed rest =>
      match found with
      | some text => return (text, rest)
      | none => .error .mismatch
    | .item input =>
      let (key, rest) ← string input
      if key = name then
        if found.isSome then .error .mismatch
        else
          let (text, rest) ← textValue (← colon rest)
          namedText name fuel false (some text) rest
      else
        let rest ← colon rest
        namedText name fuel false found (← skipValue (enough rest) rest)

/-- A record of one text member, written as an object or as an array of one element. -/
def recordText (name : String) (input : Input) : Except Fault (String × Input) :=
  match skipBlanks input with
  | some '{' :: rest => namedText name (enough rest) true none rest
  | some '[' :: rest => do
    match ← nextElement true rest with
    | .closed _ => .error .mismatch
    | .item input =>
      let (text, rest) ← textValue input
      match skipBlanks rest with
      | some ']' :: rest => return (text, rest)
      | [] => .error .truncated
      | _ => .error .malformed
  | rest => refuse rest

end Reader

def Shape.ofBytes (shape : Shape) (bytes : Bytes) : Except Fault Json :=
  Reader.finish (Reader.shaped shape bytes.symbols)

/-- Reads a payload that is a record with one text member; other members are passed over. -/
def memberOfBytes (name : String) (bytes : Bytes) : Except Fault String :=
  Reader.finish (Reader.recordText name bytes.symbols)

end Dispatch.Json
