import Dispatch.Json.Value

/-!
# Reading JSON

A reader takes a value from the front of a list of symbols and returns what follows it. A fault is
one of three: the text is no JSON, it ends too early, or it is JSON of another shape than asked for.
Arrays and objects nest at most 127 deep. Integers of 64 bits are read exactly; every other number is
read in floating point, a significand of up to 64 bits scaled by one power of ten.
-/

set_option autoImplicit false

namespace Dispatch.Json

inductive Fault where
  | malformed
  | mismatch
  | truncated
  deriving DecidableEq, Repr, Inhabited

def Fault.message : Fault → String
  | .malformed => "malformed text"
  | .mismatch => "unexpected value"
  | .truncated => "unexpected end of text"

/-- Arrays and objects inside one another. -/
def maxDepth : Nat := 127

namespace Reader

abbrev Input := List Symbol

def isBlank (c : Char) : Bool := c == ' ' || c == '\n' || c == '\t' || c == '\r'

def skipBlanks : Input → Input
  | some c :: rest => if isBlank c then skipBlanks rest else some c :: rest
  | input => input

def digit? : Symbol → Option Nat
  | some c => if c.isDigit then some (c.toNat - '0'.toNat) else none
  | none => none

def keyword : List Char → Input → Except Fault Input
  | [], rest => .ok rest
  | _ :: _, [] => .error .truncated
  | c :: word, symbol :: rest => if symbol = some c then keyword word rest else .error .malformed

def runsOut : Nat → Input → Bool
  | 0, _ => false
  | _ + 1, [] => true
  | count + 1, symbol :: rest => runsOut (count + 1 - (symbol.elim 1 fun c => c.utf8Size)) rest

def hexCode : List Symbol → Option Nat
  | [] => some 0
  | some c :: rest => do
    let value ← Bytes.hexValue? c
    let following ← hexCode rest
    return value * Nat.pow 16 rest.length + following
  | none :: _ => none

def escapeCode (input : Input) : Except Fault (Nat × Input) :=
  if runsOut 4 input then .error .truncated
  else
    match hexCode (input.take 4) with
    | some code => .ok (code, input.drop 4)
    | none => .error .malformed

def isHighSurrogate (code : Nat) : Bool := 0xD800 ≤ code && code ≤ 0xDBFF
def isLowSurrogate (code : Nat) : Bool := 0xDC00 ≤ code && code ≤ 0xDFFF

/-- The character of a unicode escape, of two of them for a surrogate pair. -/
def unicodeEscape (input : Input) : Except Fault (Char × Input) := do
  let (high, rest) ← escapeCode input
  if isLowSurrogate high then .error .malformed
  else if isHighSurrogate high then
    match rest with
    | [] => .error .truncated
    | some '\\' :: [] => .error .truncated
    | some '\\' :: some 'u' :: rest =>
      let (low, rest) ← escapeCode rest
      if isLowSurrogate low then
        return (Char.ofNat (0x10000 + (high - 0xD800) * 0x400 + (low - 0xDC00)), rest)
      else .error .malformed
    | _ => .error .malformed
  else return (Char.ofNat high, rest)

def simpleEscape? (c : Char) : Option Char :=
  if c = '"' then some '"'
  else if c = '\\' then some '\\'
  else if c = '/' then some '/'
  else if c = 'b' then some '\x08'
  else if c = 'f' then some '\x0c'
  else if c = 'n' then some '\n'
  else if c = 'r' then some '\r'
  else if c = 't' then some '\t'
  else none

/-- Characters up to the closing quote, newest first; bytes that are no text spoil the whole string, which
is noticed at its end. -/
def stringBody : Nat → Bool → List Char → Input → Except Fault (String × Input)
  | 0, _, _, _ => .error .truncated
  | _ + 1, _, _, [] => .error .truncated
  | fuel + 1, _, taken, none :: rest => stringBody fuel true taken rest
  | fuel + 1, spoiled, taken, some c :: rest =>
    if c = '"' then
      if spoiled then .error .malformed else .ok (String.ofList taken.reverse, rest)
    else if c = '\\' then
      match rest with
      | [] => .error .truncated
      | some 'u' :: rest => do
        let (decoded, rest) ← unicodeEscape rest
        stringBody fuel spoiled (decoded :: taken) rest
      | some letter :: rest =>
        match simpleEscape? letter with
        | some decoded => stringBody fuel spoiled (decoded :: taken) rest
        | none => .error .malformed
      | none :: _ => .error .malformed
    else if c.toNat < 0x20 then .error .malformed
    else stringBody fuel spoiled (c :: taken) rest

def string (input : Input) : Except Fault (String × Input) := stringBody (input.length + 1) false [] input

def powerOfTen (n : Nat) : Binary64 := .ofNat (tenTo n)

/-- `value · 10 ^ exponent` by one rounded product or quotient, more only beyond `10 ^ 308`. -/
def scale : Nat → Binary64 → Int → Except Fault Binary64
  | 0, value, _ => .ok value
  | fuel + 1, value, exponent =>
    if exponent.natAbs ≤ 308 then
      if 0 ≤ exponent then
        let scaled := value.mul (powerOfTen exponent.natAbs)
        if scaled.isInfinite then .error .malformed else .ok scaled
      else .ok (value.div (powerOfTen exponent.natAbs))
    else if value = .ofNat 0 then .ok value
    else if 0 ≤ exponent then .error .malformed
    else scale fuel (value.div (powerOfTen 308)) (exponent + 308)

def float (negative : Bool) (significand : Nat) (exponent : Int) : Except Fault Binary64 := do
  let value ← scale 8 (.ofNat significand) exponent
  return if negative then value.negate else value

def skipDigits : Input → Input
  | symbol :: rest => if (digit? symbol).isSome then skipDigits rest else symbol :: rest
  | [] => []

def exponentLimit : Nat := 2147483647

def clampExponent (exponent : Int) : Int :=
  max (-2147483648) (min 2147483647 exponent)

def exponentDigits (negative : Bool) (significand : Nat) (start : Int) (raised : Bool) :
    Nat → Input → Except Fault (Binary64 × Input)
  | value, symbol :: rest =>
    match digit? symbol with
    | some d =>
      if value * 10 + d > exponentLimit then
        if significand ≠ 0 ∧ raised then .error .malformed
        else .ok ((if negative then (Binary64.ofNat 0).negate else Binary64.ofNat 0), skipDigits rest)
      else exponentDigits negative significand start raised (value * 10 + d) rest
    | none => do
      let exponent := clampExponent (if raised then start + value else start - value)
      return (← float negative significand exponent, symbol :: rest)
  | value, [] => do
    let exponent := clampExponent (if raised then start + value else start - value)
    return (← float negative significand exponent, [])

def exponentPart (negative : Bool) (significand : Nat) (start : Int) (input : Input) :
    Except Fault (Binary64 × Input) :=
  let (raised, input) :=
    match input with
    | some '+' :: rest => (true, rest)
    | some '-' :: rest => (false, rest)
    | _ => (true, input)
  match input with
  | [] => .error .truncated
  | symbol :: rest =>
    match digit? symbol with
    | some d => exponentDigits negative significand start raised d rest
    | none => .error .malformed

/-- What ends a number that has no more digits: an exponent, or nothing. -/
def afterDigits (negative : Bool) (significand : Nat) (exponent : Int) (input : Input) :
    Except Fault (Binary64 × Input) :=
  match input with
  | some 'e' :: rest | some 'E' :: rest => exponentPart negative significand exponent rest
  | _ => do return (← float negative significand exponent, input)

/-- Significands stay below this bound; further digits only move the exponent. -/
def significandBound : Nat := twoTo 64

/-- Digits after the point; `taken` counts those that fitted into the significand. -/
def fractionDigits (negative : Bool) (start : Int) : Nat → Nat → Input → Except Fault (Binary64 × Input)
  | significand, taken, symbol :: rest =>
    match digit? symbol with
    | some d =>
      if significand * 10 + d < significandBound then
        fractionDigits negative start (significand * 10 + d) (taken + 1) rest
      else afterDigits negative significand (start - taken) (skipDigits rest)
    | none =>
      if taken = 0 then .error .malformed
      else afterDigits negative significand (start - taken) (symbol :: rest)
  | significand, taken, [] =>
    if taken = 0 then .error .truncated
    else afterDigits negative significand (start - taken) []

/-- Digits before the point that no longer fit into the significand. -/
def surplusDigits (negative : Bool) (significand : Nat) : Nat → Input → Except Fault (Binary64 × Input)
  | dropped, symbol :: rest =>
    if (digit? symbol).isSome then surplusDigits negative significand (dropped + 1) rest
    else if symbol = some '.' then fractionDigits negative dropped significand 0 rest
    else afterDigits negative significand dropped (symbol :: rest)
  | dropped, [] => afterDigits negative significand dropped []

/-- An integer where it is one of 64 bits and not the negative zero. -/
def wholeNumber (negative : Bool) (significand : Nat) : Json :=
  if !negative then .integer significand
  else if 0 < significand ∧ significand ≤ twoTo 63 then .integer (-(significand : Int))
  else .number (Binary64.ofNat significand).negate

def afterWhole (negative : Bool) (significand : Nat) (input : Input) : Except Fault (Json × Input) :=
  match input with
  | some '.' :: rest => do
    let (value, rest) ← fractionDigits negative 0 significand 0 rest
    return (.number value, rest)
  | some 'e' :: rest | some 'E' :: rest => do
    let (value, rest) ← exponentPart negative significand 0 rest
    return (.number value, rest)
  | _ => .ok (wholeNumber negative significand, input)

def wholeDigits (negative : Bool) : Nat → Input → Except Fault (Json × Input)
  | significand, symbol :: rest =>
    match digit? symbol with
    | some d =>
      if significand * 10 + d < significandBound then
        wholeDigits negative (significand * 10 + d) rest
      else do
        let (value, rest) ← surplusDigits negative significand 0 (symbol :: rest)
        return (.number value, rest)
    | none => afterWhole negative significand (symbol :: rest)
  | significand, [] => afterWhole negative significand []

/-- A number, after its sign. A leading zero stands alone. -/
def number (negative : Bool) (input : Input) : Except Fault (Json × Input) :=
  match input with
  | [] => .error .truncated
  | symbol :: rest =>
    match digit? symbol with
    | none => .error .malformed
    | some 0 =>
      match rest with
      | next :: _ => if (digit? next).isSome then .error .malformed else afterWhole negative 0 rest
      | [] => afterWhole negative 0 rest
    | some d => wholeDigits negative d rest

def scalar (c : Char) (rest : Input) : Except Fault (Json × Input) :=
  if c = 'n' then do return (.null, ← keyword ['u', 'l', 'l'] rest)
  else if c = 't' then do return (.bool true, ← keyword ['r', 'u', 'e'] rest)
  else if c = 'f' then do return (.bool false, ← keyword ['a', 'l', 's', 'e'] rest)
  else if c = '-' then number true rest
  else if c.isDigit then number false (some c :: rest)
  else .error .malformed

def colon (input : Input) : Except Fault Input :=
  match skipBlanks input with
  | some ':' :: rest => .ok rest
  | [] => .error .truncated
  | _ => .error .malformed

/-- What follows in an array or object: another item, or what stands behind its end. -/
inductive Next where
  | item (rest : Input)
  | closed (rest : Input)

def nextElement (first : Bool) (input : Input) : Except Fault Next :=
  match skipBlanks input with
  | [] => .error .truncated
  | some ']' :: rest => .ok (.closed rest)
  | some ',' :: rest =>
    if first then .ok (.item (some ',' :: rest))
    else
      match skipBlanks rest with
      | [] => .error .truncated
      | some ']' :: _ => .error .malformed
      | rest => .ok (.item rest)
  | rest => if first then .ok (.item rest) else .error .malformed

def nextKey (first : Bool) (input : Input) : Except Fault Next :=
  match skipBlanks input with
  | [] => .error .truncated
  | some '}' :: rest => .ok (.closed rest)
  | some ',' :: rest =>
    if first then .error .malformed
    else
      match skipBlanks rest with
      | [] => .error .truncated
      | some '"' :: rest => .ok (.item rest)
      | _ => .error .malformed
  | some '"' :: rest => if first then .ok (.item rest) else .error .malformed
  | _ => .error .malformed

mutual

/-- A value, at most `depth` levels deep. -/
def value : Nat → Nat → Input → Except Fault (Json × Input)
  | 0, _, _ => .error .truncated
  | fuel + 1, depth, input =>
    match skipBlanks input with
    | [] => .error .truncated
    | some '"' :: rest => do
      let (text, rest) ← string rest
      return (.string text, rest)
    | some '[' :: rest =>
      match depth with
      | 0 => .error .malformed
      | depth + 1 => do
        let (elements, rest) ← elements fuel depth true rest
        return (.array elements, rest)
    | some '{' :: rest =>
      match depth with
      | 0 => .error .malformed
      | depth + 1 => do
        let (fields, rest) ← fields fuel depth true rest
        return (.object fields, rest)
    | some c :: rest => scalar c rest
    | none :: _ => .error .malformed

def elements : Nat → Nat → Bool → Input → Except Fault (List Json × Input)
  | 0, _, _, _ => .error .truncated
  | fuel + 1, depth, first, input => do
    match ← nextElement first input with
    | .closed rest => return ([], rest)
    | .item input =>
      let (element, rest) ← value fuel depth input
      let (others, rest) ← elements fuel depth false rest
      return (element :: others, rest)

def fields : Nat → Nat → Bool → Input → Except Fault (List (String × Json) × Input)
  | 0, _, _, _ => .error .truncated
  | fuel + 1, depth, first, input => do
    match ← nextKey first input with
    | .closed rest => return ([], rest)
    | .item input =>
      let (key, rest) ← string input
      let rest ← colon rest
      let (field, rest) ← value fuel depth rest
      let (others, rest) ← fields fuel depth false rest
      return ((key, field) :: others, rest)

end

/-- Enough fuel for any value in the input: every step reads a symbol. -/
def enough (input : Input) : Nat := 2 * input.length + 2

def finish {α : Type} (result : Except Fault (α × Input)) : Except Fault α := do
  let (value, rest) ← result
  match skipBlanks rest with
  | [] => return value
  | _ => .error .malformed

end Reader

open Reader in
def ofSymbols (input : List Symbol) : Except Fault Json :=
  finish (value (enough input) maxDepth input)

def ofBytes (bytes : Bytes) : Except Fault Json := ofSymbols bytes.symbols

def ofString (text : String) : Except Fault Json := ofSymbols (text.toList.map some)

end Dispatch.Json
