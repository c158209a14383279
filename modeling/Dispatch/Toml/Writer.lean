import Dispatch.Toml.Reader

/-!
# Writing TOML

A document is a list of tables with strings, integers and truth values. A string is written in the first
form that needs no escape: basic, literal, basic of several lines, literal of several lines; where none
will do it is written with escapes.
-/

set_option autoImplicit false

namespace Dispatch.Toml.Writer

def longestRun (c : Char) : Nat → List Char → Nat
  | run, [] => run
  | run, d :: rest => if d = c then longestRun c (run + 1) rest else max run (longestRun c 0 rest)

/-- Control characters other than tab and line end, which have to be escaped. -/
def isControl (c : Char) : Bool := (c.toNat < 0x20 && c != '\t' && c != '\n') || c.toNat == 0x7F

inductive Style where
  | basic
  | literal
  | manyLines
  | manyLinesLiteral
  deriving DecidableEq, Repr

def styleOf (text : List Char) : Style :=
  let controls := text.any isControl
  let backslash := text.contains '\\'
  let newline := text.contains '\n'
  let doubles := longestRun '"' 0 text
  let singles := longestRun '\'' 0 text
  if !controls ∧ !backslash ∧ doubles = 0 ∧ !newline then .basic
  else if !controls ∧ singles = 0 ∧ !newline then .literal
  else if !controls ∧ !backslash ∧ doubles ≤ 2 then .manyLines
  else if !controls ∧ singles ≤ 2 then .manyLinesLiteral
  else if newline then .manyLines
  else .basic

def upperHex (n : Nat) : Char := (Nat.digitChar n).toUpper

/-- Escapes all but line ends and quotes. -/
def escaped (c : Char) : List Char :=
  if c = '\x08' then ['\\', 'b']
  else if c = '\t' then ['\\', 't']
  else if c = '\x0c' then ['\\', 'f']
  else if c = '\r' then ['\\', 'r']
  else if c = '\\' then ['\\', '\\']
  else if c.toNat < 0x20 ∨ c.toNat = 0x7F then
    ['\\', 'u', '0', '0', upperHex (c.toNat / 16), upperHex (c.toNat % 16)]
  else [c]

def oneLine (text : List Char) : List Char :=
  text.flatMap fun c =>
    if c = '"' then ['\\', '"'] else if c = '\n' then ['\\', 'n'] else escaped c

/-- The body of a string of several lines; at most two quotes stand next to each other. -/
def severalLines : Nat → List Char → List Char
  | _, [] => []
  | run, c :: rest =>
    if c = '"' then
      if run < 2 then '"' :: severalLines (run + 1) rest else '\\' :: '"' :: severalLines 0 rest
    else if c = '\n' then '\n' :: severalLines 0 rest
    else
      let piece := escaped c
      piece ++ severalLines 0 rest

def string (text : String) : List Char :=
  let chars := text.toList
  let opening := if chars.contains '\n' then ['\n'] else []
  match styleOf chars with
  | .basic => '"' :: (oneLine chars ++ ['"'])
  | .literal => '\'' :: (chars ++ ['\''])
  | .manyLines => ['"', '"', '"'] ++ opening ++ severalLines 0 chars ++ ['"', '"', '"']
  | .manyLinesLiteral => ['\'', '\'', '\''] ++ opening ++ chars ++ ['\'', '\'', '\'']

def scalar : Value → List Char
  | .string text => string text
  | .integer n => Json.integerText n
  | .boolean b => if b then "true".toList else "false".toList
  | _ => []

def assignment (key : String) (value : Value) : List Char :=
  key.toList ++ " = ".toList ++ scalar value ++ ['\n']

structure Table where
  name : String
  assignments : List (String × Value)

def table (t : Table) : List Char :=
  '[' :: (t.name.toList ++ [']', '\n']) ++ t.assignments.flatMap fun a => assignment a.1 a.2

def document (tables : List Table) : String :=
  String.ofList (List.intercalate ['\n'] (tables.map table))

end Dispatch.Toml.Writer
