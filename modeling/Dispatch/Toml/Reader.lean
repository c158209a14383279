import Dispatch.Json.Value

/-!
# Reading TOML

A document is read line by line into statements: a table header, the header of an array of tables, or
an assignment to a dotted key. What the statements mean together is decided in `Dispatch.Toml.Document`.
A reader tells only whether there is a result.
-/

set_option autoImplicit false

namespace Dispatch.Toml

/-- A value as it is written. A number that is larger than anybody can read is `excessive`: it is in order
as long as nobody looks at it. -/
inductive Value where
  | string (text : String)
  | integer (n : Int)
  | float (x : Binary64)
  | excessive
  | boolean (b : Bool)
  | moment (text : String)
  | array (elements : List Value)
  | table (assignments : List (List String × Value))
  deriving Repr, Inhabited

inductive Statement where
  | header (path : List String)
  | arrayHeader (path : List String)
  | assign (path : List String) (value : Value)
  deriving Repr, Inhabited

namespace Reader

def isBlank (c : Char) : Bool := c == ' ' || c == '\t'

def skipBlanks (input : List Char) : List Char := input.dropWhile isBlank

def isForbidden (c : Char) : Bool := (c.toNat < 0x20 && c != '\t') || c.toNat == 0x7F

def newline? : List Char → Option (List Char)
  | '\n' :: rest => some rest
  | '\r' :: '\n' :: rest => some rest
  | _ => none

def comment : List Char → Option (List Char)
  | '#' :: rest =>
    let body := rest.takeWhile fun c => c != '\n' && c != '\r'
    if body.any isForbidden then none else some (rest.drop body.length)
  | input => some input

/-- Moves over blanks, comments and line ends, at most so many lines. -/
def skipLines : Nat → List Char → Option (List Char)
  | 0, input => some input
  | fuel + 1, input => do
    let rest ← comment (skipBlanks input)
    match newline? rest with
    | some rest => skipLines fuel rest
    | none => some rest

def endOfLine (input : List Char) : Option (List Char) := do
  let rest ← comment (skipBlanks input)
  if rest.isEmpty then some [] else newline? rest

/-! ## Strings -/

def hexCode (digits : List Char) : Option Nat :=
  digits.foldl (fun code c => do return (← code) * 16 + (← Bytes.hexValue? c)) (some 0)

def unicodeEscape (count : Nat) (input : List Char) : Option (Char × List Char) := do
  let digits := input.take count
  if digits.length < count then none
  let code ← hexCode digits
  if h : code.isValidChar then some (Char.ofNatAux code h, input.drop count) else none

def simpleEscape? (c : Char) : Option Char :=
  if c = 'b' then some '\x08'
  else if c = 't' then some '\t'
  else if c = 'n' then some '\n'
  else if c = 'e' then some '\x1b'
  else if c = 'f' then some '\x0c'
  else if c = 'r' then some '\r'
  else if c = '"' then some '"'
  else if c = '\\' then some '\\'
  else none

def escape : List Char → Option (Char × List Char)
  | 'x' :: rest => unicodeEscape 2 rest
  | 'u' :: rest => unicodeEscape 4 rest
  | 'U' :: rest => unicodeEscape 8 rest
  | c :: rest => (simpleEscape? c).map fun decoded => (decoded, rest)
  | [] => none

def basic : Nat → List Char → List Char → Option (String × List Char)
  | 0, _, _ => none
  | _ + 1, _, [] => none
  | fuel + 1, taken, c :: rest =>
    if c = '"' then some (String.ofList taken.reverse, rest)
    else if c = '\\' then do
      let (decoded, rest) ← escape rest
      basic fuel (decoded :: taken) rest
    else if isForbidden c then none
    else basic fuel (c :: taken) rest

def literal (input : List Char) : Option (String × List Char) :=
  let body := input.takeWhile fun c => c != '\'' && !isForbidden c
  match input.drop body.length with
  | '\'' :: rest => some (String.ofList body, rest)
  | _ => none

/-- Closes a string of several lines: three quotes, and up to two more that belong to it. -/
def closing (quote : Char) (input : List Char) : Option (List Char × List Char) :=
  let run := input.takeWhile (· == quote)
  if run.length < 3 then none
  else
    let kept := min (run.length - 3) 2
    some (List.replicate kept quote, input.drop (kept + 3))

/-- Skips what a backslash at the end of a line joins. -/
def skipJoined : List Char → List Char
  | '\r' :: '\n' :: rest => skipJoined rest
  | c :: rest => if isBlank c || c == '\n' then skipJoined rest else c :: rest
  | [] => []

def endsLine (c : Char) (rest : List Char) : Bool :=
  c == '\n' || (c == '\r' && rest.head? == some '\n')

/-- A string of several lines, after its opening. `taken` is newest first. -/
def manyLines : Nat → List Char → List Char → Option (String × List Char)
  | 0, _, _ => none
  | _ + 1, _, [] => none
  | fuel + 1, taken, c :: rest =>
    if c = '"' then
      match closing '"' (c :: rest) with
      | some (kept, rest) => some (String.ofList (taken.reverse ++ kept), rest)
      | none => manyLines fuel (c :: taken) rest
    else if c = '\\' then
      let blanks := rest.takeWhile isBlank
      match newline? (rest.drop blanks.length) with
      | some rest => manyLines fuel taken (skipJoined rest)
      | none => do
        let (decoded, rest) ← escape rest
        manyLines fuel (decoded :: taken) rest
    else if endsLine c rest || !isForbidden c then manyLines fuel (c :: taken) rest
    else none

def manyLinesLiteral : Nat → List Char → List Char → Option (String × List Char)
  | 0, _, _ => none
  | _ + 1, _, [] => none
  | fuel + 1, taken, c :: rest =>
    match (if c = '\'' then closing '\'' (c :: rest) else none) with
    | some (kept, rest) => some (String.ofList (taken.reverse ++ kept), rest)
    | none =>
      if endsLine c rest || !isForbidden c then manyLinesLiteral fuel (c :: taken) rest else none

/-- A string of several lines leaves out the line end right after its opening. -/
def dropFirstNewline (input : List Char) : List Char := (newline? input).getD input

def string : List Char → Option (String × List Char)
  | '"' :: '"' :: '"' :: rest =>
    let rest := dropFirstNewline rest
    manyLines (rest.length + 1) [] rest
  | '\'' :: '\'' :: '\'' :: rest =>
    let rest := dropFirstNewline rest
    manyLinesLiteral (rest.length + 1) [] rest
  | '"' :: rest => basic (rest.length + 1) [] rest
  | '\'' :: rest => literal rest
  | _ => none

/-! ## Keys -/

def isBare (c : Char) : Bool := c.isAlphanum || c == '_' || c == '-'

/-- One part of a key; its strings stand on one line. -/
def simpleKey (input : List Char) : Option (String × List Char) :=
  match input with
  | '"' :: rest => basic (rest.length + 1) [] rest
  | '\'' :: rest => literal rest
  | _ =>
    let name := input.takeWhile isBare
    if name.isEmpty then none else some (String.ofList name, input.drop name.length)

/-- Levels that a key may have, and arrays and inline tables inside one another. -/
def maxDepth : Nat := 80

/-- A dotted key of at most so many parts, with blanks around its dots. -/
def keyOf : Nat → List Char → Option (List String × List Char)
  | 0, _ => none
  | parts + 1, input => do
    let (first, rest) ← simpleKey (skipBlanks input)
    match skipBlanks rest with
    | '.' :: rest => do
      let (others, rest) ← keyOf parts rest
      return (first :: others, rest)
    | rest => return ([first], rest)

def key (input : List Char) : Option (List String × List Char) := keyOf maxDepth input

/-! ## Numbers and moments -/

/-- Digits of a base, single underscores standing between digits only. -/
def digitsOf (base : Nat) (text : List Char) : Option (List Nat) :=
  let value (c : Char) : Option Nat := (Bytes.hexValue? c).filter (· < base)
  let rec go : Bool → List Char → Option (List Nat)
    | ready, [] => if ready then some [] else none
    | ready, c :: rest =>
      if c = '_' then (if ready then go false rest else none)
      else do return (← value c) :: (← go true rest)
  go false text

def numeral (base : Nat) (digits : List Nat) : Nat := digits.foldl (fun n d => n * base + d) 0

/-- Integers can be read up to 128 bits, signed or not. -/
def bounded (n : Int) : Value :=
  if (-n).toNat ≤ twoTo 127 ∧ n.toNat < twoTo 128 then .integer n else .excessive

def based (base : Nat) (text : List Char) : Option Value :=
  (digitsOf base text).map fun digits => bounded (numeral base digits)

def signed (negative : Bool) (n : Nat) : Int := if negative then -(n : Int) else n

def decimalDigits (text : List Char) : Option (List Nat) := do
  let digits ← digitsOf 10 text
  if digits.head? = some 0 ∧ digits.length > 1 then none else some digits

/-- The number `digits · 10 ^ power`, which is only worked out where it is neither too large to be told
from infinity nor too small to be told from zero. -/
def decimal (negative : Bool) (digits : Nat) (power : Int) : Value :=
  let leading : Int := (Decimal.digits digits).length + power
  if digits = 0 ∨ leading < -400 then .float (.ofRatio negative 0 1)
  else if leading > 400 then .excessive
  else
    let (above, below) := Decimal.scaledBy digits 1 (-power)
    let x := Binary64.ofRatio negative above below
    if x.isInfinite then .excessive else .float x

def floatOf (negative : Bool) (text : List Char) : Option Value := do
  let isMark (c : Char) : Bool := c == 'e' || c == 'E'
  let mantissa := text.takeWhile (!isMark ·)
  let whole := mantissa.takeWhile (· != '.')
  let wholeDigits ← decimalDigits whole
  let fraction ←
    if mantissa.length = whole.length then some []
    else digitsOf 10 (mantissa.drop (whole.length + 1))
  let exponent : Int ←
    match text.drop mantissa.length with
    | [] => if mantissa.length = whole.length then none else some 0
    | _ :: '-' :: rest => (digitsOf 10 rest).map fun ds => -(numeral 10 ds : Int)
    | _ :: '+' :: rest => (digitsOf 10 rest).map fun ds => (numeral 10 ds : Int)
    | _ :: rest => (digitsOf 10 rest).map fun ds => (numeral 10 ds : Int)
  return decimal negative (numeral 10 (wholeDigits ++ fraction)) (exponent - fraction.length)

def number (text : List Char) : Option Value :=
  let (signs, body) := text.span fun c => c == '+' || c == '-'
  let negative := signs == ['-']
  if signs.length > 1 then none
  else
    match body with
    | ['i', 'n', 'f'] => some (.float (.infinite negative))
    | ['n', 'a', 'n'] => some (.float .nan)
    | '0' :: 'x' :: digits => if signs.isEmpty then based 16 digits else none
    | '0' :: 'o' :: digits => if signs.isEmpty then based 8 digits else none
    | '0' :: 'b' :: digits => if signs.isEmpty then based 2 digits else none
    | _ =>
      if body.any fun c => c == '.' || c == 'e' || c == 'E' then floatOf negative body
      else (decimalDigits body).map fun digits => bounded (signed negative (numeral 10 digits))

def field (count low high : Nat) (input : List Char) : Option (Nat × List Char) :=
  let digits := input.take count
  if digits.length = count ∧ digits.all Char.isDigit then
    let n := numeral 10 (digits.map fun c => c.toNat - '0'.toNat)
    if low ≤ n ∧ n ≤ high then some (n, input.drop count) else none
  else none

def expect (c : Char) : List Char → Option (List Char)
  | d :: rest => if c = d then some rest else none
  | [] => none

def daysIn (year month : Nat) : Nat :=
  if month = 2 then (if (year % 4 = 0 ∧ year % 100 ≠ 0) ∨ year % 400 = 0 then 29 else 28)
  else if month = 4 ∨ month = 6 ∨ month = 9 ∨ month = 11 then 30 else 31

def date (input : List Char) : Option (List Char) := do
  let (year, rest) ← field 4 0 9999 input
  let (month, rest) ← field 2 1 12 (← expect '-' rest)
  let (_, rest) ← field 2 1 (daysIn year month) (← expect '-' rest)
  return rest

def seconds (input : List Char) : Option (List Char) := do
  let (_, rest) ← field 2 0 60 input
  match rest with
  | '.' :: rest =>
    let places := rest.takeWhile Char.isDigit
    if places.isEmpty then none else some (rest.drop places.length)
  | _ => some rest

def clock (input : List Char) : Option (List Char) := do
  let (_, rest) ← field 2 0 23 input
  let (_, rest) ← field 2 0 59 (← expect ':' rest)
  match rest with
  | ':' :: rest => seconds rest
  | _ => some rest

def offset (input : List Char) : Option (List Char) :=
  match input with
  | [] => some []
  | 'Z' :: rest | 'z' :: rest => some rest
  | '+' :: rest | '-' :: rest => do
    let (_, rest) ← field 2 0 23 rest
    let (_, rest) ← field 2 0 59 (← expect ':' rest)
    return rest
  | _ => none

def isMoment (text : List Char) : Bool :=
  match date text with
  | some [] => true
  | some (c :: rest) => (c == 'T' || c == 't' || c == ' ') && ((clock rest).bind offset) == some []
  | none => clock text == some []

def isScalarChar (c : Char) : Bool :=
  c.isAlphanum || c == '+' || c == '-' || c == '_' || c == '.' || c == ':'

/-- The characters of a number, keyword or moment; a date takes a following time along. -/
def scalarText (input : List Char) : List Char × List Char :=
  let (text, rest) := input.span isScalarChar
  match rest with
  | ' ' :: c :: more =>
    if date text == some [] && c.isDigit then
      let (time, rest) := (c :: more).span isScalarChar
      (text ++ ' ' :: time, rest)
    else (text, rest)
  | _ => (text, rest)

def scalar (input : List Char) : Option (Value × List Char) :=
  let (text, rest) := scalarText input
  if text = "true".toList then some (.boolean true, rest)
  else if text = "false".toList then some (.boolean false, rest)
  else if isMoment text then some (.moment (String.ofList text), rest)
  else (number text).map fun value => (value, rest)

/-! ## Values -/

def skipSpace (input : List Char) : Option (List Char) := skipLines (input.length + 1) input

mutual

def value : Nat → List Char → Option (Value × List Char)
  | 0, _ => none
  | fuel + 1, input =>
    match input with
    | '"' :: _ | '\'' :: _ => (string input).map fun (text, rest) => (.string text, rest)
    | '[' :: rest => do
      let (elements, rest) ← elements fuel rest
      return (.array elements, rest)
    | '{' :: rest => do
      let (assignments, rest) ← assignments fuel rest
      return (.table assignments, rest)
    | _ => scalar input

def elements : Nat → List Char → Option (List Value × List Char)
  | 0, _ => none
  | fuel + 1, input => do
    match ← skipSpace input with
    | ']' :: rest => return ([], rest)
    | input =>
      let (element, rest) ← value fuel input
      match ← skipSpace rest with
      | ',' :: rest =>
        let (others, rest) ← elements fuel rest
        return (element :: others, rest)
      | ']' :: rest => return ([element], rest)
      | _ => none

/-- Assignments up to the closing brace; a comma may follow the last one. Lines may end anywhere but
inside a key. -/
def assignments : Nat → List Char → Option (List (List String × Value) × List Char)
  | 0, _ => none
  | fuel + 1, input => do
    match ← skipSpace input with
    | '}' :: rest => return ([], rest)
    | input =>
      let (path, rest) ← key input
      let rest ← expect '=' (← skipSpace rest)
      let (assigned, rest) ← value fuel (← skipSpace rest)
      match ← skipSpace rest with
      | ',' :: rest =>
        let (others, rest) ← assignments fuel rest
        return ((path, assigned) :: others, rest)
      | '}' :: rest => return ([(path, assigned)], rest)
      | _ => none

end

mutual

def depth : Value → Nat
  | .array elements => depthOfElements elements + 1
  | .table assignments => depthOfAssignments assignments + 1
  | _ => 0

def depthOfElements : List Value → Nat
  | [] => 0
  | element :: rest => max (depth element) (depthOfElements rest)

def depthOfAssignments : List (List String × Value) → Nat
  | [] => 0
  | (_, assigned) :: rest => max (depth assigned) (depthOfAssignments rest)

end

def statement (input : List Char) : Option (Statement × List Char) :=
  match input with
  | '[' :: '[' :: rest => do
    let (path, rest) ← key rest
    match rest with
    | ']' :: ']' :: rest => return (.arrayHeader path, rest)
    | _ => none
  | '[' :: rest => do
    let (path, rest) ← key rest
    match rest with
    | ']' :: rest => return (.header path, rest)
    | _ => none
  | _ => do
    let (path, rest) ← key input
    let rest ← expect '=' rest
    let (assigned, rest) ← value (rest.length + 1) (skipBlanks rest)
    if depth assigned > maxDepth then none else return (.assign path assigned, rest)

def statements : Nat → List Char → Option (List Statement)
  | 0, _ => none
  | fuel + 1, input => do
    match ← skipSpace input with
    | [] => return []
    | input =>
      let (first, rest) ← statement input
      return first :: (← statements fuel (← endOfLine rest))

end Reader

/-- The statements of a document, which may begin with a byte order mark. -/
def statements? (text : String) : Option (List Statement) :=
  let input :=
    match text.toList with
    | '\uFEFF' :: rest => rest
    | input => input
  Reader.statements (input.length + 1) input

end Dispatch.Toml
