/-!
# Bytes and text

Payloads are bytes. `decode?` reads them as UTF-8 text, `pieces` reads as much of them as is text and
keeps the stretches that are not. In `symbols` every byte of such a stretch has its place, and `lossy`
puts one replacement character there.
-/

set_option autoImplicit false

namespace Dispatch

abbrev Bytes := List UInt8

/-- One symbol of a byte sequence: a character, or `none` for a byte that is no text. -/
abbrev Symbol := Option Char

namespace Bytes

def ofString (text : String) : Bytes := text.toUTF8.data.toList

def decode? (bytes : Bytes) : Option String := String.fromUTF8? ⟨bytes.toArray⟩

/-- Number of following bytes a leading byte announces, with the range allowed for the first of them. -/
def announced (lead : Nat) : Option (Nat × Nat × Nat) :=
  if 0xC2 ≤ lead ∧ lead ≤ 0xDF then some (1, 0x80, 0xBF)
  else if lead = 0xE0 then some (2, 0xA0, 0xBF)
  else if lead = 0xED then some (2, 0x80, 0x9F)
  else if 0xE1 ≤ lead ∧ lead ≤ 0xEF then some (2, 0x80, 0xBF)
  else if lead = 0xF0 then some (3, 0x90, 0xBF)
  else if lead = 0xF4 then some (3, 0x80, 0x8F)
  else if 0xF1 ≤ lead ∧ lead ≤ 0xF3 then some (3, 0x80, 0xBF)
  else none

/-- A character, or a stretch of so many bytes that begins none. -/
inductive Piece where
  | character (c : Char)
  | stray (size : Nat)
  deriving DecidableEq, Repr

/-- Reads up to `missing` continuation bytes: the completed code if all are there, how many were read,
and the rest. -/
def continued : Nat → Nat → Nat → Nat → Nat → Bytes → Option Nat × Nat × Bytes
  | 0, _, _, code, read, rest => (some code, read, rest)
  | missing + 1, low, high, code, read, byte :: rest =>
    if low ≤ byte.toNat ∧ byte.toNat ≤ high then
      continued missing 0x80 0xBF (code * 64 + byte.toNat % 64) (read + 1) rest
    else (none, read, byte :: rest)
  | _ + 1, _, _, _, read, [] => (none, read, [])

def leadBits (following lead : Nat) : Nat :=
  if following = 1 then lead % 32 else if following = 2 then lead % 16 else lead % 8

def piecesLoop : Nat → Bytes → List Piece
  | 0, _ => []
  | _ + 1, [] => []
  | fuel + 1, byte :: rest =>
    let lead := byte.toNat
    if lead < 0x80 then .character (Char.ofNat lead) :: piecesLoop fuel rest
    else
      match announced lead with
      | none => .stray 1 :: piecesLoop fuel rest
      | some (following, low, high) =>
        match continued following low high (leadBits following lead) 0 rest with
        | (some code, _, rest) => .character (Char.ofNat code) :: piecesLoop fuel rest
        | (none, read, rest) => .stray (read + 1) :: piecesLoop fuel rest

/-- The characters of a byte sequence, with each maximal stretch that begins no character. -/
def pieces (bytes : Bytes) : List Piece :=
  match decode? bytes with
  | some text => text.toList.map .character
  | none => piecesLoop bytes.length bytes

def symbols (bytes : Bytes) : List Symbol :=
  bytes.pieces.flatMap fun
    | .character c => [some c]
    | .stray size => List.replicate size none

/-- Text with the replacement character for whatever is no text. -/
def lossy (bytes : Bytes) : String :=
  String.ofList <| bytes.pieces.map fun
    | .character c => c
    | .stray _ => '\uFFFD'

def hexDigit (n : Nat) : Char := (Nat.digitChar n)

def hex (bytes : Bytes) : String :=
  String.ofList (bytes.flatMap fun byte => [hexDigit (byte.toNat / 16), hexDigit (byte.toNat % 16)])

def hexValue? (c : Char) : Option Nat :=
  if '0' ≤ c ∧ c ≤ '9' then some (c.toNat - '0'.toNat)
  else if 'a' ≤ c ∧ c ≤ 'f' then some (c.toNat - 'a'.toNat + 10)
  else if 'A' ≤ c ∧ c ≤ 'F' then some (c.toNat - 'A'.toNat + 10)
  else none

def ofHexDigits : List Char → Bytes
  | high :: low :: rest =>
    match hexValue? high, hexValue? low with
    | some h, some l => UInt8.ofNat (h * 16 + l) :: ofHexDigits rest
    | _, _ => ofHexDigits rest
  | _ => []

theorem decode?_ofString (text : String) : decode? (ofString text) = some text := by
  simp [decode?, ofString, String.fromUTF8?, String.fromUTF8, text.isValidUTF8]

end Bytes

end Dispatch
