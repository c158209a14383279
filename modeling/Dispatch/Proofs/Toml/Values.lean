import Dispatch.Proofs.Text.Numerals
import Dispatch.Proofs.Toml.Strings
import Mathlib.Data.List.TakeDrop

set_option autoImplicit false

namespace Dispatch.Toml

open Reader Writer

theorem digit_ne {c d : Char} (digit : c.isDigit = true) (other : d.isDigit = false) : c ≠ d := by
  rintro rfl
  rw [digit] at other
  cases other

section Digits

variable {text : List Char} (digits : ∀ c ∈ text, c.isDigit = true)

include digits

theorem expect_digits {c : Char} (other : c.isDigit = false) : expect c text = none := by
  cases text with
  | nil => rfl
  | cons d rest =>
      rw [expect, if_neg (digit_ne (digits d (by simp)) other).symm]

theorem field_digits {count low high n : Nat} {rest : List Char} (read : field count low high text = some (n, rest)) :
    ∀ c ∈ rest, c.isDigit = true := by
  unfold field at read
  dsimp only at read
  split_ifs at read
  obtain ⟨-, rfl⟩ := read
  exact fun c member => digits c (List.mem_of_mem_drop member)

theorem date_digits : date text = none := by
  unfold date
  cases year : field 4 0 9999 text with
  | none => rfl
  | some found => simp [expect_digits (field_digits digits year) (c := '-') (by decide)]

theorem clock_digits : clock text = none := by
  unfold clock
  cases hour : field 2 0 23 text with
  | none => rfl
  | some found => simp [expect_digits (field_digits digits hour) (c := ':') (by decide)]

theorem isMoment_digits : isMoment text = false := by
  simp [isMoment, date_digits digits, clock_digits digits]

end Digits

theorem digitChar_value {place : Nat} (small : place < 10) :
    (Bytes.hexValue? (Nat.digitChar place)).filter (· < 10) = some place ∧ Nat.digitChar place ≠ '_' := by
  have all : ∀ place : Fin 10, (Bytes.hexValue? (Nat.digitChar place)).filter (· < 10) = some place.val ∧
    Nat.digitChar place ≠ '_' := by decide
  exact all ⟨place, small⟩

theorem digitsOf_places {places : List Nat} (small : ∀ place ∈ places, place < 10) (nonempty : places ≠ []) :
    digitsOf 10 (places.map Nat.digitChar) = some places := by
  have onward (ready : Bool) (more : ready = false → places ≠ []) :
      digitsOf.go (fun c => (Bytes.hexValue? c).filter (· < 10)) ready (places.map Nat.digitChar) = some places := by
    clear nonempty
    induction places generalizing ready with
    | nil =>
        cases ready with
        | true => rfl
        | false => exact absurd rfl (more rfl)
    | cons place places ih =>
        obtain ⟨value, other⟩ := digitChar_value (small place (by simp))
        have rest := ih (fun place member => small place (by simp [member])) true (by simp)
        simp [digitsOf.go, value, other, rest]
  exact onward false fun _ => nonempty

theorem decimalDigits_places {n : Nat} {places : List Nat} (whole : Numeral n places) :
    decimalDigits (Decimal.digits n) = some places := by
  have alone : ¬(places.head? = some 0 ∧ places.length > 1) := by
    rintro ⟨zero, long⟩
    rw [whole.leading zero] at long
    exact absurd long (by decide)
  rw [decimalDigits, whole.text, digitsOf_places whole.small whole.nonempty]
  simp [alone]

theorem number_digits {n : Nat} (small : n < twoTo 128) : number (Decimal.digits n) = some (.integer n) := by
  obtain ⟨places, whole⟩ := Numeral.exists_places n
  have read := decimalDigits_places whole
  have value : numeral 10 places = n := whole.value
  have digits : ∀ c ∈ Decimal.digits n, c.isDigit = true := fun c => digits_isDigit
  generalize Decimal.digits n = text at read digits
  have unsigned : text.span (fun c => c == '+' || c == '-') = ([], text) := by
    cases text with
    | nil => rfl
    | cons c rest =>
        have digit := digits c (by simp)
        have unmarked : (c == '+' || c == '-') = false := by
          simp [digit_ne digit (d := '+') (by decide), digit_ne digit (d := '-') (by decide)]
        simp [List.span_eq_takeWhile_dropWhile, unmarked]
  have pointless : text.any (fun c => c == '.' || c == 'e' || c == 'E') = false :=
    List.any_eq_false.2 fun c member => by
      have point := digit_ne (digits c member) (d := '.') (by decide)
      have small := digit_ne (digits c member) (d := 'e') (by decide)
      have large := digit_ne (digits c member) (d := 'E') (by decide)
      simp [point, small, large]
  have within : bounded (n : Int) = .integer n := by
    simp [bounded, small]
  have letter {c : Char} (member : c ∈ text) (other : c.isDigit = false) : False :=
    digit_ne (digits c member) other rfl
  rw [number, unsigned]
  dsimp only
  rw [if_neg (by decide)]
  split
  · exact (letter (c := 'i') (by simp) (by decide)).elim
  · exact (letter (c := 'n') (by simp) (by decide)).elim
  · exact (letter (c := 'x') (by simp) (by decide)).elim
  · exact (letter (c := 'o') (by simp) (by decide)).elim
  · exact (letter (c := 'b') (by simp) (by decide)).elim
  · simp [pointless, read, value, signed, within]

theorem scalarText_word {word : List Char} (inside : ∀ c ∈ word, isScalarChar c = true) (rest : List Char) :
    scalarText (word ++ '\n' :: rest) = (word, '\n' :: rest) := by
  have ends : isScalarChar '\n' = false := by decide
  have split : (word ++ '\n' :: rest).span isScalarChar = (word, '\n' :: rest) := by
    rw [List.span_eq_takeWhile_dropWhile, List.takeWhile_append_of_pos inside, List.dropWhile_append_of_pos inside]
    simp [ends]
  rw [scalarText, split]
  dsimp only
  split
  · rename_i same
    cases same
  · rfl

theorem digits_ne_keyword {n : Nat} {word : List Char} {first : Char} (starts : word.head? = some first)
    (letter : first.isDigit = false) : Decimal.digits n ≠ word := by
  intro same
  have member : first ∈ Decimal.digits n := same ▸ List.mem_of_mem_head? starts
  exact digit_ne (digits_isDigit member) letter rfl

theorem scalar_digits {n : Nat} (small : n < twoTo 128) (rest : List Char) :
    Reader.scalar (Decimal.digits n ++ '\n' :: rest) = some (.integer n, '\n' :: rest) := by
  have inside : ∀ c ∈ Decimal.digits n, isScalarChar c = true := fun c member => by
    simp [isScalarChar, Char.isAlphanum, digits_isDigit member]
  have notTrue : Decimal.digits n ≠ "true".toList := digits_ne_keyword rfl (by decide)
  have notFalse : Decimal.digits n ≠ "false".toList := digits_ne_keyword rfl (by decide)
  have never : isMoment (Decimal.digits n) = false := isMoment_digits fun c => digits_isDigit
  rw [Reader.scalar, scalarText_word inside]
  simp only [notTrue, notFalse, never, number_digits small, if_false, Bool.false_eq_true, Option.map_some]

theorem scalar_truth (b : Bool) (rest : List Char) :
    Reader.scalar (Writer.scalar (.boolean b) ++ '\n' :: rest) = some (.boolean b, '\n' :: rest) := by
  cases b with
  | true =>
      have split := scalarText_word (List.all_eq_true.1 (by decide : "true".toList.all isScalarChar = true)) rest
      simp only [Writer.scalar, if_true, Reader.scalar, split]
  | false =>
      have split := scalarText_word (List.all_eq_true.1 (by decide : "false".toList.all isScalarChar = true)) rest
      have other : "false".toList ≠ "true".toList := by decide
      simp only [Writer.scalar, Reader.scalar, split, other, if_true, if_false, Bool.false_eq_true]

inductive Writable : Value → Prop
  | string (text : String) : Writable (.string text)
  | integer {n : Nat} (small : n < twoTo 128) : Writable (.integer n)
  | boolean (b : Bool) : Writable (.boolean b)

theorem string_opens (text : String) : ∃ quote more, Writer.string text = quote :: more ∧ (quote = '"' ∨ quote = '\'') := by
  unfold Writer.string
  dsimp only
  split
  · exact ⟨'"', _, rfl, .inl rfl⟩
  · exact ⟨'\'', _, rfl, .inr rfl⟩
  · exact ⟨'"', _, rfl, .inl rfl⟩
  · exact ⟨'\'', _, rfl, .inr rfl⟩

theorem value_string {quote : Char} (opens : quote = '"' ∨ quote = '\'') (fuel : Nat) (more : List Char) :
    value (fuel + 1) (quote :: more) = (Reader.string (quote :: more)).map fun (text, rest) => (.string text, rest) := by
  rcases opens with rfl | rfl <;> rfl

theorem value_word {first : Char} (word : first.isAlphanum = true) (fuel : Nat) (more : List Char) :
    value (fuel + 1) (first :: more) = Reader.scalar (first :: more) := by
  have mark {c : Char} (same : first = c) (other : c.isAlphanum = false) : False := by
    rw [same, other] at word
    cases word
  unfold value
  split
  · exact (mark (by simp_all) (by decide : '"'.isAlphanum = false)).elim
  · exact (mark (by simp_all) (by decide : '"'.isAlphanum = false)).elim
  · exact (mark (by simp_all) (by decide : '"'.isAlphanum = false)).elim
  · exact (mark (by simp_all) (by decide : '"'.isAlphanum = false)).elim
  · rfl

theorem digits_opens (n : Nat) : ∃ first more, Decimal.digits n = first :: more ∧ first.isDigit = true := by
  obtain ⟨places, whole⟩ := Numeral.exists_places n
  obtain ⟨first, more, rfl⟩ := List.exists_cons_of_ne_nil whole.nonempty
  exact ⟨_, _, whole.text, (digitChar_code (whole.small first (by simp))).1⟩

theorem value_written {v : Value} (writable : Writable v) (fuel : Nat) (rest : List Char) :
    value (fuel + 1) (Writer.scalar v ++ '\n' :: rest) = some (v, '\n' :: rest) := by
  cases writable with
  | string text =>
      have read := string_written text rest
      obtain ⟨quote, more, begins, opens⟩ := string_opens text
      rw [begins, List.cons_append] at read
      rw [Writer.scalar, begins, List.cons_append, value_string opens, read]
      rfl
  | @integer n small =>
      have read := scalar_digits small rest
      obtain ⟨first, more, begins, digit⟩ := digits_opens n
      have text : Writer.scalar (.integer n) = first :: more := begins
      rw [begins] at read
      rw [text, List.cons_append, value_word (by simp [Char.isAlphanum, digit]), ← List.cons_append, read]
  | boolean b =>
      have read := scalar_truth b rest
      cases b <;> exact (value_word (by decide) fuel _).trans read

end Dispatch.Toml
