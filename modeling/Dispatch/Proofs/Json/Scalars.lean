import Dispatch.Json.Reader
import Dispatch.Proofs.Json.Values
import Dispatch.Proofs.Text.Numerals
import Mathlib.Tactic.Common

set_option autoImplicit false

namespace Dispatch.Json

open Reader

/-- Behind a value the text is over, or a mark of the array or object around it follows. -/
def Ends (rest : Input) : Prop := ∀ symbol ∈ rest.head?, symbol ∈ [some ',', some ']', some '}']

theorem Ends.nil : Ends [] := fun _ member => by cases member

theorem Ends.mark {c : Char} (mark : c ∈ [',', ']', '}']) (rest : Input) : Ends (some c :: rest) := by
  rintro symbol ⟨⟩
  simpa using mark

theorem hexCode_control {n : Nat} (control : n < 0x20) :
    hexCode [some '0', some '0', some (Bytes.hexDigit (n / 16)), some (Bytes.hexDigit (n % 16))] = some n := by
  have codes : ∀ code : Fin 0x20, hexCode [some '0', some '0', some (Bytes.hexDigit (code.val / 16)),
    some (Bytes.hexDigit (code.val % 16))] = some code.val := by decide
  exact codes ⟨n, control⟩

theorem hexDigit_utf8Size {n : Nat} (small : n < 16) : (Bytes.hexDigit n).utf8Size = 1 := by
  have sizes : ∀ digit : Fin 16, (Bytes.hexDigit digit.val).utf8Size = 1 := by decide
  exact sizes ⟨n, small⟩

theorem unicodeEscape_control {c : Char} (control : c.toNat < 0x20) (rest : Input) :
    unicodeEscape (some '0' :: some '0' :: some (Bytes.hexDigit (c.toNat / 16)) ::
      some (Bytes.hexDigit (c.toNat % 16)) :: rest) = .ok (c, rest) := by
  have sizes : (Bytes.hexDigit (c.toNat / 16)).utf8Size = 1 ∧ (Bytes.hexDigit (c.toNat % 16)).utf8Size = 1 :=
    ⟨hexDigit_utf8Size (by omega), hexDigit_utf8Size (by omega)⟩
  have zero : ('0' : Char).utf8Size = 1 := by decide
  have high : isLowSurrogate c.toNat = false ∧ isHighSurrogate c.toNat = false := by
    simp only [isLowSurrogate, isHighSurrogate, Bool.and_eq_false_iff, decide_eq_false_iff_not]
    omega
  have code : escapeCode (some '0' :: some '0' :: some (Bytes.hexDigit (c.toNat / 16)) ::
      some (Bytes.hexDigit (c.toNat % 16)) :: rest) = .ok (c.toNat, rest) := by
    simp [escapeCode, runsOut, sizes, zero, hexCode_control control]
  rw [unicodeEscape, code]
  simp only [bind, Except.bind, high, pure, Except.pure, Char.ofNat_toNat]
  rfl

theorem stringBody_escaped (c : Char) (fuel : Nat) (taken : List Char) (rest : Input) :
    stringBody (fuel + 1) false taken ((escaped c).map some ++ rest) = stringBody fuel false (c :: taken) rest := by
  have short {letter : Char} (reads : simpleEscape? letter = some c) (other : letter ≠ 'u') :
      stringBody (fuel + 1) false taken (([('\\' : Char), letter]).map some ++ rest) =
        stringBody fuel false (c :: taken) rest := by
    simp [stringBody, reads]
  unfold escaped
  split_ifs with same same same same same same same control
  · exact short (by rw [same]; decide) (by decide)
  · exact short (by rw [same]; decide) (by decide)
  · exact short (by rw [same]; decide) (by decide)
  · exact short (by rw [same]; decide) (by decide)
  · exact short (by rw [same]; decide) (by decide)
  · exact short (by rw [same]; decide) (by decide)
  · exact short (by rw [same]; decide) (by decide)
  · simp [stringBody, unicodeEscape_control control, bind, Except.bind]
  · simp [stringBody, *]

theorem escaped_length (c : Char) : 0 < (escaped c).length := by
  unfold escaped
  split_ifs <;> simp

theorem flatMap_escaped_length (text : List Char) : text.length ≤ (text.flatMap escaped).length := by
  induction text with
  | nil => simp
  | cons c text ih =>
      have one := escaped_length c
      rw [List.flatMap_cons, List.length_append, List.length_cons]
      omega

theorem stringBody_flatMap (text taken : List Char) (rest : Input) {fuel : Nat} (enough : text.length < fuel) :
    stringBody fuel false taken ((text.flatMap escaped).map some ++ some '"' :: rest) =
      .ok (String.ofList (taken.reverse ++ text), rest) := by
  induction text generalizing taken fuel with
  | nil =>
      obtain ⟨fuel, rfl⟩ := Nat.exists_eq_add_of_lt enough
      simp [stringBody]
  | cons c text ih =>
      obtain ⟨fuel, rfl⟩ := Nat.exists_eq_add_of_lt enough
      rw [List.flatMap_cons, List.map_append, List.append_assoc, stringBody_escaped,
        ih (c :: taken) (by simp; omega)]
      simp

theorem string_quoted (text : String) (rest : Input) :
    Reader.string ((text.toList.flatMap escaped).map some ++ some '"' :: rest) = .ok (text, rest) := by
  rw [Reader.string, stringBody_flatMap]
  · simp
  · have fits := flatMap_escaped_length text.toList
    rw [List.length_append, List.length_map]
    omega

theorem digit?_digitChar {place : Nat} (small : place < 10) : digit? (some (Nat.digitChar place)) = some place := by
  obtain ⟨isDigit, value⟩ := digitChar_code small
  rw [digit?, if_pos isDigit, value]

theorem Ends.afterWhole {rest : Input} (ends : Ends rest) (negative : Bool) (n : Nat) :
    Reader.afterWhole negative n rest = .ok (wholeNumber negative n, rest) := by
  cases rest with
  | nil => rfl
  | cons symbol rest =>
      have mark := ends symbol rfl
      simp only [List.mem_cons, List.not_mem_nil, or_false] at mark
      rcases mark with rfl | rfl | rfl <;> rfl

theorem Ends.digit? {rest : Input} (ends : Ends rest) : ∀ symbol ∈ rest.head?, Reader.digit? symbol = none := by
  intro symbol member
  have mark := ends symbol member
  simp only [List.mem_cons, List.not_mem_nil, or_false] at mark
  rcases mark with rfl | rfl | rfl <;> decide

theorem Ends.wholeDigits {rest : Input} (ends : Ends rest) (negative : Bool) (n : Nat) :
    Reader.wholeDigits negative n rest = .ok (wholeNumber negative n, rest) := by
  cases rest with
  | nil => rfl
  | cons symbol rest =>
      rw [Reader.wholeDigits, ends.digit? symbol rfl]
      exact ends.afterWhole negative n

theorem le_foldl_places (n : Nat) (places : List Nat) :
    n ≤ places.foldl (fun value place => value * 10 + place) n := by
  induction places generalizing n with
  | nil => exact le_refl n
  | cons place places ih => exact (by omega : n ≤ n * 10 + place).trans (ih _)

theorem wholeDigits_places {rest : Input} (ends : Ends rest) (negative : Bool) (n : Nat) {places : List Nat}
    (small : ∀ place ∈ places, place < 10)
    (fits : places.foldl (fun value place => value * 10 + place) n < significandBound) :
    wholeDigits negative n ((places.map Nat.digitChar).map some ++ rest) =
      .ok (wholeNumber negative (places.foldl (fun value place => value * 10 + place) n), rest) := by
  induction places generalizing n with
  | nil => exact ends.wholeDigits negative n
  | cons place places ih =>
      have below : n * 10 + place < significandBound := (le_foldl_places _ places).trans_lt fits
      have digit := digit?_digitChar (small place (List.mem_cons_self ..))
      rw [List.map_cons, List.map_cons, List.cons_append, wholeDigits, digit]
      simp only [below, if_true]
      exact ih _ (fun place member => small place (List.mem_cons_of_mem _ member)) fits

theorem number_digits {rest : Input} (ends : Ends rest) (negative : Bool) {n : Nat} (fits : n < significandBound) :
    Reader.number negative ((Decimal.digits n).map some ++ rest) = .ok (wholeNumber negative n, rest) := by
  obtain ⟨places, numeral⟩ := Numeral.exists_places n
  obtain ⟨first, places, rfl⟩ := List.exists_cons_of_ne_nil numeral.nonempty
  have digit := digit?_digitChar (numeral.small first (List.mem_cons_self ..))
  have value := numeral.value
  rw [List.foldl_cons, Nat.zero_mul, Nat.zero_add] at value
  rw [numeral.text, List.map_cons, List.map_cons, List.cons_append]
  simp only [Reader.number, digit]
  cases first with
  | zero =>
      obtain rfl : places = [] := by simpa using numeral.leading rfl
      obtain rfl : 0 = n := value
      cases rest with
      | nil => rfl
      | cons symbol rest =>
          have none := ends.digit? symbol rfl
          simpa [none] using ends.afterWhole negative 0
  | succ first =>
      have small : ∀ place ∈ places, place < 10 := fun place member =>
        numeral.small place (List.mem_cons_of_mem _ member)
      have read := wholeDigits_places ends negative (first + 1) small (by rw [value]; exact fits)
      rwa [value] at read

end Dispatch.Json
