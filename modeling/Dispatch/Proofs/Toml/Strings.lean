import Dispatch.Toml.Writer
import Mathlib.Data.List.Basic
import Mathlib.Tactic.Common

set_option autoImplicit false

namespace Dispatch.Toml

open Reader Writer

/-! ## Escapes -/

inductive Spelled (c : Char) : List Char → Prop
  | plain (quote : c ≠ '"') (backslash : c ≠ '\\') (allowed : isForbidden c = false) : Spelled c [c]
  | escape {first : Char} {more : List Char} (visible : first ∉ [' ', '\t', '\n', '\r'])
      (reads : ∀ tail, Reader.escape (first :: (more ++ tail)) = some (c, tail)) :
      Spelled c ('\\' :: first :: more)

theorem spelled_code {c : Char} (control : c.toNat < 0x20 ∨ c.toNat = 0x7F) :
    Spelled c ['\\', 'u', '0', '0', upperHex (c.toNat / 16), upperHex (c.toNat % 16)] := by
  have codes : ∀ code : Fin 128, hexCode ['0', '0', upperHex (code.val / 16), upperHex (code.val % 16)] =
    some code.val := by decide
  have code := codes ⟨c.toNat, by omega⟩
  refine .escape (by decide) fun tail => ?_
  have valid : c.toNat.isValidChar := c.valid
  have same : Char.ofNatAux c.toNat valid = c := Char.ext rfl
  calc
    Reader.escape ('u' :: (['0', '0', upperHex (c.toNat / 16), upperHex (c.toNat % 16)] ++ tail))
      = (hexCode ['0', '0', upperHex (c.toNat / 16), upperHex (c.toNat % 16)]).bind fun code =>
          if h : code.isValidChar then some (Char.ofNatAux code h, tail) else none := rfl
    _ = (if h : c.toNat.isValidChar then some (Char.ofNatAux c.toNat h, tail) else none) := by rw [code]; rfl
    _ = some (c, tail) := by rw [dif_pos valid, same]

theorem escaped_spelled {c : Char} (quote : c ≠ '"') : Spelled c (escaped c) := by
  have short {letter : Char} (reads : simpleEscape? letter = some c)
      (other : letter ∉ ['x', 'u', 'U', ' ', '\t', '\n', '\r']) : Spelled c ['\\', letter] := by
    simp only [List.mem_cons, not_or] at other
    exact .escape (by simp [other]) fun tail => by simp [Reader.escape, reads, other]
  unfold escaped
  split_ifs with same same same same same control
  · exact short (by rw [same]; decide) (by decide)
  · exact short (by rw [same]; decide) (by decide)
  · exact short (by rw [same]; decide) (by decide)
  · exact short (by rw [same]; decide) (by decide)
  · exact short (by rw [same]; decide) (by decide)
  · exact spelled_code control
  · exact .plain quote same (by simp [isForbidden]; omega)

theorem quote_spelled : Spelled '"' ['\\', '"'] :=
  .escape (by decide) fun tail => by simp [Reader.escape, simpleEscape?]

def piece (c : Char) : List Char :=
  if c = '"' then ['\\', '"'] else if c = '\n' then ['\\', 'n'] else escaped c

theorem piece_spelled (c : Char) : Spelled c (piece c) := by
  unfold piece
  split_ifs with quote line
  · exact quote ▸ quote_spelled
  · exact .escape (by decide) fun tail => by simp [line, Reader.escape, simpleEscape?]
  · exact escaped_spelled quote

theorem oneLine_eq (text : List Char) : oneLine text = text.flatMap piece := rfl

theorem Spelled.head_ne {c : Char} {spelling : List Char} (spelled : Spelled c spelling) :
    ∃ first more, spelling = first :: more ∧ first ≠ '"' := by
  cases spelled with
  | plain quote => exact ⟨c, [], rfl, quote⟩
  | escape => exact ⟨'\\', _, rfl, by decide⟩

theorem oneLine_length (text : List Char) : text.length ≤ (oneLine text).length := by
  rw [oneLine_eq]
  induction text with
  | nil => simp
  | cons c text ih =>
      obtain ⟨first, more, spelling, -⟩ := (piece_spelled c).head_ne
      simp only [List.flatMap_cons, List.length_append, spelling, List.length_cons]
      omega

/-! ## Strings of one line -/

theorem basic_spelled {c : Char} {spelling : List Char} (spelled : Spelled c spelling) (fuel : Nat)
    (taken rest : List Char) : basic (fuel + 1) taken (spelling ++ rest) = basic fuel (c :: taken) rest := by
  cases spelled with
  | plain quote backslash allowed => simp [basic, quote, backslash, allowed]
  | escape visible reads => simp [basic, reads]

theorem basic_oneLine (text : List Char) (taken rest : List Char) {fuel : Nat} (enough : text.length < fuel) :
    basic fuel taken (oneLine text ++ '"' :: rest) = some (String.ofList (taken.reverse ++ text), rest) := by
  rw [oneLine_eq]
  induction text generalizing taken fuel with
  | nil =>
      obtain ⟨fuel, rfl⟩ := Nat.exists_eq_add_of_lt enough
      simp [basic]
  | cons c text ih =>
      obtain ⟨fuel, rfl⟩ := Nat.exists_eq_add_of_lt enough
      rw [List.flatMap_cons, List.append_assoc, basic_spelled (piece_spelled c), ih (c :: taken) (by simp; omega)]
      simp

theorem literal_plain {text : List Char} (rest : List Char) (plain : ∀ c ∈ text, c ≠ '\'' ∧ isForbidden c = false) :
    literal (text ++ '\'' :: rest) = some (String.ofList text, rest) := by
  have body : (text ++ '\'' :: rest).takeWhile (fun c => c != '\'' && !isForbidden c) = text := by
    rw [List.takeWhile_append_of_pos (by simpa using plain)]
    simp
  simp [literal, body]

/-! ## Strings of several lines -/

theorem closing_few {quote : Char} {input : List Char} (few : (input.takeWhile (· == quote)).length ≤ 2) :
    closing quote input = none := by
  rw [closing, if_pos (by omega)]

/-- Three quotes close a string, and up to two more in front of them belong to it. -/
theorem closing_run {quote : Char} {count : Nat} (few : count ≤ 2) {rest : List Char} (other : rest.head? ≠ some quote) :
    closing quote (List.replicate (count + 3) quote ++ rest) = some (List.replicate count quote, rest) := by
  have none_left : rest.takeWhile (· == quote) = [] := by
    cases rest with
    | nil => rfl
    | cons c rest =>
        have other : (c == quote) = false := by simpa using other
        simp [other]
  have run : (List.replicate (count + 3) quote ++ rest).takeWhile (· == quote) = List.replicate (count + 3) quote := by
    rw [List.takeWhile_append_of_pos (by simp), none_left, List.append_nil]
  have kept : min count 2 = count := Nat.min_eq_left few
  simp [closing, run, kept]

inductive Quotes (quote : Char) (run : Nat) (text body : List Char) : Prop
  | only (count : Nat) (few : run + count ≤ 2) (text_eq : text = List.replicate count quote)
      (body_eq : body = List.replicate (count + 3) quote)
  | some (few : ∀ rest, run + ((body ++ rest).takeWhile (· == quote)).length ≤ 2)

theorem Quotes.cons {quote : Char} {run : Nat} {text body : List Char} (quotes : Quotes quote (run + 1) text body) :
    Quotes quote run (quote :: text) (quote :: body) := by
  cases quotes with
  | only count few text_eq body_eq =>
      exact .only (count + 1) (by omega) (by rw [text_eq]; rfl) (by rw [body_eq]; rfl)
  | some few => exact .some fun rest => by simpa [Nat.add_assoc, Nat.add_comm 1] using few rest

theorem Quotes.other {quote c : Char} {run : Nat} (few : run ≤ 2) {text body : List Char} (other : c ≠ quote) :
    Quotes quote run text (c :: body) :=
  .some fun rest => by simpa [other] using few

def closed (text : List Char) (run : Nat) : List Char := severalLines run text ++ ['"', '"', '"']

theorem closed_cons (c : Char) (text : List Char) (run : Nat) :
    closed (c :: text) run =
      if c = '"' then
        if run < 2 then '"' :: closed text (run + 1) else ['\\', '"'] ++ closed text 0
      else if c = '\n' then '\n' :: closed text 0
      else escaped c ++ closed text 0 := by
  simp only [closed, severalLines]
  split_ifs <;> simp

theorem closed_quotes (text : List Char) {run : Nat} (few : run ≤ 2) : Quotes '"' run text (closed text run) := by
  induction text generalizing run with
  | nil => exact .only 0 few rfl rfl
  | cons c text ih =>
      rw [closed_cons]
      split_ifs with quote room line
      · subst quote
        exact (ih (by omega)).cons
      · exact .other few (by decide)
      · exact .other few (by decide)
      · obtain ⟨first, more, spelling, other⟩ := (escaped_spelled quote).head_ne
        rw [spelling]
        exact .other few other

theorem manyLines_spelled {c : Char} {spelling : List Char} (spelled : Spelled c spelling) (fuel : Nat)
    (taken rest : List Char) : manyLines (fuel + 1) taken (spelling ++ rest) = manyLines fuel (c :: taken) rest := by
  cases spelled with
  | plain quote backslash allowed => simp [manyLines, quote, backslash, allowed]
  | escape visible reads => 
      simp only [List.mem_cons, not_or] at visible
      simp [manyLines, visible, isBlank, newline?, reads]

theorem manyLines_quote {rest : List Char} (few : (('"' :: rest).takeWhile (· == '"')).length ≤ 2) (fuel : Nat)
    (taken : List Char) : manyLines (fuel + 1) taken ('"' :: rest) = manyLines fuel ('"' :: taken) rest := by
  simp [manyLines, closing_few few]

theorem manyLines_closes {count : Nat} (few : count ≤ 2) {rest : List Char} (other : rest.head? ≠ some '"') (fuel : Nat)
    (taken : List Char) :
    manyLines (fuel + 1) taken (List.replicate (count + 3) '"' ++ rest) =
      some (String.ofList (taken.reverse ++ List.replicate count '"'), rest) := by
  have ends := closing_run few other
  rw [List.replicate_succ, List.cons_append] at ends ⊢
  simp [manyLines, ends]

theorem manyLines_closed (text taken rest : List Char) {run : Nat} (few : run ≤ 2) (other : rest.head? ≠ some '"')
    {fuel : Nat} (enough : text.length < fuel) :
    manyLines fuel taken (closed text run ++ rest) = some (String.ofList (taken.reverse ++ text), rest) := by
  induction text generalizing taken run fuel with
  | nil =>
      obtain ⟨fuel, rfl⟩ := Nat.exists_eq_add_of_lt enough
      exact manyLines_closes (Nat.zero_le 2) other _ taken
  | cons c text ih =>
      obtain ⟨fuel, rfl⟩ := Nat.exists_eq_add_of_lt enough
      have later {run : Nat} (few : run ≤ 2) :
          manyLines (text.length + 1 + fuel) (c :: taken) (closed text run ++ rest) =
            some (String.ofList (taken.reverse ++ c :: text), rest) := by
        rw [ih (c :: taken) few (by omega)]
        simp
      have quotes := closed_quotes (c :: text) few
      rw [closed_cons] at quotes ⊢
      split_ifs at quotes ⊢ with quote room line
      · subst quote
        cases quotes with
        | only count few text_eq body_eq =>
            rw [body_eq, text_eq]
            exact manyLines_closes (by omega) other _ taken
        | some few => exact (manyLines_quote (Nat.le_of_add_left_le (few rest)) _ taken).trans (later room)
      · subst quote
        rw [List.append_assoc, manyLines_spelled quote_spelled]
        exact later (Nat.zero_le 2)
      · subst line
        simpa [manyLines, endsLine] using later (Nat.zero_le 2)
      · rw [List.append_assoc, manyLines_spelled (escaped_spelled quote)]
        exact later (Nat.zero_le 2)

/-! ## Literal strings of several lines -/

theorem longestRun_quotes (quote : Char) (text : List Char) {run : Nat} (few : longestRun quote run text ≤ 2) :
    Quotes quote run text (text ++ List.replicate 3 quote) := by
  induction text generalizing run with
  | nil => exact .only 0 few rfl rfl
  | cons c text ih =>
      rw [longestRun] at few
      split_ifs at few with same
      · subst same
        exact (ih few).cons
      · exact .other (Nat.max_le.1 few).1 same

theorem manyLinesLiteral_step {c : Char} (visible : isControl c = false) {rest : List Char}
    (going : (if c = '\'' then closing '\'' (c :: rest) else none) = none) (fuel : Nat) (taken : List Char) :
    manyLinesLiteral (fuel + 1) taken (c :: rest) = manyLinesLiteral fuel (c :: taken) rest := by
  have kept : endsLine c rest || !isForbidden c := by
    simp [isControl, endsLine, isForbidden] at visible ⊢
    by_cases low : c.toNat < 32
    · by_cases tab : c = '\t'
      · exact .inr ⟨.inr tab, visible.2⟩
      · exact .inl (.inl (visible.1 low tab))
    · exact .inr ⟨.inl (Nat.le_of_not_lt low), visible.2⟩
  simp [manyLinesLiteral, going, kept]

theorem manyLinesLiteral_closes {count : Nat} (few : count ≤ 2) {rest : List Char} (other : rest.head? ≠ some '\'')
    (fuel : Nat) (taken : List Char) :
    manyLinesLiteral (fuel + 1) taken (List.replicate (count + 3) '\'' ++ rest) =
      some (String.ofList (taken.reverse ++ List.replicate count '\''), rest) := by
  have ends := closing_run few other
  rw [List.replicate_succ, List.cons_append] at ends ⊢
  simp [manyLinesLiteral, ends]

theorem manyLinesLiteral_plain (text taken rest : List Char) {run : Nat} (few : longestRun '\'' run text ≤ 2)
    (plain : ∀ c ∈ text, isControl c = false) (other : rest.head? ≠ some '\'') {fuel : Nat} (enough : text.length < fuel) :
    manyLinesLiteral fuel taken (text ++ List.replicate 3 '\'' ++ rest) =
      some (String.ofList (taken.reverse ++ text), rest) := by
  induction text generalizing taken run fuel with
  | nil =>
      obtain ⟨fuel, rfl⟩ := Nat.exists_eq_add_of_lt enough
      exact manyLinesLiteral_closes (Nat.zero_le 2) other _ taken
  | cons c text ih =>
      obtain ⟨fuel, rfl⟩ := Nat.exists_eq_add_of_lt enough
      have visible := plain c (by simp)
      have later {run : Nat} (few : longestRun '\'' run text ≤ 2) :
          manyLinesLiteral (text.length + 1 + fuel) (c :: taken) (text ++ List.replicate 3 '\'' ++ rest) =
            some (String.ofList (taken.reverse ++ c :: text), rest) := by
        rw [ih (c :: taken) few (fun c member => plain c (by simp [member])) (by omega)]
        simp
      have quotes := longestRun_quotes '\'' (c :: text) few
      rw [longestRun] at few
      split_ifs at few with quote
      · subst quote
        cases quotes with
        | only count few text_eq body_eq =>
            rw [body_eq, text_eq]
            exact manyLinesLiteral_closes (by omega) other _ taken
        | some rare =>
            have open_on := closing_few (Nat.le_of_add_left_le (rare rest))
            exact (manyLinesLiteral_step visible ((if_pos rfl).trans open_on) _ taken).trans (later few)
      · exact (manyLinesLiteral_step visible (if_neg quote) _ taken).trans (later (Nat.max_le.1 few).2)

/-! ## All forms -/

inductive Suits (text : List Char) : Style → Prop
  | basic : Suits text .basic
  | literal (plain : ∀ c ∈ text, c ≠ '\'' ∧ isForbidden c = false) (nonempty : text ≠ []) : Suits text .literal
  | manyLines : Suits text .manyLines
  | manyLinesLiteral (few : longestRun '\'' 0 text ≤ 2) (plain : ∀ c ∈ text, isControl c = false) :
      Suits text .manyLinesLiteral

theorem longestRun_ge (quote : Char) (text : List Char) (run : Nat) : run ≤ longestRun quote run text := by
  induction text generalizing run with
  | nil => exact Nat.le_refl run
  | cons c text ih =>
      rw [longestRun]
      split_ifs
      · exact Nat.le_of_succ_le (ih (run + 1))
      · exact Nat.le_max_left _ _

theorem longestRun_zero {quote : Char} {text : List Char} (zero : longestRun quote 0 text = 0) :
    ∀ c ∈ text, c ≠ quote := by
  induction text with
  | nil => simp
  | cons c text ih =>
      rw [longestRun] at zero
      split_ifs at zero with same
      · have one := longestRun_ge quote text (0 + 1)
        omega
      · simpa [same] using ih (by omega)

theorem styleOf_suits (text : List Char) : Suits text (styleOf text) := by
  have visible {controls : Bool} (none : !controls) (some : text.any isControl = controls) :
      ∀ c ∈ text, isControl c = false := by
    rw [Bool.not_eq_true'] at none
    simpa [none] using some
  unfold styleOf
  dsimp only
  split_ifs with basic literal manyLines manyLinesLiteral newline
  · exact .basic
  · obtain ⟨controls, singles, newline⟩ := literal
    refine .literal (fun c member => ⟨longestRun_zero singles c member, ?_⟩) ?_
    · have inside : c ≠ '\n' := by
        rintro rfl
        simp [member] at newline
      have plain := visible controls rfl c member
      simp [isControl, isForbidden, inside] at plain ⊢
      exact plain
    · rintro rfl
      simp [longestRun] at basic
  · exact .manyLines
  · exact .manyLinesLiteral manyLinesLiteral.2 (visible manyLinesLiteral.1 rfl)
  · exact .manyLines
  · exact .basic

theorem string_basic {input : List Char} (short : ∀ more, input ≠ '"' :: '"' :: more) :
    Reader.string ('"' :: input) = basic (input.length + 1) [] input := by
  unfold Reader.string
  split
  · rename_i more same
    exact absurd (List.cons.inj same).2 (short more)
  · rename_i same
    cases same
  · rename_i same
    rw [(List.cons.inj same).2]
  · rename_i same
    cases same
  · rename_i other _
    exact absurd rfl (other input)

theorem string_literal {input : List Char} (short : ∀ more, input ≠ '\'' :: '\'' :: more) :
    Reader.string ('\'' :: input) = literal input := by
  unfold Reader.string
  split
  · rename_i same
    cases same
  · rename_i more same
    exact absurd (List.cons.inj same).2 (short more)
  · rename_i same
    cases same
  · rename_i same
    rw [(List.cons.inj same).2]
  · rename_i other
    exact absurd rfl (other input)

theorem dropFirstNewline_opening {text body : List Char}
    (visible : '\n' ∉ text → ∃ first more, body = first :: more ∧ first ≠ '\n' ∧ first ≠ '\r') :
    dropFirstNewline ((if text.contains '\n' then ['\n'] else []) ++ body) = body := by
  by_cases line : '\n' ∈ text
  · simp [line, dropFirstNewline, newline?]
  · obtain ⟨first, more, rfl, newline, carriage⟩ := visible line
    simp [line, dropFirstNewline, newline?, newline, carriage]

theorem Spelled.head_visible {c : Char} {spelling : List Char} (spelled : Spelled c spelling) :
    ∃ first more, spelling = first :: more ∧ first ≠ '\n' ∧ first ≠ '\r' := by
  cases spelled with
  | plain quote backslash allowed =>
      refine ⟨c, [], rfl, ?_, ?_⟩ <;> rintro rfl <;> simp [isForbidden] at allowed
  | escape => exact ⟨'\\', _, rfl, by decide, by decide⟩

theorem closed_visible {text : List Char} (lineless : '\n' ∉ text) (rest : List Char) :
    ∃ first more, closed text 0 ++ rest = first :: more ∧ first ≠ '\n' ∧ first ≠ '\r' := by
  cases text with
  | nil => exact ⟨'"', _, rfl, by decide, by decide⟩
  | cons c text =>
      simp only [List.mem_cons, not_or] at lineless
      rw [closed_cons]
      split_ifs with quote room line
      · exact ⟨'"', _, rfl, by decide, by decide⟩
      · exact ⟨'\\', _, rfl, by decide, by decide⟩
      · exact absurd line.symm lineless.1
      · obtain ⟨first, more, spelling, visible⟩ := (escaped_spelled quote).head_visible
        exact ⟨first, more ++ (closed text 0 ++ rest), by simp [spelling], visible⟩

theorem plain_visible {text : List Char} (lineless : '\n' ∉ text) (plain : ∀ c ∈ text, isControl c = false)
    (rest : List Char) :
    ∃ first more, text ++ List.replicate 3 '\'' ++ rest = first :: more ∧ first ≠ '\n' ∧ first ≠ '\r' := by
  cases text with
  | nil => exact ⟨'\'', _, rfl, by decide, by decide⟩
  | cons c text =>
      refine ⟨c, _, rfl, fun line => lineless (by simp [line]), ?_⟩
      rintro rfl
      have visible := plain '\r' (by simp)
      simp [isControl] at visible

theorem closed_length (text : List Char) (run : Nat) : text.length ≤ (closed text run).length := by
  induction text generalizing run with
  | nil => simp
  | cons c text ih =>
      rw [closed_cons]
      split_ifs with quote room line
      · simpa using ih (run + 1)
      · simpa using Nat.le_succ_of_le (ih 0)
      · simpa using ih 0
      · obtain ⟨first, more, spelling, -⟩ := (escaped_spelled quote).head_ne
        have shorter := ih 0
        simp only [spelling, List.length_append, List.length_cons]
        omega

theorem string_written (text : String) (rest : List Char) :
    Reader.string (Writer.string text ++ '\n' :: rest) = some (text, '\n' :: rest) := by
  have suits := styleOf_suits text.toList
  unfold Writer.string
  dsimp only
  generalize styleOf text.toList = style at suits ⊢
  cases suits with
  | basic =>
      have enough := oneLine_length text.toList
      simp only [List.cons_append, List.append_assoc, List.nil_append]
      rw [string_basic, basic_oneLine _ _ _ (by rw [List.length_append]; omega)]
      · simp
      · intro more same
        cases chars : text.toList with
        | nil => simp [chars, oneLine] at same
        | cons c chars =>
            obtain ⟨first, more, spelling, other⟩ := (piece_spelled c).head_ne
            simp [chars, oneLine_eq, spelling, other] at same
  | literal plain nonempty =>
      simp only [List.cons_append, List.append_assoc, List.nil_append]
      rw [string_literal, literal_plain _ plain]
      · simp
      · intro more same
        obtain ⟨c, chars, split⟩ := List.exists_cons_of_ne_nil nonempty
        rw [split, List.cons_append] at same
        exact absurd (List.cons.inj same).1 (plain c (by simp [split])).1
  | manyLines =>
      have body : ['"', '"', '"'] ++ (if text.toList.contains '\n' then ['\n'] else []) ++ severalLines 0 text.toList ++
          ['"', '"', '"'] ++ '\n' :: rest =
          '"' :: '"' :: '"' :: ((if text.toList.contains '\n' then ['\n'] else []) ++
            (closed text.toList 0 ++ '\n' :: rest)) := by
        simp [closed]
      have enough := closed_length text.toList 0
      rw [body, Reader.string, dropFirstNewline_opening fun lineless => closed_visible lineless _]
      rw [manyLines_closed _ _ _ (Nat.zero_le 2) (by simp) (by rw [List.length_append]; omega)]
      simp
  | manyLinesLiteral few plain =>
      have body : ['\'', '\'', '\''] ++ (if text.toList.contains '\n' then ['\n'] else []) ++ text.toList ++
          ['\'', '\'', '\''] ++ '\n' :: rest =
          '\'' :: '\'' :: '\'' :: ((if text.toList.contains '\n' then ['\n'] else []) ++
            (text.toList ++ List.replicate 3 '\'' ++ '\n' :: rest)) := by
        simp
      rw [body, Reader.string, dropFirstNewline_opening fun lineless => plain_visible lineless plain _]
      rw [manyLinesLiteral_plain _ _ _ few plain (by simp) (by rw [List.length_append, List.length_append]; omega)]
      simp

end Dispatch.Toml
