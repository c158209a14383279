import Dispatch.Json.Shape
import Dispatch.Proofs.Json.Scalars

set_option autoImplicit false

namespace Dispatch.Json

open Reader

/-- What is found where so many levels are needed and `depth` are left. -/
def reading {α : Type} (depth levels : Nat) (found : α) : Except Fault α :=
  if levels ≤ depth then .ok found else .error .malformed

theorem reading_bind {α β : Type} {depth levels more : Nat} {found : α} {last : β} {next : α → Except Fault β}
    (onward : next found = reading depth more last) :
    (reading depth levels found).bind next = reading depth (max levels more) last := by
  simp only [reading, max_le_iff] at onward ⊢
  by_cases fits : levels ≤ depth
  · simpa [fits, Except.bind] using onward
  · simp [fits, Except.bind]

theorem reading_map {α β : Type} {depth levels : Nat} {found : α} (f : α → β) :
    (reading depth levels found).bind (fun found => .ok (f found)) = reading depth levels (f found) := by
  unfold reading
  split <;> rfl

def Returns (v : Json) : Prop :=
  ∀ (fuel depth : Nat) (rest : Input), 2 * v.print.length ≤ fuel → Ends rest →
    value fuel depth (v.print.map some ++ rest) = reading depth v.depth (v, rest)

def opens (c : Char) : Bool := !isBlank c && c != ',' && c != ']'

def opensScalar (c : Char) : Bool := opens c && c != '"' && c != '[' && c != '\x7b'

theorem skipBlanks_opens {c : Char} (opening : opens c) (rest : Input) :
    skipBlanks (some c :: rest) = some c :: rest := by
  have visible : isBlank c = false := by
    simp only [opens, Bool.and_eq_true, Bool.not_eq_true'] at opening
    exact opening.1.1
  simp [skipBlanks, visible]

theorem returns_scalar {v : Json} {c : Char} {more : List Char} (text : v.print = c :: more)
    (opening : opensScalar c) (flat : v.depth = 0)
    (reads : ∀ rest, Ends rest → scalar c (more.map some ++ rest) = .ok (v, rest)) : Returns v := by
  intro fuel depth rest enough ends
  rw [text, List.length_cons] at enough
  obtain ⟨fuel, rfl⟩ : ∃ less, fuel = less + 1 := ⟨fuel - 1, by omega⟩
  simp only [opensScalar, Bool.and_eq_true, bne_iff_ne] at opening
  obtain ⟨⟨⟨opening, quote⟩, bracket⟩, brace⟩ := opening
  rw [text, List.map_cons, List.cons_append, value, skipBlanks_opens opening, reading, flat, if_pos (Nat.zero_le _)]
  simp only [reads rest ends]

theorem digitChar_opens {place : Nat} (small : place < 10) :
    opensScalar (Nat.digitChar place) ∧
      ∀ rest, scalar (Nat.digitChar place) rest = Reader.number false (some (Nat.digitChar place) :: rest) := by
  have all : ∀ place : Fin 10, opensScalar (Nat.digitChar place) = true ∧ (Nat.digitChar place).isDigit = true ∧
    Nat.digitChar place ≠ 'n' ∧ Nat.digitChar place ≠ 't' ∧ Nat.digitChar place ≠ 'f' ∧
    Nat.digitChar place ≠ '-' := by decide
  obtain ⟨opening, digit, other⟩ := all ⟨place, small⟩
  exact ⟨opening, fun rest => by simp [scalar, digit, other]⟩

theorem returns_integer {n : Int} (low : -(twoTo 63 : Int) ≤ n) (high : n < twoTo 64) : Returns (.integer n) := by
  have wordSize : significandBound = twoTo 64 ∧ twoTo 64 = 2 * twoTo 63 := ⟨rfl, rfl⟩
  have fits : n.natAbs < significandBound := by omega
  by_cases negative : n < 0
  · have text : (integer n).print = '-' :: Decimal.digits n.natAbs := by rw [print, integerText, if_pos negative]
    refine returns_scalar text (by decide) rfl fun rest ends => ?_
    have whole : wholeNumber true n.natAbs = .integer n := by
      rw [wholeNumber, if_neg (by simp), if_pos (by omega)]
      congr 1
      omega
    exact (number_digits ends true fits).trans (by rw [whole])
  · obtain ⟨places, numeral⟩ := Numeral.exists_places n.natAbs
    obtain ⟨first, places, rfl⟩ := List.exists_cons_of_ne_nil numeral.nonempty
    obtain ⟨opening, begins⟩ := digitChar_opens (numeral.small first (List.mem_cons_self ..))
    have text : (integer n).print = Nat.digitChar first :: places.map Nat.digitChar := by
      rw [print, integerText, if_neg negative, numeral.text, List.map_cons]
    refine returns_scalar text opening rfl fun rest ends => ?_
    have read := number_digits ends false fits
    have whole : wholeNumber false n.natAbs = .integer n := by
      rw [wholeNumber, if_pos (by simp)]
      congr 1
      omega
    rw [numeral.text, List.map_cons, List.map_cons, List.cons_append, whole] at read
    rw [begins, read]

theorem returns_string (text : String) : Returns (.string text) := by
  intro fuel depth rest enough ends
  obtain ⟨fuel, rfl⟩ : ∃ less, fuel = less + 1 :=
    ⟨fuel - 1, by simp only [print, quoted, List.length_cons] at enough; omega⟩
  have quote : skipBlanks (some '"' :: ((text.toList.flatMap escaped).map some ++ some '"' :: rest)) =
    some '"' :: ((text.toList.flatMap escaped).map some ++ some '"' :: rest) := skipBlanks_opens (by decide) _
  have read := string_quoted text rest
  have flat : (string text).depth = 0 := rfl
  rw [print, quoted, List.map_cons, List.map_append, List.map_singleton, List.cons_append, List.append_assoc,
    List.singleton_append, value, quote, reading, flat, if_pos (Nat.zero_le _)]
  simp only [read, bind, Except.bind, pure, Except.pure]

theorem Exact.print_opens {v : Json} (exact : Exact v) : ∃ c more, v.print = c :: more ∧ opens c := by
  cases exact with
  | null => exact ⟨_, _, rfl, by decide⟩
  | bool value => cases value <;> exact ⟨_, _, rfl, by decide⟩
  | string | array | members => exact ⟨_, _, rfl, by decide⟩
  | @integer n =>
      by_cases negative : n < 0
      · exact ⟨'-', _, by rw [print, integerText, if_pos negative], by decide⟩
      · obtain ⟨places, numeral⟩ := Numeral.exists_places n.natAbs
        obtain ⟨first, places, rfl⟩ := List.exists_cons_of_ne_nil numeral.nonempty
        obtain ⟨opening, -⟩ := digitChar_opens (numeral.small first (List.mem_cons_self ..))
        simp only [opensScalar, Bool.and_eq_true] at opening
        exact ⟨_, _, by rw [print, integerText, if_neg negative, numeral.text, List.map_cons], opening.1.1.1⟩

def continued (first : Bool) (pieces : List (List Char)) : List Char :=
  if first then separated pieces else pieces.flatMap (',' :: ·)

theorem separated_cons (piece : List Char) (pieces : List (List Char)) :
    separated (piece :: pieces) = piece ++ pieces.flatMap (',' :: ·) := by
  induction pieces generalizing piece with
  | nil => simp [separated]
  | cons next pieces ih =>
      have more := ih next
      rw [separated] at more ⊢
      rw [List.intercalate_cons_cons, more]
      simp

theorem separated_length (pieces : List (List Char)) :
    (pieces.flatMap (',' :: ·)).length ≤ (separated pieces).length + 1 := by
  cases pieces with
  | nil => simp [separated]
  | cons piece pieces =>
      rw [separated_cons, List.flatMap_cons, List.length_append, List.length_append, List.length_cons]
      omega

theorem continued_cons (first : Bool) (piece : List Char) (pieces : List (List Char)) :
    continued first (piece :: pieces) =
      (if first then [] else [',']) ++ (piece ++ pieces.flatMap (',' :: ·)) := by
  cases first with
  | true => exact separated_cons piece pieces
  | false => rfl

theorem Ends.behind (pieces : List (List Char)) {c : Char} (closes : c ∈ [',', ']', '}']) (rest : Input) :
    Ends ((pieces.flatMap (',' :: ·)).map some ++ some c :: rest) := by
  cases pieces with
  | nil => exact .mark closes rest
  | cons => exact .mark (by decide) _

theorem nextElement_opens (first : Bool) {c : Char} (opening : opens c) (rest : Input) :
    nextElement first ((if first then [] else [',']).map some ++ some c :: rest) = .ok (.item (some c :: rest)) := by
  have visible := skipBlanks_opens opening rest
  have comma : skipBlanks (some ',' :: some c :: rest) = some ',' :: some c :: rest := by simp [skipBlanks, isBlank]
  simp only [opens, Bool.and_eq_true, bne_iff_ne] at opening
  obtain ⟨⟨-, apart⟩, unclosed⟩ := opening
  cases first with
  | true =>
      rw [if_pos rfl, List.map_nil, List.nil_append, nextElement, visible]
      split <;> simp_all
  | false =>
      rw [if_neg Bool.false_ne_true, List.map_singleton, List.singleton_append, nextElement, comma]
      simp only [visible]
      split <;> simp_all

theorem elements_print {list : List Json} (exact : ∀ element ∈ list, Exact element)
    (returns : ∀ element ∈ list, Returns element) (fuel depth : Nat) (first : Bool) (rest : Input)
    (enough : 2 * ((printElements list).flatMap (',' :: ·)).length < fuel) :
    elements fuel depth first ((continued first (printElements list)).map some ++ some ']' :: rest) =
      reading depth (depthOfElements list) (list, rest) := by
  induction list generalizing fuel first with
  | nil =>
      obtain ⟨fuel, rfl⟩ := Nat.exists_eq_add_of_lt enough
      cases first <;> rfl
  | cons element list ih =>
      obtain ⟨fuel, rfl⟩ : ∃ less, fuel = less + 1 := ⟨fuel - 1, by omega⟩
      rw [printElements, List.flatMap_cons, List.length_append, List.length_cons] at enough
      let behind := ((printElements list).flatMap (',' :: ·)).map some ++ some ']' :: rest
      have ends : Ends behind := .behind _ (by decide) rest
      obtain ⟨c, more, text, opening⟩ := (exact element (List.mem_cons_self ..)).print_opens
      have item := nextElement_opens first opening (more.map some ++ behind)
      rw [← List.cons_append, ← List.map_cons, ← text] at item
      have read := returns element (List.mem_cons_self ..) fuel depth behind (by omega) ends
      have others := ih (fun element member => exact element (List.mem_cons_of_mem _ member))
        (fun element member => returns element (List.mem_cons_of_mem _ member)) fuel false (by omega)
      have onward : (elements fuel depth false behind).bind (fun found => .ok (element :: found.1, found.2)) =
          reading depth (depthOfElements list) (element :: list, rest) :=
        (congrArg (Except.bind · _) others).trans (reading_map _)
      rw [printElements, continued_cons, List.map_append, List.map_append, List.append_assoc, List.append_assoc,
        elements, item]
      change (value fuel depth _).bind (fun found => (elements fuel depth false found.2).bind fun others =>
        .ok (found.1 :: others.1, others.2)) = _
      rw [read]
      exact reading_bind onward

theorem nextKey_quote (first : Bool) (rest : Input) :
    nextKey first ((if first then [] else [',']).map some ++ some '"' :: rest) = .ok (.item rest) := by
  cases first <;> rfl

theorem fields_print {list : List (String × Json)} (returns : ∀ field ∈ list, Returns field.2) (fuel depth : Nat)
    (first : Bool) (rest : Input) (enough : 2 * ((printFields list).flatMap (',' :: ·)).length < fuel) :
    fields fuel depth first ((continued first (printFields list)).map some ++ some '}' :: rest) =
      reading depth (depthOfFields list) (list, rest) := by
  induction list generalizing fuel first with
  | nil =>
      obtain ⟨fuel, rfl⟩ := Nat.exists_eq_add_of_lt enough
      cases first <;> rfl
  | cons field list ih =>
      obtain ⟨key, v⟩ := field
      obtain ⟨fuel, rfl⟩ : ∃ less, fuel = less + 1 := ⟨fuel - 1, by omega⟩
      rw [printFields, List.flatMap_cons, List.length_append, List.length_cons, List.length_append,
        List.length_cons] at enough
      let behind := ((printFields list).flatMap (',' :: ·)).map some ++ some '}' :: rest
      have ends : Ends behind := .behind _ (by decide) rest
      have item := nextKey_quote first ((key.toList.flatMap escaped).map some ++ some '"' :: some ':' ::
        (v.print.map some ++ behind))
      have read := string_quoted key (some ':' :: (v.print.map some ++ behind))
      have held := returns (key, v) (List.mem_cons_self ..) fuel depth behind (by dsimp only; omega) ends
      have others := ih (fun field member => returns field (List.mem_cons_of_mem _ member)) fuel false (by omega)
      have onward : (fields fuel depth false behind).bind (fun found => .ok ((key, v) :: found.1, found.2)) =
          reading depth (depthOfFields list) ((key, v) :: list, rest) :=
        (congrArg (Except.bind · _) others).trans (reading_map _)
      have input : (continued first (printFields ((key, v) :: list))).map some ++ some '}' :: rest =
          (if first then [] else [',']).map some ++ some '"' :: ((key.toList.flatMap escaped).map some ++
            some '"' :: some ':' :: (v.print.map some ++ behind)) := by
        simp [printFields, continued_cons, quoted, behind]
      rw [input, fields, item]
      change (Reader.string _).bind (fun name => (colon name.2).bind fun input =>
        (value fuel depth input).bind fun found => (fields fuel depth false found.2).bind fun others =>
          .ok ((name.1, found.1) :: others.1, others.2)) = _
      rw [read]
      change (value fuel depth _).bind (fun found => (fields fuel depth false found.2).bind fun others =>
        .ok ((key, found.1) :: others.1, others.2)) = _
      rw [held]
      exact reading_bind onward

theorem returns_array {list : List Json} (exact : ∀ element ∈ list, Exact element)
    (returns : ∀ element ∈ list, Returns element) : Returns (.array list) := by
  intro fuel depth rest enough ends
  have size : (array list).print.length = (separated (printElements list)).length + 2 := by simp [print]
  have pieces := separated_length (printElements list)
  obtain ⟨fuel, rfl⟩ : ∃ less, fuel = less + 1 := ⟨fuel - 1, by omega⟩
  have levels : (array list).depth = depthOfElements list + 1 := rfl
  have text : (array list).print.map some ++ rest = some '[' ::
      ((continued true (printElements list)).map some ++ some ']' :: rest) := by simp [print, continued]
  have bracket (input : Input) : skipBlanks (some '[' :: input) = some '[' :: input := skipBlanks_opens (by decide) _
  rw [text, levels, value, bracket]
  cases depth with
  | zero => rfl
  | succ depth =>
      have read := elements_print exact returns fuel depth true rest (by omega)
      change (elements fuel depth true _).bind (fun found => .ok (array found.1, found.2)) = _
      rw [read]
      exact (reading_map _).trans (by simp [reading])

theorem returns_members {list : List (String × Json)} (sorted : list.Pairwise fun field next => field.1 < next.1)
    (returns : ∀ field ∈ list, Returns field.2) : Returns (.members list) := by
  intro fuel depth rest enough ends
  have size : (members list).print.length = (separated (printFields list)).length + 2 := by simp [print]
  have pieces := separated_length (printFields list)
  obtain ⟨fuel, rfl⟩ : ∃ less, fuel = less + 1 := ⟨fuel - 1, by omega⟩
  have levels : (members list).depth = depthOfFields list + 1 := rfl
  have text : (members list).print.map some ++ rest = some '\x7b' ::
      ((continued true (printFields list)).map some ++ some '\x7d' :: rest) := by simp [print, continued]
  have brace (input : Input) : skipBlanks (some '\x7b' :: input) = some '\x7b' :: input :=
    skipBlanks_opens (by decide) _
  have same : object list = members list := by rw [object, sortedByKey_sorted sorted]
  rw [text, levels, value, brace]
  cases depth with
  | zero => rfl
  | succ depth =>
      have read := fields_print returns fuel depth true rest (by omega)
      change (fields fuel depth true _).bind (fun found => .ok (object found.1, found.2)) = _
      rw [read]
      exact (reading_map _).trans (by simp [reading, same])

theorem Exact.returns {v : Json} (exact : Exact v) : Returns v := by
  induction exact with
  | null => exact returns_scalar rfl (by decide) rfl fun rest _ => rfl
  | bool value =>
      cases value with
      | true => exact returns_scalar rfl (by decide) rfl fun rest _ => rfl
      | false => exact returns_scalar rfl (by decide) rfl fun rest _ => rfl
  | integer low high => exact returns_integer low high
  | string text => exact returns_string text
  | array each ih => exact returns_array each ih
  | members sorted each ih => exact returns_members sorted ih

theorem symbols_ofString (text : String) : (Bytes.ofString text).symbols = text.toList.map some := by
  simp only [Bytes.symbols, Bytes.pieces, Bytes.decode?_ofString, List.flatMap_map]
  exact List.map_eq_flatMap.symm

/-- An exact value comes back from its text if it nests no deeper than the reader goes; otherwise the
reader refuses the text. -/
theorem Exact.ofBytes_text {v : Json} (exact : Exact v) :
    Shape.any.ofBytes (Bytes.ofString v.text) = if v.depth ≤ maxDepth then .ok v else .error .malformed := by
  have read := exact.returns (enough (v.print.map some)) maxDepth [] (by simp [enough]) .nil
  rw [List.append_nil] at read
  rw [Shape.ofBytes, symbols_ofString, text, String.toList_ofList, shaped, read, reading]
  split <;> rfl

end Dispatch.Json
