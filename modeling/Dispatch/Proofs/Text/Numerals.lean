import Dispatch.Number.Decimal

set_option autoImplicit false

namespace Dispatch

structure Numeral (n : Nat) (places : List Nat) : Prop where
  text : Decimal.digits n = places.map Nat.digitChar
  small : ∀ place ∈ places, place < 10
  value : places.foldl (fun value place => value * 10 + place) 0 = n
  leading : places.head? = some 0 → places = [0]
  nonempty : places ≠ []

namespace Numeral

theorem single {n : Nat} (small : n < 10) : Numeral n [n] where
  text := Nat.toDigits_of_lt_base small
  small := by simpa using small
  value := by simp
  leading := by simp
  nonempty := by simp

theorem snoc {n last : Nat} {places : List Nat} (numeral : Numeral n places) (positive : 0 < n) (small : last < 10) :
    Numeral (10 * n + last) (places ++ [last]) where
  text := by
    have split := Nat.toDigits_append_toDigits (b := 10) (n := n) (d := last) (by decide) positive small
    rw [Nat.toDigits_of_lt_base small] at split
    rw [List.map_append, ← numeral.text]
    exact split.symm
  small := by
    intro place member
    rcases List.mem_append.1 member with old | new
    · exact numeral.small place old
    · rwa [List.mem_singleton.1 new]
  value := by
    rw [List.foldl_append, numeral.value]
    simp [Nat.mul_comm]
  leading := by
    intro zero
    obtain ⟨first, rest, rfl⟩ := List.exists_cons_of_ne_nil numeral.nonempty
    have value := numeral.value
    rw [numeral.leading zero] at value
    exact absurd value (Nat.ne_of_lt positive)
  nonempty := by simp

theorem exists_places (n : Nat) : ∃ places, Numeral n places := by
  induction n using Nat.strongRecOn with
  | ind n ih =>
      by_cases small : n < 10
      · exact ⟨[n], single small⟩
      · obtain ⟨places, numeral⟩ := ih (n / 10) (by omega)
        have longer := numeral.snoc (by omega) (Nat.mod_lt n (by decide : 0 < 10))
        rw [Nat.div_add_mod] at longer
        exact ⟨places ++ [n % 10], longer⟩

end Numeral

theorem digitChar_code {place : Nat} (small : place < 10) :
    (Nat.digitChar place).isDigit = true ∧ (Nat.digitChar place).toNat - '0'.toNat = place := by
  have all : ∀ place : Fin 10, (Nat.digitChar place).isDigit = true ∧
    (Nat.digitChar place).toNat - '0'.toNat = place := by decide
  exact all ⟨place, small⟩

theorem digits_isDigit {n : Nat} {c : Char} (member : c ∈ Decimal.digits n) : c.isDigit = true := by
  obtain ⟨places, numeral⟩ := Numeral.exists_places n
  rw [numeral.text] at member
  obtain ⟨place, inside, rfl⟩ := List.mem_map.1 member
  exact (digitChar_code (numeral.small place inside)).1

end Dispatch
