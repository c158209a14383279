import Dispatch.Number.Binary64
import Mathlib.Algebra.Order.Field.Power
import Mathlib.Tactic.FieldSimp
import Mathlib.Tactic.Linarith
import Mathlib.Tactic.Positivity
import Mathlib.Tactic.Ring

set_option autoImplicit false

namespace Dispatch

theorem twoTo_cast (n : Nat) : (twoTo n : ℚ) = 2 ^ n := by simp [twoTo]

theorem twoTo_add (m n : Nat) : twoTo (m + n) = twoTo m * twoTo n := Nat.pow_add 2 m n

theorem twoTo_lt {m n : Nat} (less : m < n) : twoTo m < twoTo n := Nat.pow_lt_pow_right (by decide) less

theorem twoTo_pos (n : Nat) : 0 < twoTo n := Nat.two_pow_pos n

/-! ## Rounding to a natural number -/

theorem roundHalfEven_mul_right (numerator denominator : Nat) {factor : Nat} (positive : 0 < factor) :
    roundHalfEven (numerator * factor) (denominator * factor) = roundHalfEven numerator denominator := by
  have beyond : 2 * (numerator % denominator * factor) > denominator * factor ↔
      2 * (numerator % denominator) > denominator := by
    rw [← Nat.mul_assoc, gt_iff_lt, Nat.mul_lt_mul_right positive]
  have half : 2 * (numerator % denominator * factor) = denominator * factor ↔
      2 * (numerator % denominator) = denominator := by
    rw [← Nat.mul_assoc, Nat.mul_left_inj (Nat.ne_of_gt positive)]
  simp only [roundHalfEven, Nat.mul_div_mul_right _ _ positive, Nat.mul_mod_mul_right, beyond, half]

theorem roundHalfEven_congr {a b c d : Nat} (left : 0 < b) (right : 0 < d)
    (same : (a : ℚ) / b = c / d) : roundHalfEven a b = roundHalfEven c d := by
  have cross : a * d = c * b := by
    rw [div_eq_div_iff (by positivity) (by positivity)] at same
    exact_mod_cast same
  rw [← roundHalfEven_mul_right a b right, ← roundHalfEven_mul_right c d left, cross, Nat.mul_comm b d]

theorem roundHalfEven_one (n : Nat) : roundHalfEven n 1 = n := by
  simp [roundHalfEven, Nat.mod_one]

theorem roundHalfEven_whole {a b n : Nat} (positive : 0 < b) (whole : (a : ℚ) / b = n) :
    roundHalfEven a b = n := by
  rw [roundHalfEven_congr positive Nat.one_pos (c := n) (by simpa using whole), roundHalfEven_one]

theorem roundHalfEven_small {a b : Nat} (small : 2 * a < b) : roundHalfEven a b = 0 := by
  have under : a < b := by omega
  have beyond : ¬2 * a > b := by omega
  have half : 2 * a ≠ b := by omega
  simp [roundHalfEven, Nat.div_eq_of_lt under, Nat.mod_eq_of_lt under, half]
  omega

namespace Binary64

def Denotes (x : Binary64) (q : ℚ) : Prop :=
  ∃ (significand : Nat) (exponent : Int), x = .finite false significand exponent ∧
    (significand : ℚ) * 2 ^ exponent = q

def Fits (q : ℚ) : Prop :=
  ∃ (significand : Nat) (exponent : Int), significand < twoTo 53 ∧ lowest ≤ exponent ∧ exponent ≤ 971 ∧
    (significand : ℚ) * 2 ^ exponent = q

theorem fits_zero : Fits 0 := ⟨0, lowest, by decide, by decide, by decide, by simp⟩

theorem fits_natCast {n : Nat} (small : n < twoTo 53) : Fits n :=
  ⟨n, 0, small, by decide, by decide, by simp⟩

/-! ## Scaling -/

theorem scaled_value (numerator : Nat) {denominator : Nat} (positive : 0 < denominator) (shift : Int) :
    0 < (scaled numerator denominator shift).2 ∧
      ((scaled numerator denominator shift).1 : ℚ) / (scaled numerator denominator shift).2 =
        numerator / denominator * 2 ^ shift := by
  unfold scaled
  split
  · rename_i up
    obtain ⟨n, rfl⟩ := Int.eq_ofNat_of_zero_le up
    refine ⟨positive, ?_⟩
    simp [twoTo_cast]
    ring
  · rename_i down
    obtain ⟨n, rfl⟩ : ∃ n : Nat, shift = -(n : Int) := ⟨(-shift).toNat, by omega⟩
    refine ⟨Nat.mul_pos positive (twoTo_pos _), ?_⟩
    simp [twoTo_cast]
    field_simp

theorem magnitude_bounds {numerator denominator : Nat} (above : 0 < numerator) (below : 0 < denominator) :
    (2 : ℚ) ^ magnitude numerator denominator ≤ numerator / denominator ∧
      (numerator / denominator : ℚ) < 2 ^ (magnitude numerator denominator + 1) := by
  have low (n : Nat) (positive : 0 < n) : (2 : ℚ) ^ (n.log2 : Int) ≤ n := by
    rw [zpow_natCast]
    exact_mod_cast Nat.log2_self_le (Nat.ne_of_gt positive)
  have high (n : Nat) : (n : ℚ) < 2 ^ ((n.log2 : Int) + 1) := by
    have next : (n.log2 : Int) + 1 = ((n.log2 + 1 : Nat) : Int) := by push_cast; rfl
    rw [next, zpow_natCast]
    exact_mod_cast Nat.lt_log2_self
  have den : (0 : ℚ) < denominator := by exact_mod_cast below
  have num : (0 : ℚ) < numerator := by exact_mod_cast above
  have under : (2 : ℚ) ^ ((numerator.log2 : Int) - denominator.log2 - 1) < numerator / denominator := by
    rw [lt_div_iff₀ den]
    calc (2 : ℚ) ^ ((numerator.log2 : Int) - denominator.log2 - 1) * denominator
        < 2 ^ ((numerator.log2 : Int) - denominator.log2 - 1) * 2 ^ ((denominator.log2 : Int) + 1) := by
          gcongr
          exact high denominator
      _ = 2 ^ (numerator.log2 : Int) := by
          rw [← zpow_add₀ (by norm_num)]
          congr 1
          omega
      _ ≤ numerator := low numerator above
  have beyond : (numerator / denominator : ℚ) < 2 ^ ((numerator.log2 : Int) - denominator.log2 + 1) := by
    rw [div_lt_iff₀ den]
    calc (numerator : ℚ) < 2 ^ ((numerator.log2 : Int) + 1) := high numerator
      _ = 2 ^ ((numerator.log2 : Int) - denominator.log2 + 1) * 2 ^ (denominator.log2 : Int) := by
          rw [← zpow_add₀ (by norm_num)]
          congr 1
          omega
      _ ≤ 2 ^ ((numerator.log2 : Int) - denominator.log2 + 1) * denominator := by
          gcongr
          exact low denominator below
  obtain ⟨positive, value⟩ := scaled_value numerator below (-((numerator.log2 : Int) - denominator.log2))
  have positive' : (0 : ℚ) < (scaled numerator denominator
    (-((numerator.log2 : Int) - denominator.log2))).2 := by exact_mod_cast positive
  have guess : (scaled numerator denominator (-((numerator.log2 : Int) - denominator.log2))).1 <
        (scaled numerator denominator (-((numerator.log2 : Int) - denominator.log2))).2 ↔
      (numerator / denominator : ℚ) < 2 ^ ((numerator.log2 : Int) - denominator.log2) := by
    rw [← Nat.cast_lt (α := ℚ), ← div_lt_one positive', value, zpow_neg, ← div_eq_mul_inv,
      div_lt_one (by positivity)]
  unfold magnitude
  dsimp only
  split
  · rename_i less
    exact ⟨under.le, by rw [sub_add_cancel]; exact guess.1 less⟩
  · rename_i more
    exact ⟨le_of_not_gt fun less => more (guess.2 less), beyond⟩

/-! ## Rounding to a number -/

theorem ofRatio_exact {numerator denominator : Nat} (positive : 0 < denominator)
    (fits : Fits (numerator / denominator)) :
    Denotes (ofRatio false numerator denominator) (numerator / denominator) := by
  obtain ⟨significand, exponent, short, atLeast, atMost, value⟩ := fits
  by_cases zero : numerator = 0
  · exact ⟨0, lowest, by simp [ofRatio, zero], by simp [zero]⟩
  have two : (2 : ℚ) ≠ 0 := by norm_num
  obtain ⟨low, high⟩ := magnitude_bounds (Nat.pos_of_ne_zero zero) positive
  -- the exponent that is chosen is at most that of the value, so the significand is whole
  generalize chosen : max (magnitude numerator denominator - 52) lowest = least
  have within : least ≤ exponent := by
    have shorter : (2 : ℚ) ^ magnitude numerator denominator < 2 ^ (53 + exponent) := by
      calc (2 : ℚ) ^ magnitude numerator denominator ≤ significand * 2 ^ exponent := by rw [value]; exact low
        _ < 2 ^ (53 : Int) * 2 ^ exponent := by
            gcongr
            have cast : ((twoTo 53 : Nat) : ℚ) = 2 ^ (53 : Int) := twoTo_cast 53
            rw [← cast]
            exact_mod_cast short
        _ = 2 ^ (53 + exponent) := (zpow_add₀ two _ _).symm
    have := (zpow_lt_zpow_iff_right₀ (by norm_num : (1 : ℚ) < 2)).1 shorter
    omega
  obtain ⟨steps, rfl⟩ := Int.exists_add_of_le within
  obtain ⟨below, ratio⟩ := scaled_value numerator positive (-least)
  have whole : ((scaled numerator denominator (-least)).1 : ℚ) / (scaled numerator denominator (-least)).2 =
      (significand * 2 ^ steps : Nat) := by
    rw [ratio, ← value, zpow_add₀ two, zpow_neg]
    push_cast
    field_simp
    rw [zpow_natCast]
  have bounded : significand * 2 ^ steps < twoTo 53 := by
    have top : (numerator / denominator : ℚ) * 2 ^ (-least) < 2 ^ (53 : Int) := by
      calc (numerator / denominator : ℚ) * 2 ^ (-least)
          < 2 ^ (magnitude numerator denominator + 1) * 2 ^ (-least) := by gcongr
        _ = 2 ^ (magnitude numerator denominator + 1 - least) := (zpow_add₀ two _ _).symm
        _ ≤ 2 ^ (53 : Int) := zpow_le_zpow_right₀ (by norm_num) (by omega)
    rw [← ratio, whole] at top
    have cast : ((twoTo 53 : Nat) : ℚ) = 2 ^ (53 : Int) := twoTo_cast 53
    rw [← cast] at top
    exact_mod_cast top
  refine ⟨significand * 2 ^ steps, least, ?_, ?_⟩
  · simp only [ofRatio, if_neg zero, chosen, roundHalfEven_whole below whole,
      if_neg (Nat.ne_of_lt bounded), if_neg (show ¬least > 971 by omega)]
  · rw [← value, zpow_add₀ two, zpow_natCast]
    push_cast
    ring

theorem ofRatio_infinite (negative : Bool) {numerator denominator : Nat} (positive : 0 < denominator)
    (large : (2 : ℚ) ^ 1024 ≤ numerator / denominator) :
    ofRatio negative numerator denominator = .infinite negative := by
  have nonzero : numerator ≠ 0 := by
    rintro rfl
    simp only [Nat.cast_zero, zero_div] at large
    exact absurd large (not_le_of_gt (by positivity))
  obtain ⟨-, high⟩ := magnitude_bounds (Nat.pos_of_ne_zero nonzero) positive
  have beyond : (1024 : Int) < magnitude numerator denominator + 1 := by
    apply (zpow_lt_zpow_iff_right₀ (by norm_num : (1 : ℚ) < 2)).1
    exact lt_of_le_of_lt (by exact_mod_cast large) high
  simp only [ofRatio, if_neg nonzero]
  split
  · exact if_pos (by omega)
  · exact if_pos (by omega)

/-! ## Operations -/

variable {x y : Binary64} {p q : ℚ}

theorem ofRatio_denotes {ratio : Nat × Nat} (value : 0 < ratio.2 ∧ (ratio.1 : ℚ) / ratio.2 = q)
    (fits : Fits q) : Denotes (ofRatio false ratio.1 ratio.2) q := by
  obtain ⟨positive, rfl⟩ := value
  exact ofRatio_exact positive fits

theorem ofNat_denotes {n : Nat} (fits : Fits n) : Denotes (ofNat n) n :=
  @ofRatio_denotes n (n, 1) ⟨Nat.one_pos, by simp⟩ fits

theorem one_denotes : Denotes one 1 := by
  refine ⟨twoTo 52, -52, rfl, ?_⟩
  rw [twoTo_cast, zpow_neg]
  exact mul_inv_cancel₀ (by positivity)

theorem ratio_value (significand : Nat) (exponent : Int) :
    0 < (ratio significand exponent).2 ∧
      ((ratio significand exponent).1 : ℚ) / (ratio significand exponent).2 = significand * 2 ^ exponent := by
  simpa [ratio] using scaled_value significand Nat.one_pos exponent

theorem mul_value (m n : Nat) (e f : Int) :
    ((m * n : Nat) : ℚ) * 2 ^ (e + f) = m * 2 ^ e * (n * 2 ^ f) := by
  rw [zpow_add₀ (by norm_num)]
  push_cast
  ring

theorem mul_denotes (left : Denotes x p) (right : Denotes y q) (fits : Fits (p * q)) :
    Denotes (mul x y) (p * q) := by
  obtain ⟨m, e, rfl, rfl⟩ := left
  obtain ⟨n, f, rfl, rfl⟩ := right
  rw [← mul_value] at fits ⊢
  exact ofRatio_denotes (ratio_value _ _) fits

theorem mul_infinite (left : Denotes x p) (right : Denotes y q) (large : 2 ^ 1024 ≤ p * q) :
    mul x y = .infinite false := by
  obtain ⟨m, e, rfl, rfl⟩ := left
  obtain ⟨n, f, rfl, rfl⟩ := right
  rw [← mul_value] at large
  have value := ratio_value (m * n) (e + f)
  exact ofRatio_infinite false value.1 (large.trans_eq value.2.symm)

theorem significand_zero (significand : Nat) (exponent : Int) :
    significand = 0 ↔ (significand : ℚ) * 2 ^ exponent = 0 := by
  have power : (2 : ℚ) ^ exponent ≠ 0 := zpow_ne_zero _ (by norm_num)
  simp [power]

theorem mul_infinity (left : Denotes x p) :
    mul x (.infinite false) = if p = 0 then .nan else .infinite false := by
  obtain ⟨m, e, rfl, rfl⟩ := left
  simp only [mul, ← significand_zero]
  rfl

theorem infinity_mul (right : Denotes y q) :
    mul (.infinite false) y = if q = 0 then .nan else .infinite false := by
  obtain ⟨m, e, rfl, rfl⟩ := right
  simp only [mul, ← significand_zero]
  rfl

theorem div_denotes (left : Denotes x p) (right : Denotes y q) (nonzero : q ≠ 0) (fits : Fits (p / q)) :
    Denotes (div x y) (p / q) := by
  obtain ⟨m, e, rfl, rfl⟩ := left
  obtain ⟨n, f, rfl, rfl⟩ := right
  have divisor : n ≠ 0 := fun zero => nonzero ((significand_zero n f).1 zero)
  have value : ((m : ℚ) * 2 ^ e) / (n * 2 ^ f) = m / n * 2 ^ (e - f) := by
    rw [zpow_sub₀ (by norm_num), div_mul_div_comm]
  rw [value] at fits ⊢
  simp only [div, if_neg divisor]
  exact ofRatio_denotes (scaled_value m (Nat.pos_of_ne_zero divisor) (e - f)) fits

theorem addMagnitudes_denotes (left : Denotes x p) (right : Denotes y q) (fits : Fits (p + q)) :
    Denotes (addMagnitudes x y) (p + q) := by
  obtain ⟨m, e, rfl, rfl⟩ := left
  obtain ⟨n, f, rfl, rfl⟩ := right
  have aligned (k : Int) (atLeast : min e f ≤ k) :
      (2 : ℚ) ^ k = 2 ^ (k - min e f).toNat * 2 ^ min e f := by
    rw [← zpow_natCast, ← zpow_add₀ (by norm_num)]
    congr 1
    omega
  have value : (m : ℚ) * 2 ^ e + n * 2 ^ f =
      (m * twoTo (e - min e f).toNat + n * twoTo (f - min e f).toNat : Nat) * 2 ^ min e f := by
    push_cast
    rw [twoTo_cast, twoTo_cast, add_mul, mul_assoc, mul_assoc, ← aligned e (min_le_left e f),
      ← aligned f (min_le_right e f)]
  rw [value] at fits ⊢
  exact ofRatio_denotes (ratio_value _ _) fits

theorem atLeastOne_denotes (denotes : Denotes x q) : Denotes x.atLeastOne (max 1 q) := by
  obtain ⟨m, e, rfl, rfl⟩ := denotes
  obtain ⟨positive, value⟩ := ratio_value m e
  have atMost : (ratio m e).1 ≤ (ratio m e).2 ↔ (m : ℚ) * 2 ^ e ≤ 1 := by
    rw [← value, div_le_one (by exact_mod_cast positive), Nat.cast_le]
  by_cases low : (m : ℚ) * 2 ^ e ≤ 1
  · rw [max_eq_left low]
    simp [atLeastOne, atMost, low, one_denotes]
  · rw [max_eq_right (le_of_not_ge low)]
    simp only [atLeastOne, atMost, low, or_false, Bool.false_eq_true, if_false]
    exact ⟨m, e, rfl, rfl⟩

/-! ## Powers of two -/

theorem fits_scaled {significand steps : Nat} (short : significand < twoTo 53)
    (bounded : significand * twoTo steps < twoTo 1024) : Fits (significand * 2 ^ steps) := by
  by_cases low : steps ≤ 971
  · exact ⟨significand, steps, short, by unfold lowest; omega, by omega, by rw [zpow_natCast]⟩
  -- the places beyond the highest exponent move into the significand
  obtain ⟨more, rfl⟩ := Nat.exists_eq_add_of_le' (Nat.le_of_not_le low)
  refine ⟨significand * twoTo more, 971, ?_, by decide, by decide, ?_⟩
  · apply Nat.lt_of_mul_lt_mul_right (a := twoTo 971)
    rwa [Nat.mul_assoc, ← twoTo_add, ← twoTo_add 53 971]
  · rw [Nat.cast_mul, twoTo_cast, pow_add, mul_assoc]
    rfl

theorem fits_shrunk {significand steps : Nat} (short : significand < twoTo 53) (near : steps ≤ 1074) :
    Fits (significand / 2 ^ steps) := by
  refine ⟨significand, -steps, short, by unfold lowest; omega, by omega, ?_⟩
  rw [zpow_neg, zpow_natCast, div_eq_mul_inv]

def IsTwoTo (x : Binary64) (n : Nat) : Prop :=
  if n < 1024 then Denotes x (2 ^ n) else x = .infinite false

theorem fits_twoTo {n : Nat} (inRange : n < 1024) : Fits (2 ^ n) := by
  have fits : Fits ((1 : Nat) * 2 ^ n) := fits_scaled (by decide) (by simpa using twoTo_lt inRange)
  simpa using fits

theorem ofNat_twoTo {n : Nat} (inRange : n < 1024) : Denotes (ofNat (twoTo n)) (2 ^ n) := by
  rw [← twoTo_cast]
  apply ofNat_denotes
  rw [twoTo_cast]
  exact fits_twoTo inRange

theorem IsTwoTo.mul {m n : Nat} (left : IsTwoTo x m) (right : IsTwoTo y n) :
    IsTwoTo (mul x y) (m + n) := by
  have positive (k : Nat) : (2 : ℚ) ^ k ≠ 0 := pow_ne_zero k (by norm_num)
  unfold IsTwoTo at left right ⊢
  by_cases both : m < 1024 ∧ n < 1024
  · rw [if_pos both.1] at left
    rw [if_pos both.2] at right
    split
    · rename_i fits
      rw [pow_add]
      exact mul_denotes left right (by rw [← pow_add]; exact fits_twoTo fits)
    · rename_i large
      apply mul_infinite left right
      rw [← pow_add]
      exact pow_le_pow_right₀ (by norm_num) (Nat.le_of_not_lt large)
  · rw [if_neg (by omega)]
    by_cases first : m < 1024
    · rw [if_pos first] at left
      rw [if_neg fun second => both ⟨first, second⟩] at right
      rw [right, mul_infinity left, if_neg (positive m)]
    · rw [if_neg first] at left
      subst left
      split at right
      · rw [infinity_mul right, if_neg (positive n)]
      · rw [right]
        rfl

theorem powerLoop_isTwoTo (fuel : Nat) : ∀ {base product : Binary64} {m n exponent : Nat},
    IsTwoTo base m → IsTwoTo product n → exponent < twoTo fuel →
      IsTwoTo (powerLoop base product fuel exponent) (n + m * exponent) := by
  induction fuel with
  | zero =>
      intro base product m n exponent _ collected small
      obtain rfl : exponent = 0 := by simpa [twoTo] using small
      exact collected
  | succ fuel ih =>
      intro base product m n exponent square collected small
      have half : exponent / 2 < twoTo fuel := by
        rw [twoTo_add fuel 1] at small
        exact Nat.div_lt_of_lt_mul (by rwa [Nat.mul_comm] at small)
      have bit : IsTwoTo (if exponent % 2 = 1 then Binary64.mul product base else product)
          (n + m * (exponent % 2)) := by
        split
        · rename_i odd
          rw [odd, Nat.mul_one]
          exact collected.mul square
        · rename_i even
          rwa [show exponent % 2 = 0 by omega]
      unfold powerLoop
      dsimp only
      split
      · rename_i last
        have whole : exponent % 2 = exponent := by omega
        rw [whole] at bit ⊢
        exact bit
      · have rest := ih (square.mul square) bit half
        have count : n + m * exponent = n + m * (exponent % 2) + (m + m) * (exponent / 2) := by
          conv_lhs => rw [← Nat.mod_add_div exponent 2]
          ring
        rwa [count]

theorem one_isTwoTo : IsTwoTo one 0 := by simpa [IsTwoTo] using one_denotes

theorem power_isTwoTo {places steps : Nat} (base : Denotes x (2 ^ places)) (inRange : places < 1024)
    (few : steps < twoTo 64) : IsTwoTo (power x steps) (places * steps) := by
  have start : IsTwoTo x places := by rwa [IsTwoTo, if_pos inRange]
  have loop := powerLoop_isTwoTo 64 start one_isTwoTo few
  have forward : ¬((steps : Int) < 0) := by omega
  simpa [power, forward] using loop

theorem power_reciprocal {places steps : Nat} (base : Denotes x (2 ^ places)) (inRange : places < 1024)
    (few : steps < twoTo 64) (some : 0 < steps) :
    Denotes (power x (-steps)) (if places * steps < 1024 then 1 / 2 ^ (places * steps) else 0) := by
  have start : IsTwoTo x places := by rwa [IsTwoTo, if_pos inRange]
  have loop := powerLoop_isTwoTo 64 start one_isTwoTo few
  have backward : -(steps : Int) < 0 := by omega
  simp only [power, backward, if_true, Int.natAbs_neg, Int.natAbs_natCast]
  rw [Nat.zero_add] at loop
  unfold IsTwoTo at loop
  split at loop
  · rename_i near
    rw [if_pos near]
    apply div_denotes one_denotes loop (pow_ne_zero _ (by norm_num))
    have fits : Fits ((1 : Nat) / 2 ^ (places * steps)) := fits_shrunk (by decide) (by omega)
    simpa using fits
  · rename_i far
    rw [if_neg far, loop]
    exact ⟨0, lowest, rfl, by simp⟩

end Binary64

end Dispatch
