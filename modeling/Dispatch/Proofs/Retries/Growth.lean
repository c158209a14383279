import Dispatch.Retry
import Dispatch.Proofs.Number.Exactness

/-!
# Exponential back-off

Where the delay is a whole number of seconds and the factor a power of two, every product in `delayFor` is
exact until it is infinite, so that `exactWait` computes the same waits in natural numbers.
-/

set_option autoImplicit false

namespace Dispatch

namespace RetryPolicy

/-- A delay of whole seconds that grows by `2 ^ places` with every attempt. -/
structure Doubles (policy : RetryPolicy) (seconds places : Nat) : Prop where
  delay : policy.delay = .ofSeconds seconds
  short : seconds < twoTo 53
  factor : policy.multiplier = .ofNat (twoTo places)
  finite : places < 1024
  longest : policy.maxDelay < .ofSeconds (twoTo 64)

def lawfulWait (policy : RetryPolicy) (factor attempt : Nat) : Duration :=
  min policy.maxDelay (policy.delay * factor ^ (attempt - 1))

def exactWait (policy : RetryPolicy) (seconds places attempt : Nat) : Option Duration :=
  let steps := places * (attempt - 1)
  if twoTo 31 < attempt then
    -- the exponent has wrapped round to a negative number
    let back := places * (twoTo 32 + 1 - attempt)
    some (min policy.maxDelay (roundHalfEven (Duration.ofSeconds seconds) (twoTo back)))
  else if 1024 ≤ steps ∨ twoTo 1024 ≤ seconds * twoTo steps then some policy.maxDelay
  else if twoTo 64 ≤ seconds * twoTo steps then Option.none
  else some (min policy.maxDelay (.ofSeconds (seconds * twoTo steps)))

/-! ## Seconds -/

theorem seconds_whole {n : Nat} (short : n < twoTo 53) : (seconds (.ofSeconds n)).Denotes n := by
  have whole : Duration.ofSeconds n / 1000000000 = n := Nat.mul_div_cancel n (by decide)
  have rest : Duration.ofSeconds n % 1000000000 = 0 := Nat.mul_mod_left n 1000000000
  have number (k : Nat) (small : k < twoTo 53) := Binary64.ofNat_denotes (Binary64.fits_natCast small)
  have nothing : ((Binary64.ofNat 0).div (.ofNat 1000000000)).Denotes 0 := by
    have quotient := Binary64.div_denotes (number 0 (by decide)) (number 1000000000 (by decide)) (by norm_num)
    rw [Nat.cast_zero, zero_div] at quotient
    exact quotient Binary64.fits_zero
  unfold seconds
  rw [whole, rest]
  have sum := Binary64.addMagnitudes_denotes (number n short) nothing
  rw [add_zero] at sum
  exact sum (Binary64.fits_natCast short)

theorem ofSeconds?_none {x : Binary64} {q : ℚ} (denotes : x.Denotes q) (large : (twoTo 64 : ℚ) ≤ q) :
    ofSeconds? x = Option.none := by
  obtain ⟨m, e, rfl, rfl⟩ := denotes
  obtain ⟨positive, value⟩ := Binary64.ratio_value m e
  have reached : (Binary64.ratio m e).1 ≥ twoTo 64 * (Binary64.ratio m e).2 := by
    rw [← value, le_div_iff₀ (by exact_mod_cast positive)] at large
    exact_mod_cast large
  simp only [ofSeconds?]
  exact if_pos reached

theorem ofSeconds?_some {x : Binary64} {q : ℚ} (denotes : x.Denotes q) (small : q < (twoTo 64 : ℚ))
    {above below : Nat} (positive : 0 < below) (nanoseconds : (above : ℚ) / below = q * 1000000000) :
    ofSeconds? x = some (roundHalfEven above below) := by
  obtain ⟨m, e, rfl, rfl⟩ := denotes
  obtain ⟨nonzero, value⟩ := Binary64.ratio_value m e
  have less : ¬(Binary64.ratio m e).1 ≥ twoTo 64 * (Binary64.ratio m e).2 := by
    rw [← value, div_lt_iff₀ (by exact_mod_cast nonzero)] at small
    exact Nat.not_le_of_lt (by exact_mod_cast small)
  have same : (((Binary64.ratio m e).1 * 1000000000 : Nat) : ℚ) / (Binary64.ratio m e).2 = above / below := by
    rw [nanoseconds, ← value]
    push_cast
    ring
  simp only [ofSeconds?]
  rw [← roundHalfEven_congr nonzero positive same]
  exact if_neg less

/-! ## The exponent -/

theorem exponentAfter_forward {attempt : Nat} (early : attempt ≤ twoTo 31) :
    exponentAfter attempt = (attempt - 1 : Nat) := by
  have bound : twoTo 31 = 2147483648 := by decide
  have modulus : twoTo 32 = 4294967296 := by decide
  unfold exponentAfter
  rw [modulus]
  exact Int.bmod_eq_of_le (by omega) (by omega)

theorem exponentAfter_wrapped {attempt : Nat} (late : twoTo 31 < attempt) (counted : attempt ≤ maxCount) :
    exponentAfter attempt = -(twoTo 32 + 1 - attempt : Nat) := by
  have bound : twoTo 31 = 2147483648 := by decide
  have modulus : twoTo 32 = 4294967296 := by decide
  unfold maxCount at counted
  unfold exponentAfter
  rw [modulus] at counted ⊢
  have within : ((attempt - 1 : Nat) : Int) % (4294967296 : Nat) = (attempt - 1 : Nat) :=
    Int.emod_eq_of_lt (by omega) (by omega)
  rw [Int.bmod_def, within, if_neg (by omega)]
  omega

/-! ## The wait -/

def product (policy : RetryPolicy) (attempt : Nat) : Binary64 :=
  (seconds policy.delay).mul (policy.multiplier.atLeastOne.power (exponentAfter attempt))

variable {policy : RetryPolicy} {seconds places attempt : Nat}

theorem delayFor_finite {q : ℚ} (denotes : (policy.product attempt).Denotes q) :
    policy.delayFor attempt = (ofSeconds? (policy.product attempt)).map (min policy.maxDelay) := by
  obtain ⟨m, e, value, -⟩ := denotes
  have isFinite : (policy.product attempt).isFinite = true := by rw [value]; rfl
  exact if_pos isFinite

theorem delayFor_unbounded (unbounded : (policy.product attempt).isFinite = false) :
    policy.delayFor attempt = some policy.maxDelay :=
  if_neg (by rw [← product, unbounded]; decide)

namespace Doubles

theorem base (doubles : policy.Doubles seconds places) :
    policy.multiplier.atLeastOne.Denotes (2 ^ places) := by
  have atLeast := Binary64.atLeastOne_denotes (Binary64.ofNat_twoTo doubles.finite)
  rw [max_eq_right (one_le_pow₀ (by norm_num))] at atLeast
  rw [doubles.factor]
  exact atLeast

theorem starts (doubles : policy.Doubles seconds places) : (RetryPolicy.seconds policy.delay).Denotes seconds := by
  rw [doubles.delay]
  exact seconds_whole doubles.short

theorem power_forward (doubles : policy.Doubles seconds places) (early : attempt ≤ twoTo 31) :
    (policy.multiplier.atLeastOne.power (exponentAfter attempt)).IsTwoTo (places * (attempt - 1)) := by
  have bound : twoTo 31 < twoTo 64 := twoTo_lt (by decide)
  rw [exponentAfter_forward early]
  exact Binary64.power_isTwoTo doubles.base doubles.finite (by omega)

theorem product_exact (doubles : policy.Doubles seconds places) (early : attempt ≤ twoTo 31)
    (near : places * (attempt - 1) < 1024)
    (bounded : seconds * twoTo (places * (attempt - 1)) < twoTo 1024) :
    (policy.product attempt).Denotes (seconds * 2 ^ (places * (attempt - 1))) := by
  have power := doubles.power_forward early
  rw [Binary64.IsTwoTo, if_pos near] at power
  exact Binary64.mul_denotes doubles.starts power (Binary64.fits_scaled doubles.short bounded)

theorem product_unbounded (doubles : policy.Doubles seconds places) (early : attempt ≤ twoTo 31)
    (large : 1024 ≤ places * (attempt - 1) ∨ twoTo 1024 ≤ seconds * twoTo (places * (attempt - 1))) :
    (policy.product attempt).isFinite = false := by
  have power := doubles.power_forward early
  unfold product
  by_cases near : places * (attempt - 1) < 1024
  · rw [Binary64.IsTwoTo, if_pos near] at power
    rw [Binary64.mul_infinite doubles.starts power]
    · rfl
    · rw [← twoTo_cast, ← twoTo_cast]
      exact_mod_cast large.resolve_left (Nat.not_le_of_lt near)
  · rw [Binary64.IsTwoTo, if_neg near] at power
    rw [power, Binary64.mul_infinity doubles.starts]
    split
    · rfl
    · rfl

theorem product_wrapped (doubles : policy.Doubles seconds places) (late : twoTo 31 < attempt)
    (counted : attempt ≤ maxCount) :
    (policy.product attempt).Denotes (if places * (twoTo 32 + 1 - attempt) < 1024 then
      seconds / 2 ^ (places * (twoTo 32 + 1 - attempt)) else 0) := by
  have bound : twoTo 32 < twoTo 64 := twoTo_lt (by decide)
  have last : attempt ≤ twoTo 32 := Nat.le_trans counted (Nat.sub_le _ _)
  have least : 0 < twoTo 31 := twoTo_pos 31
  have few : twoTo 32 + 1 - attempt < twoTo 64 := by omega
  have power := Binary64.power_reciprocal doubles.base doubles.finite few (by omega)
  rw [← exponentAfter_wrapped late counted] at power
  split
  · rename_i near
    rw [if_pos near] at power
    have product := Binary64.mul_denotes doubles.starts power
    rw [mul_one_div] at product
    exact product (Binary64.fits_shrunk doubles.short (by omega))
  · rename_i far
    rw [if_neg far] at power
    have product := Binary64.mul_denotes doubles.starts power
    rw [mul_zero] at product
    exact product Binary64.fits_zero

theorem delayFor_wrapped (doubles : policy.Doubles seconds places) (late : twoTo 31 < attempt)
    (counted : attempt ≤ maxCount) :
    policy.delayFor attempt = some (min policy.maxDelay
      (roundHalfEven (Duration.ofSeconds seconds) (twoTo (places * (twoTo 32 + 1 - attempt))))) := by
  have denotes := doubles.product_wrapped late counted
  rw [delayFor_finite denotes]
  generalize places * (twoTo 32 + 1 - attempt) = back at denotes ⊢
  have short : (seconds : ℚ) < twoTo 53 := by exact_mod_cast doubles.short
  have range : (twoTo 53 : ℚ) < twoTo 64 := by exact_mod_cast twoTo_lt (by decide)
  split at denotes
  · have less : (seconds : ℚ) / 2 ^ back ≤ seconds :=
      div_le_self (by positivity) (one_le_pow₀ (by norm_num))
    rw [ofSeconds?_some denotes (by linarith) (twoTo_pos back)]
    · rfl
    · rw [twoTo_cast, Duration.ofSeconds]
      push_cast
      ring
  · rename_i far
    -- so far back not even a nanosecond is left
    have nothing : ((0 : Nat) : ℚ) / (1 : Nat) = 0 * 1000000000 := by simp
    rw [ofSeconds?_some denotes (by linarith) Nat.one_pos nothing]
    have rounds : roundHalfEven (Duration.ofSeconds seconds) (twoTo back) = 0 := by
      apply roundHalfEven_small
      have enough : twoTo 84 < twoTo back := twoTo_lt (by omega)
      have amount : twoTo 84 = 2147483648 * twoTo 53 := by decide
      have short := doubles.short
      unfold Duration.ofSeconds
      omega
    rw [rounds, roundHalfEven_one]
    rfl

theorem delayFor_forward (doubles : policy.Doubles seconds places) (early : attempt ≤ twoTo 31)
    (near : places * (attempt - 1) < 1024)
    (bounded : seconds * twoTo (places * (attempt - 1)) < twoTo 1024) :
    policy.delayFor attempt =
      if twoTo 64 ≤ seconds * twoTo (places * (attempt - 1)) then Option.none
      else some (min policy.maxDelay (.ofSeconds (seconds * twoTo (places * (attempt - 1))))) := by
  have denotes := doubles.product_exact early near bounded
  rw [delayFor_finite denotes]
  rw [← twoTo_cast] at denotes
  split
  · rename_i large
    rw [ofSeconds?_none denotes (by exact_mod_cast large)]
    rfl
  · rename_i small
    have nanoseconds : (Duration.ofSeconds (seconds * twoTo (places * (attempt - 1))) : ℚ) / (1 : Nat) =
        seconds * twoTo (places * (attempt - 1)) * 1000000000 := by
      unfold Duration.ofSeconds
      push_cast
      ring
    rw [ofSeconds?_some denotes (by exact_mod_cast Nat.lt_of_not_le small) Nat.one_pos nanoseconds,
      roundHalfEven_one]
    rfl

theorem delayFor_exact (doubles : policy.Doubles seconds places) (counted : attempt ≤ maxCount) :
    policy.delayFor attempt = policy.exactWait seconds places attempt := by
  simp only [exactWait]
  split
  · rename_i late
    exact doubles.delayFor_wrapped late counted
  · rename_i notLate
    have early : attempt ≤ twoTo 31 := Nat.le_of_not_lt notLate
    split
    · rename_i large
      exact delayFor_unbounded (doubles.product_unbounded early large)
    · rename_i inRange
      exact doubles.delayFor_forward early (by omega) (by omega)

/-! ## The law -/

theorem lawful (doubles : policy.Doubles seconds places) :
    policy.lawfulWait (twoTo places) attempt =
      min policy.maxDelay (Duration.ofSeconds (seconds * twoTo (places * (attempt - 1)))) := by
  have grown : twoTo places ^ (attempt - 1) = twoTo (places * (attempt - 1)) :=
    (Nat.pow_mul 2 places (attempt - 1)).symm
  unfold lawfulWait
  rw [grown, doubles.delay]
  unfold Duration.ofSeconds
  rw [Nat.mul_right_comm]

theorem lawful_longest (doubles : policy.Doubles seconds places)
    (large : twoTo 64 ≤ seconds * twoTo (places * (attempt - 1))) :
    policy.lawfulWait (twoTo places) attempt = policy.maxDelay := by
  rw [doubles.lawful]
  apply Nat.min_eq_left
  exact Nat.le_of_lt (Nat.lt_of_lt_of_le doubles.longest (Nat.mul_le_mul_right _ large))

end Doubles

theorem large_of_steps (positive : 0 < seconds) {steps bound : Nat} (far : bound ≤ steps) :
    twoTo bound ≤ seconds * twoTo steps :=
  Nat.le_trans (Nat.pow_le_pow_right (by decide) far) (Nat.le_mul_of_pos_left _ positive)

theorem roundHalfEven_nothing (n : Nat) : roundHalfEven 0 (twoTo n) = 0 :=
  roundHalfEven_small (twoTo_pos n)

theorem exactWait_none :
    policy.exactWait seconds places attempt = Option.none ↔
      attempt ≤ twoTo 31 ∧ twoTo 64 ≤ seconds * twoTo (places * (attempt - 1)) ∧
        seconds * twoTo (places * (attempt - 1)) < twoTo 1024 := by
  simp only [exactWait]
  split
  · rename_i late
    simp [Nat.not_le_of_lt late]
  · rename_i early
    split
    · rename_i large
      have unbounded : 0 < seconds → twoTo 1024 ≤ seconds * twoTo (places * (attempt - 1)) := fun positive =>
        large.elim (large_of_steps positive) id
      have zero : seconds = 0 → seconds * twoTo (places * (attempt - 1)) < twoTo 64 := by
        rintro rfl
        rw [Nat.zero_mul]
        exact twoTo_pos 64
      simp only [reduceCtorEq, false_iff]
      omega
    · rename_i bounded
      split
      · rename_i large
        simp only [true_iff]
        omega
      · rename_i small
        simp only [reduceCtorEq, false_iff]
        omega

theorem exactWait_le {wait : Duration} (waits : policy.exactWait seconds places attempt = some wait) :
    wait ≤ policy.maxDelay := by
  simp only [exactWait] at waits
  split at waits
  · exact Option.some.inj waits ▸ Nat.min_le_left _ _
  · split at waits
    · exact Nat.le_of_eq (Option.some.inj waits).symm
    · split at waits
      · cases waits
      · exact Option.some.inj waits ▸ Nat.min_le_left _ _

theorem exactWait_mono {later : Nat} {wait longer : Duration} (order : attempt ≤ later)
    (early : later ≤ twoTo 31) (first : policy.exactWait seconds places attempt = some wait)
    (second : policy.exactWait seconds places later = some longer) : wait ≤ longer := by
  have steps : places * (attempt - 1) ≤ places * (later - 1) :=
    Nat.mul_le_mul_left places (Nat.sub_le_sub_right order 1)
  have grows : seconds * twoTo (places * (attempt - 1)) ≤ seconds * twoTo (places * (later - 1)) :=
    Nat.mul_le_mul_left seconds (Nat.pow_le_pow_right (by decide) steps)
  by_cases unbounded : 1024 ≤ places * (later - 1) ∨ twoTo 1024 ≤ seconds * twoTo (places * (later - 1))
  · simp only [exactWait, if_neg (Nat.not_lt_of_le early), if_pos unbounded] at second
    rw [← Option.some.inj second]
    exact exactWait_le first
  · have bounded : ¬(1024 ≤ places * (attempt - 1) ∨
        twoTo 1024 ≤ seconds * twoTo (places * (attempt - 1))) := by omega
    simp only [exactWait, if_neg (Nat.not_lt_of_le early), if_neg (Nat.not_lt_of_le (Nat.le_trans order early)),
      if_neg unbounded, if_neg bounded] at first second
    split at second
    · cases second
    · rename_i small
      rw [if_neg (by omega)] at first
      rw [← Option.some.inj first, ← Option.some.inj second]
      exact min_le_min_left _ (Nat.mul_le_mul_right _ grows)

theorem wrapped_lawful (doubles : policy.Doubles seconds places) (late : twoTo 31 < attempt) :
    min policy.maxDelay
        (roundHalfEven (Duration.ofSeconds seconds) (twoTo (places * (twoTo 32 + 1 - attempt)))) =
        policy.lawfulWait (twoTo places) attempt ↔
      places = 0 ∨ seconds = 0 ∨ policy.maxDelay ≤
        roundHalfEven (Duration.ofSeconds seconds) (twoTo (places * (twoTo 32 + 1 - attempt))) := by
  by_cases constant : places = 0
  · subst constant
    rw [doubles.lawful]
    simp [twoTo, roundHalfEven_one]
  by_cases nothing : seconds = 0
  · subst nothing
    simp [doubles.lawful, Duration.ofSeconds, roundHalfEven_nothing]
  · have far : 64 ≤ places * (attempt - 1) := by
      have bound : 64 < twoTo 31 := by decide
      apply Nat.le_trans _ (Nat.le_mul_of_pos_left _ (Nat.pos_of_ne_zero constant))
      omega
    rw [doubles.lawful_longest (large_of_steps (Nat.pos_of_ne_zero nothing) far)]
    simp [constant, nothing]

theorem unbounded_lawful (doubles : policy.Doubles seconds places)
    (large : 1024 ≤ places * (attempt - 1) ∨ twoTo 1024 ≤ seconds * twoTo (places * (attempt - 1))) :
    policy.maxDelay = policy.lawfulWait (twoTo places) attempt ↔
      (seconds * twoTo (places * (attempt - 1)) < twoTo 64 ∧
          (places * (attempt - 1) < 1024 ∨ policy.maxDelay = 0)) ∨
        twoTo 1024 ≤ seconds * twoTo (places * (attempt - 1)) := by
  by_cases nothing : seconds = 0
  · subst nothing
    have range : ¬twoTo 1024 ≤ 0 := Nat.not_le_of_lt (twoTo_pos 1024)
    simp only [Nat.zero_mul, range, or_false] at large
    simp [doubles.lawful, Duration.ofSeconds, range, twoTo_pos, Nat.not_lt_of_le large]
  · have unbounded : twoTo 1024 ≤ seconds * twoTo (places * (attempt - 1)) :=
      large.elim (large_of_steps (Nat.pos_of_ne_zero nothing)) id
    have reached := Nat.le_trans (Nat.le_of_lt (twoTo_lt (m := 64) (n := 1024) (by decide))) unbounded
    rw [doubles.lawful_longest reached]
    simp [unbounded]

theorem exactWait_lawful (doubles : policy.Doubles seconds places) :
    policy.exactWait seconds places attempt = some (policy.lawfulWait (twoTo places) attempt) ↔
      if twoTo 31 < attempt then
        places = 0 ∨ seconds = 0 ∨ policy.maxDelay ≤
          roundHalfEven (Duration.ofSeconds seconds) (twoTo (places * (twoTo 32 + 1 - attempt)))
      else
        (seconds * twoTo (places * (attempt - 1)) < twoTo 64 ∧
            (places * (attempt - 1) < 1024 ∨ policy.maxDelay = 0)) ∨
          twoTo 1024 ≤ seconds * twoTo (places * (attempt - 1)) := by
  simp only [exactWait]
  split
  · rename_i late
    rw [Option.some.injEq]
    exact wrapped_lawful doubles late
  · rename_i early
    split
    · rename_i large
      rw [Option.some.injEq]
      exact unbounded_lawful doubles large
    · rename_i bounded
      split
      · rename_i large
        simp only [reduceCtorEq, false_iff]
        omega
      · rename_i small
        rw [doubles.lawful]
        simp only [true_iff]
        omega

/-- The waits of a policy that doubles, where they follow the law, and what holds of them everywhere. -/
theorem delayFor_doubling (doubles : policy.Doubles seconds places) (counted : attempt ≤ maxCount) :
    policy.delayFor attempt = policy.exactWait seconds places attempt ∧
      (policy.delayFor attempt = some (policy.lawfulWait (twoTo places) attempt) ↔
        if twoTo 31 < attempt then
          places = 0 ∨ seconds = 0 ∨ policy.maxDelay ≤
            roundHalfEven (Duration.ofSeconds seconds) (twoTo (places * (twoTo 32 + 1 - attempt)))
        else
          (seconds * twoTo (places * (attempt - 1)) < twoTo 64 ∧
              (places * (attempt - 1) < 1024 ∨ policy.maxDelay = 0)) ∨
            twoTo 1024 ≤ seconds * twoTo (places * (attempt - 1))) ∧
      (policy.delayFor attempt = Option.none ↔
        attempt ≤ twoTo 31 ∧ twoTo 64 ≤ seconds * twoTo (places * (attempt - 1)) ∧
          seconds * twoTo (places * (attempt - 1)) < twoTo 1024) ∧
      (∀ wait, policy.delayFor attempt = some wait → wait ≤ policy.maxDelay) ∧
      (∀ later wait longer, attempt ≤ later → later ≤ twoTo 31 → policy.delayFor attempt = some wait →
        policy.delayFor later = some longer → wait ≤ longer) := by
  have range : twoTo 31 ≤ maxCount := by decide
  refine ⟨doubles.delayFor_exact counted, ?_, ?_, ?_, ?_⟩
  · rw [doubles.delayFor_exact counted]
    exact exactWait_lawful doubles
  · rw [doubles.delayFor_exact counted]
    exact exactWait_none
  · intro wait waits
    rw [doubles.delayFor_exact counted] at waits
    exact exactWait_le waits
  · intro later wait longer order early waits waitsLonger
    rw [doubles.delayFor_exact counted] at waits
    rw [doubles.delayFor_exact (Nat.le_trans early range)] at waitsLonger
    exact exactWait_mono order early waits waitsLonger

def everySecond : RetryPolicy := { standard with delay := .ofSeconds 1 }

theorem everySecond_doubles : everySecond.Doubles 1 1 where
  delay := rfl
  short := by decide
  factor := by decide
  finite := by decide
  longest := by decide

theorem delayFor_doubling_everySecond :
    everySecond.Doubles 1 1 ∧ 5 ≤ maxCount ∧ everySecond.delayFor 5 = some (Duration.ofSeconds 10) := by
  have counted : 5 ≤ maxCount := by decide
  exact ⟨everySecond_doubles, counted, (delayFor_doubling everySecond_doubles counted).2.1.2 (by decide)⟩

theorem everySecond_breaks_law :
    everySecond.Doubles 1 1 ∧ { everySecond with delay := 0 }.Doubles 0 1 ∧
      (everySecond.delayFor 65 = Option.none ∧
        everySecond.lawfulWait (twoTo 1) 65 = Duration.ofSeconds 10) ∧
      (everySecond.delayFor maxCount = some (Duration.ofMillis 250) ∧
        everySecond.lawfulWait (twoTo 1) maxCount = Duration.ofSeconds 10) ∧
      ({ everySecond with delay := 0 }.delayFor 1025 = some (Duration.ofSeconds 10) ∧
        { everySecond with delay := 0 }.lawfulWait (twoTo 1) 1025 = 0) := by
  have idle : { everySecond with delay := 0 }.Doubles 0 1 :=
    { everySecond_doubles with delay := rfl, short := by decide }
  refine ⟨everySecond_doubles, idle, ⟨?_, by decide⟩, ⟨?_, ?_⟩, ?_, ?_⟩
  · rw [everySecond_doubles.delayFor_exact (by decide)]
    decide +kernel
  · rw [everySecond_doubles.delayFor_exact (by decide)]
    decide +kernel
  · exact everySecond_doubles.lawful_longest (large_of_steps Nat.one_pos (by decide))
  · rw [idle.delayFor_exact (by decide)]
    decide +kernel
  · rw [idle.lawful, Nat.zero_mul]
    rfl

end RetryPolicy

end Dispatch
