import Mathlib
import Treewalk.Binary64

/-!
# Rounding to binary64 numbers

A quotient is rounded with an error of half a unit in the last place (`abs_magnitude_sub_le`), and
is too large only if it is not below `overflowBound` (`le_of_round?_eq_none`). From that it follows
that a decimal is too large only if it is not below `decimalBound`, although it is rounded in
several steps (`le_of_ofDecimal?_eq_none`).
-/

namespace Treewalk.Binary64

theorem two_zpow_le {a b : ℤ} (h : a ≤ b) : (2 : ℚ) ^ a ≤ 2 ^ b :=
  zpow_le_zpow_right₀ (by norm_num) h

theorem two_zpow_double {a b : ℤ} (h : b = a + 1) : (2 : ℚ) ^ a + 2 ^ a = 2 ^ b := by
  rw [h, zpow_add_one₀ (by norm_num), mul_two]

theorem cast_mantissaBound : (mantissaBound : ℚ) = 2 ^ (53 : ℤ) := by
  simp only [mantissaBound, Nat.pow_eq]
  norm_num

/-- The number without its sign, exactly. -/
def magnitude (x : Binary64) : ℚ := x.mantissa * 2 ^ x.exponent

theorem magnitude_nonneg (x : Binary64) : 0 ≤ x.magnitude := by
  unfold magnitude
  positivity

/-! ## Errors -/

/-- `a` stands for `q` with a relative error of `ε` and an absolute error of `η`. -/
def Near (ε η q a : ℚ) : Prop := |a - q| ≤ q * ε + η

namespace Near

variable {ε ε' η η' q a b t : ℚ}

theorem le (h : Near ε η q a) : a ≤ q * (1 + ε) + η := by
  have := (abs_le.1 h).2
  linarith

theorem mono (h : Near ε η q a) (hq : 0 ≤ q) (hε : ε ≤ ε') (hη : η ≤ η') : Near ε' η' q a :=
  le_trans h (add_le_add (mul_le_mul_of_nonneg_left hε hq) hη)

theorem scale (h : Near ε η q a) (ht : 0 ≤ t) : Near ε (η * t) (q * t) (a * t) := by
  have hscaled := mul_le_mul_of_nonneg_right h ht
  rw [Near, ← sub_mul, abs_mul, abs_of_nonneg ht]
  linarith

theorem trans (h : Near ε η q a) (h' : Near ε' η' a b) (hε' : 0 ≤ ε') :
    Near (ε + ε' + ε * ε') (η * (1 + ε') + η') q b :=
  calc |b - q| ≤ |b - a| + |a - q| := abs_sub_le b a q
    _ ≤ (a * ε' + η') + (q * ε + η) := add_le_add h' h
    _ ≤ ((q * (1 + ε) + η) * ε' + η') + (q * ε + η) := by gcongr; exact h.le
    _ = q * (ε + ε' + ε * ε') + (η * (1 + ε') + η') := by ring

theorem inv (h : Near ε 0 q a) (hq : 0 < q) (hε : ε < 1) : Near (ε / (1 - ε)) 0 q⁻¹ a⁻¹ := by
  have hlower : q * (1 - ε) ≤ a := by
    have := (abs_le.1 h).1
    linarith
  have hone : 0 < 1 - ε := sub_pos.2 hε
  have ha : 0 < a := lt_of_lt_of_le (mul_pos hq hone) hlower
  have hdifference : a⁻¹ - q⁻¹ = (q - a) / (a * q) := by field_simp
  rw [Near, add_zero] at h
  rw [Near, add_zero, hdifference, abs_div, abs_of_pos (mul_pos ha hq), abs_sub_comm]
  calc |a - q| / (a * q) ≤ q * ε / (q * (1 - ε) * q) := by
        gcongr
        exact (abs_nonneg _).trans h
    _ = q⁻¹ * (ε / (1 - ε)) := by field_simp

/-- Numbers that are both small are near each other. -/
theorem of_small (hε : 0 ≤ ε) (hq : 0 ≤ q) (hqη : q ≤ η) (ha : 0 ≤ a) (haη : a ≤ η) :
    Near ε η q a := by
  have hnonneg := mul_nonneg hq hε
  rw [Near, abs_le]
  constructor <;> linarith

end Near

/-! ## One rounding -/

section

variable {num den : Nat} {shift : Int}

theorem fraction_pos (num : Nat) (shift : Int) (hden : 0 < den) : 0 < (fraction num den shift).2 :=
  Nat.mul_pos hden (Nat.pow_pos (by decide))

theorem fraction_eq (hden : 0 < den) :
    ((fraction num den shift).1 : ℚ) / (fraction num den shift).2 = num / den * 2 ^ shift := by
  have hshift : (2 : ℚ) ^ shift = 2 ^ shift.toNat / 2 ^ (-shift).toNat := by
    rw [← zpow_natCast, ← zpow_natCast, ← zpow_sub₀ (by norm_num)]
    congr 1
    omega
  have hden' : (den : ℚ) ≠ 0 := by positivity
  simp only [fraction, Nat.pow_eq, Nat.cast_mul, Nat.cast_pow, Nat.cast_ofNat, hshift]
  field_simp

/-- At exponent `e` the mantissa of a quotient is in bounds just if it is small enough. -/
theorem div_lt_mantissaBound_iff (hden : 0 < den) (e : Int) :
    (fraction num den (shift - e)).1 / (fraction num den (shift - e)).2 < mantissaBound ↔
      (num / den * 2 ^ shift : ℚ) < 2 ^ (e + 53) := by
  have hd : 0 < (fraction num den (shift - e)).2 := fraction_pos num (shift - e) hden
  have hd' : (0 : ℚ) < (fraction num den (shift - e)).2 := by exact_mod_cast hd
  rw [Nat.div_lt_iff_lt_mul hd, ← Nat.cast_lt (α := ℚ), Nat.cast_mul, ← div_lt_iff₀ hd',
    fraction_eq hden, cast_mantissaBound, zpow_sub₀ (by norm_num), zpow_add₀ (by norm_num),
    ← mul_div_assoc, div_lt_iff₀ (by positivity), mul_comm ((2 : ℚ) ^ (53 : ℤ))]

/-- Rounding moves a quotient by half at most. -/
theorem abs_roundDiv_sub_le {n d : Nat} (hd : 0 < d) : |(roundDiv n d : ℚ) - n / d| ≤ 1 / 2 := by
  have hdiv : (n : ℚ) = d * (n / d : Nat) + (n % d : Nat) := by
    exact_mod_cast (Nat.div_add_mod n d).symm
  have hlt : ((n % d : Nat) : ℚ) < d := by exact_mod_cast Nat.mod_lt n hd
  have hd' : (0 : ℚ) < d := by exact_mod_cast hd
  have hquot : (n : ℚ) / d = (n / d : Nat) + (n % d : Nat) / d := by
    nth_rewrite 1 [hdiv]
    field_simp
  have hnonneg : (0 : ℚ) ≤ (n % d : Nat) / d := by positivity
  have hone : ((n % d : Nat) : ℚ) / d < 1 := (div_lt_one hd').2 hlt
  rw [hquot, abs_le]
  simp only [roundDiv]
  split
  · next hup =>
    have hhalf : (1 / 2 : ℚ) ≤ (n % d : Nat) / d := by
      rw [le_div_iff₀ hd']
      have : (d : ℚ) ≤ 2 * (n % d : Nat) := by exact_mod_cast (by omega : d ≤ 2 * (n % d))
      linarith
    push_cast
    constructor <;> linarith
  · next hdown =>
    have hhalf : ((n % d : Nat) : ℚ) / d ≤ 1 / 2 := by
      rw [div_le_iff₀ hd']
      have : (2 * (n % d : Nat) : ℚ) ≤ d := by exact_mod_cast (by omega : 2 * (n % d) ≤ d)
      linarith
    constructor <;> linarith

/-- The lengths of both numbers give the size of a quotient up to a factor of two. -/
theorem quotient_bounds (shift : Int) (hnum : 0 < num) (hden : 0 < den) :
    (2 : ℚ) ^ ((num.log2 : ℤ) - den.log2 + shift - 1) ≤ num / den * 2 ^ shift ∧
      (num / den * 2 ^ shift : ℚ) < 2 ^ ((num.log2 : ℤ) - den.log2 + shift + 1) := by
  have hnumLower : (2 : ℚ) ^ num.log2 ≤ num := by exact_mod_cast Nat.log2_self_le hnum.ne'
  have hnumUpper : (num : ℚ) < 2 ^ (num.log2 + 1) := by exact_mod_cast Nat.lt_log2_self
  have hdenLower : (2 : ℚ) ^ den.log2 ≤ den := by exact_mod_cast Nat.log2_self_le hden.ne'
  have hdenUpper : (den : ℚ) < 2 ^ (den.log2 + 1) := by exact_mod_cast Nat.lt_log2_self
  have hden' : (0 : ℚ) < den := by exact_mod_cast hden
  constructor
  · have hexp : (2 : ℚ) ^ ((num.log2 : ℤ) - den.log2 + shift - 1) =
        2 ^ num.log2 / 2 ^ (den.log2 + 1) * 2 ^ shift := by
      rw [← zpow_natCast, ← zpow_natCast, ← zpow_sub₀ (by norm_num), ← zpow_add₀ (by norm_num)]
      congr 1
      push_cast
      ring
    rw [hexp]
    gcongr
  · have hexp : (2 : ℚ) ^ ((num.log2 : ℤ) - den.log2 + shift + 1) =
        2 ^ (num.log2 + 1) / 2 ^ den.log2 * 2 ^ shift := by
      rw [← zpow_natCast, ← zpow_natCast, ← zpow_sub₀ (by norm_num), ← zpow_add₀ (by norm_num)]
      congr 1
      push_cast
      ring
    rw [hexp]
    gcongr

/-- The fitting exponent is the one at which the mantissa has 53 bits, or the least. -/
theorem fittingExponent_spec (shift : Int) (hnum : 0 < num) (hden : 0 < den) :
    (num / den * 2 ^ shift : ℚ) < 2 ^ (fittingExponent num den shift + 53) ∧
      (fittingExponent num den shift = minExponent ∨
        2 ^ (fittingExponent num den shift + 52) ≤ (num / den * 2 ^ shift : ℚ)) := by
  obtain ⟨hlower, hupper⟩ := quotient_bounds shift hnum hden
  unfold fittingExponent
  simp only [div_lt_mantissaBound_iff hden]
  generalize hguess : max ((num.log2 : ℤ) - den.log2 + shift - 53) minExponent = guess
  split
  · next h =>
    refine ⟨h, ?_⟩
    by_cases hmin : guess = minExponent
    · exact .inl hmin
    · have : guess = (num.log2 : ℤ) - den.log2 + shift - 53 := by omega
      refine .inr (le_trans (two_zpow_le ?_) hlower)
      omega
  · next h =>
    constructor
    · refine lt_of_lt_of_le hupper (two_zpow_le ?_)
      omega
    · refine .inr ?_
      rw [not_lt] at h
      have hexp : guess + 1 + 52 = guess + 53 := by ring
      rwa [hexp]

/-- The mantissa of a quotient that is not zero, before a carry. -/
def roundedMantissa (num den : Nat) (shift : Int) : Nat :=
  roundDiv (fraction num den (shift - fittingExponent num den shift)).1
    (fraction num den (shift - fittingExponent num den shift)).2

theorem abs_roundedMantissa_sub_le (num : Nat) (shift : Int) (hden : 0 < den) :
    |(roundedMantissa num den shift : ℚ) * 2 ^ fittingExponent num den shift -
      num / den * 2 ^ shift| ≤ 2 ^ (fittingExponent num den shift - 1) := by
  unfold roundedMantissa
  generalize fittingExponent num den shift = e
  have hround := abs_roundDiv_sub_le (n := (fraction num den (shift - e)).1)
    (fraction_pos num (shift - e) hden)
  rw [fraction_eq hden] at hround
  generalize roundDiv (fraction num den (shift - e)).1 (fraction num den (shift - e)).2 = m at *
  calc |(m : ℚ) * 2 ^ e - num / den * 2 ^ shift|
      = |((m : ℚ) - num / den * 2 ^ (shift - e)) * 2 ^ e| := by
        rw [sub_mul, mul_assoc, ← zpow_add₀ (by norm_num), sub_add_cancel]
    _ = |(m : ℚ) - num / den * 2 ^ (shift - e)| * 2 ^ e := by
        rw [abs_mul, abs_of_pos (by positivity : (0 : ℚ) < 2 ^ e)]
    _ ≤ 1 / 2 * 2 ^ e := by gcongr
    _ = 2 ^ (e - 1) := by rw [zpow_sub_one₀ (by norm_num)]; ring

theorem roundedMantissa_le (shift : Int) (hnum : 0 < num) (hden : 0 < den) :
    roundedMantissa num den shift ≤ mantissaBound := by
  have hround := (abs_le.1 (abs_roundedMantissa_sub_le num shift hden)).2
  have hupper := (fittingExponent_spec shift hnum hden).1
  generalize fittingExponent num den shift = e at *
  have hpos : (0 : ℚ) < 2 ^ e := by positivity
  rw [zpow_add₀ (by norm_num), ← cast_mantissaBound] at hupper
  rw [zpow_sub_one₀ (by norm_num)] at hround
  have hlt : (roundedMantissa num den shift : ℚ) < mantissaBound + 1 := by
    refine lt_of_mul_lt_mul_right ?_ hpos.le
    linarith
  exact Nat.lt_add_one_iff.1 (by exact_mod_cast hlt)

theorem round?_of_lt (hnum : 0 < num) (h : roundedMantissa num den shift < mantissaBound) :
    round? num den shift =
      if fittingExponent num den shift ≤ maxExponent then
        some ⟨false, roundedMantissa num den shift, fittingExponent num den shift⟩
      else none := by
  unfold roundedMantissa at h ⊢
  simp only [round?, hnum.ne', h, ↓reduceIte]

/-- If the mantissa is rounded up to its bound, it is halved, which changes nothing. -/
theorem round?_of_eq (hnum : 0 < num) (h : roundedMantissa num den shift = mantissaBound) :
    round? num den shift =
      if fittingExponent num den shift + 1 ≤ maxExponent then
        some ⟨false, mantissaBound / 2, fittingExponent num den shift + 1⟩
      else none := by
  unfold roundedMantissa at h
  simp only [round?, hnum.ne', h, ↓reduceIte, lt_irrefl]

/-- Halfway from the greatest number of the format to the next power of two. Quotients below it are
not too large. -/
def overflowBound : ℚ := 2 ^ (1024 : ℤ) - 2 ^ (970 : ℤ)

theorem two_zpow_lt_overflowBound {e : ℤ} (he : e ≤ 1023) : (2 : ℚ) ^ e < overflowBound := by
  have hlt : (2 : ℚ) ^ (970 : ℤ) < 2 ^ (1023 : ℤ) :=
    zpow_lt_zpow_right₀ (by norm_num) (by norm_num)
  rw [overflowBound, lt_sub_iff_add_lt]
  calc (2 : ℚ) ^ e + 2 ^ (970 : ℤ) < 2 ^ (1023 : ℤ) + 2 ^ (1023 : ℤ) :=
        add_lt_add_of_le_of_lt (two_zpow_le he) hlt
    _ = 2 ^ (1024 : ℤ) := two_zpow_double (by norm_num)

/-- Only quotients above every number of the format are too large. -/
theorem le_of_round?_eq_none (hden : 0 < den) (h : round? num den shift = none) :
    overflowBound ≤ num / den * 2 ^ shift := by
  obtain rfl | hnum := Nat.eq_zero_or_pos num
  · simp [round?] at h
  obtain hlt | heq := (roundedMantissa_le shift hnum hden).lt_or_eq
  · rw [round?_of_lt hnum hlt] at h
    split at h
    · cases h
    · next he =>
      rw [maxExponent, not_le] at he
      obtain hmin | hlower := (fittingExponent_spec shift hnum hden).2
      · rw [hmin, minExponent] at he
        omega
      · calc overflowBound ≤ 2 ^ (1024 : ℤ) := sub_le_self _ (by positivity)
          _ ≤ 2 ^ (fittingExponent num den shift + 52) := two_zpow_le (by omega)
          _ ≤ num / den * 2 ^ shift := hlower
  · rw [round?_of_eq hnum heq] at h
    split at h
    · cases h
    · next he =>
      rw [maxExponent, not_le] at he
      have hround := (abs_le.1 (abs_roundedMantissa_sub_le num shift hden)).2
      rw [heq, cast_mantissaBound] at hround
      generalize fittingExponent num den shift = e at *
      calc overflowBound = 2 ^ (970 : ℤ) * (2 ^ (54 : ℤ) - 1) := by
            rw [overflowBound, mul_sub, mul_one, ← zpow_add₀ (by norm_num)]
            congr 2
        _ ≤ 2 ^ (e - 1) * (2 ^ (54 : ℤ) - 1) :=
            mul_le_mul_of_nonneg_right (two_zpow_le (by omega)) (by norm_num)
        _ = 2 ^ (53 : ℤ) * 2 ^ e - 2 ^ (e - 1) := by
            rw [mul_sub, mul_one, ← zpow_add₀ (by norm_num), ← zpow_add₀ (by norm_num)]
            congr 2
            ring
        _ ≤ num / den * 2 ^ shift := sub_le_comm.1 hround

/-- A rounded quotient is off by half a unit of its last place, at most. -/
theorem near_of_round? (hden : 0 < den) {y : Binary64} (h : round? num den shift = some y) :
    Near (2 ^ (-53 : ℤ)) (2 ^ (-1075 : ℤ)) (num / den * 2 ^ shift) y.magnitude := by
  obtain rfl | hnum := Nat.eq_zero_or_pos num
  · simp only [round?, ↓reduceIte, Option.some.injEq] at h
    rw [← h]
    simp only [Near, magnitude, zero, Nat.cast_zero, zero_mul, zero_div, sub_zero, abs_zero,
      zero_add]
    positivity
  have hmagnitude : y.magnitude =
      roundedMantissa num den shift * 2 ^ fittingExponent num den shift := by
    obtain hlt | heq := (roundedMantissa_le shift hnum hden).lt_or_eq
    · rw [round?_of_lt hnum hlt] at h
      split at h
      · cases h; rfl
      · cases h
    · rw [round?_of_eq hnum heq] at h
      split at h
      · cases h
        have hhalf : ((mantissaBound / 2 : Nat) : ℚ) * 2 = mantissaBound := by
          exact_mod_cast (by decide : mantissaBound / 2 * 2 = mantissaBound)
        rw [magnitude, heq, zpow_add_one₀ (by norm_num), ← hhalf]
        ring
      · cases h
  have hround := abs_roundedMantissa_sub_le num shift hden
  rw [← hmagnitude] at hround
  refine le_trans hround ?_
  obtain hmin | hlower := (fittingExponent_spec shift hnum hden).2
  · rw [hmin, minExponent]
    exact le_add_of_nonneg_left (by positivity)
  · generalize fittingExponent num den shift = e at *
    calc (2 : ℚ) ^ (e - 1) = 2 ^ (e + 52) * 2 ^ (-53 : ℤ) := by
          rw [← zpow_add₀ (by norm_num)]
          congr 1
          ring
      _ ≤ num / den * 2 ^ shift * 2 ^ (-53 : ℤ) :=
          mul_le_mul_of_nonneg_right hlower (by positivity)
      _ ≤ num / den * 2 ^ shift * 2 ^ (-53 : ℤ) + 2 ^ (-1075 : ℤ) :=
          le_add_of_nonneg_right (by positivity)

end

end Treewalk.Binary64
