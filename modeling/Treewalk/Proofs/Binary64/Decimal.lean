import Mathlib
import Treewalk.Proofs.Binary64.Rounding

/-!
# Decimals as binary64 numbers

A decimal is rounded in several steps: its significand, powers of ten, and every product or quotient
of them. Each function has a lemma that says how near its result is to the exact one, and the errors
add up to a few units in the last place (`near_of_ofDecimal?`). A decimal is too large only if it is
not below `decimalBound` (`le_of_ofDecimal?_eq_none`).
-/

namespace Treewalk.Binary64

variable {x y z : Binary64}

/-! ## Powers of ten -/

theorem ten_pow_lt_overflowBound {k : Nat} (hk : k ≤ maxPowerOfTen) :
    (10 : ℚ) ^ k < overflowBound := by
  -- the exponents are variables here so that no power is written out
  have hcast : ∀ a b c : Nat, Nat.pow 10 a + Nat.pow 2 b < Nat.pow 2 c →
      (10 : ℚ) ^ a + 2 ^ (b : ℤ) < 2 ^ (c : ℤ) := by
    intro a b c h
    rw [zpow_natCast, zpow_natCast]
    exact_mod_cast h
  have hmax := hcast 308 970 1024 (by decide +kernel)
  have hmono : (10 : ℚ) ^ k ≤ 10 ^ 308 := pow_le_pow_right₀ (by norm_num) hk
  rw [overflowBound, lt_sub_iff_add_lt]
  exact lt_of_le_of_lt (add_le_add_left hmono _) hmax

theorem two_zpow_le_ten_pow {a b : Nat} (h : Nat.pow 2 a ≤ Nat.pow 10 b) :
    (2 : ℚ) ^ (a : ℤ) ≤ 10 ^ b := by
  rw [zpow_natCast]
  exact_mod_cast h

theorem inv_ten_pow_maxPowerOfTen_le : ((10 : ℚ) ^ maxPowerOfTen)⁻¹ ≤ 2 ^ (-1023 : ℤ) := by
  rw [zpow_neg]
  exact inv_anti₀ (by positivity) (two_zpow_le_ten_pow (by decide +kernel))

/-- Natural numbers that are not too large are rounded with a small relative error. -/
theorem exists_ofNat? {n : Nat} (hn : (n : ℚ) < overflowBound) :
    ∃ x, ofNat? n = some x ∧ Near (2 ^ (-52 : ℤ)) 0 n x.magnitude := by
  obtain rfl | hpos := Nat.eq_zero_or_pos n
  · exact ⟨zero, rfl, by simp [Near, magnitude, zero]⟩
  have hquotient : (n : ℚ) / (1 : Nat) * 2 ^ (0 : ℤ) = n := by simp
  cases h : ofNat? n with
  | none =>
    have hle := le_of_round?_eq_none Nat.one_pos h
    rw [hquotient] at hle
    exact absurd hn (not_lt.2 hle)
  | some x =>
    have hround := near_of_round? Nat.one_pos h
    rw [hquotient] at hround
    refine ⟨x, rfl, le_trans hround ?_⟩
    have hone : (1 : ℚ) ≤ n := by exact_mod_cast hpos
    calc (n : ℚ) * 2 ^ (-53 : ℤ) + 2 ^ (-1075 : ℤ) ≤ n * 2 ^ (-53 : ℤ) + n * 2 ^ (-53 : ℤ) := by
          have htiny : (2 : ℚ) ^ (-1075 : ℤ) ≤ 2 ^ (-53 : ℤ) := two_zpow_le (by norm_num)
          have hunit : (2 : ℚ) ^ (-53 : ℤ) ≤ n * 2 ^ (-53 : ℤ) :=
            le_mul_of_one_le_left (by positivity) hone
          exact add_le_add le_rfl (htiny.trans hunit)
      _ = n * 2 ^ (-52 : ℤ) + 0 := by
          rw [← mul_add, two_zpow_double (b := -52) (by norm_num), add_zero]

theorem exists_powerOfTen? {k : Nat} (hk : k ≤ maxPowerOfTen) :
    ∃ p, powerOfTen? k = some p ∧ Near (2 ^ (-52 : ℤ)) 0 (10 ^ k) p.magnitude := by
  have hcast : ((Nat.pow 10 k : Nat) : ℚ) = 10 ^ k := by
    rw [Nat.pow_eq, Nat.cast_pow, Nat.cast_ofNat]
  have hlt := ten_pow_lt_overflowBound hk
  rw [← hcast] at hlt ⊢
  exact exists_ofNat? hlt

/-! ## Products and quotients -/

theorem mul?_quotient (x y : Binary64) :
    ((x.mantissa * y.mantissa : Nat) : ℚ) / (1 : Nat) * 2 ^ (x.exponent + y.exponent) =
      x.magnitude * y.magnitude := by
  rw [magnitude, magnitude, zpow_add₀ (by norm_num)]
  push_cast
  ring

theorem le_of_mul?_eq_none (h : x.mul? y = none) : overflowBound ≤ x.magnitude * y.magnitude := by
  rw [← mul?_quotient]
  exact le_of_round?_eq_none Nat.one_pos h

theorem near_of_mul? (h : x.mul? y = some z) :
    Near (2 ^ (-53 : ℤ)) (2 ^ (-1075 : ℤ)) (x.magnitude * y.magnitude) z.magnitude := by
  rw [← mul?_quotient]
  exact near_of_round? Nat.one_pos h

theorem exists_div? (hy : 0 < y.magnitude) (hlt : x.magnitude / y.magnitude < overflowBound) :
    ∃ z, x.div? y = some z ∧
      Near (2 ^ (-53 : ℤ)) (2 ^ (-1075 : ℤ)) (x.magnitude / y.magnitude) z.magnitude := by
  have hden : 0 < y.mantissa := by
    rw [Nat.pos_iff_ne_zero]
    intro h
    simp [magnitude, h] at hy
  have hquotient : (x.mantissa : ℚ) / y.mantissa * 2 ^ (x.exponent - y.exponent) =
      x.magnitude / y.magnitude := by
    rw [magnitude, magnitude, zpow_sub₀ (by norm_num)]
    field_simp
  cases h : x.div? y with
  | none =>
    have hle := le_of_round?_eq_none hden h
    rw [hquotient] at hle
    exact absurd hlt (not_lt.2 hle)
  | some z =>
    have hround := near_of_round? hden h
    rw [hquotient] at hround
    exact ⟨z, rfl, hround⟩

/-! ## Division by powers of ten -/

/-- `y` stands for `x` divided by `10 ^ k`, of which the power and the quotient are rounded. -/
def Divided (k : Nat) (x y : Binary64) : Prop :=
  Near (2 ^ (-51 : ℤ)) (2 ^ (-1075 : ℤ)) (x.magnitude * (10 ^ k)⁻¹) y.magnitude

theorem exists_divPower? {k : Nat} (hk : k ≤ maxPowerOfTen) (hx : x.magnitude ≤ 2 ^ (65 : ℤ)) :
    ∃ y, x.divPower? k = some y ∧ Divided k x y := by
  obtain ⟨p, hp, hround⟩ := exists_powerOfTen? hk
  have hexact : 0 ≤ x.magnitude * ((10 : ℚ) ^ k)⁻¹ := mul_nonneg x.magnitude_nonneg (by positivity)
  have hinv : Near (2 ^ (-52 : ℤ) / (1 - 2 ^ (-52 : ℤ))) 0 (x.magnitude * (10 ^ k)⁻¹)
      (x.magnitude / p.magnitude) := by
    have h := (hround.inv (by positivity) (by norm_num)).scale x.magnitude_nonneg
    rwa [zero_mul, mul_comm, mul_comm p.magnitude⁻¹, ← div_eq_mul_inv] at h
  have hquotient : x.magnitude * ((10 : ℚ) ^ k)⁻¹ ≤ x.magnitude :=
    mul_le_of_le_one_right x.magnitude_nonneg (inv_le_one_of_one_le₀ (one_le_pow₀ (by norm_num)))
  have hlt : x.magnitude / p.magnitude < overflowBound :=
    calc x.magnitude / p.magnitude ≤ x.magnitude * (10 ^ k)⁻¹ * 2 := by
          refine hinv.le.trans ?_
          rw [add_zero]
          exact mul_le_mul_of_nonneg_left (by norm_num) hexact
      _ ≤ 2 ^ (65 : ℤ) * 2 := mul_le_mul_of_nonneg_right (hquotient.trans hx) (by norm_num)
      _ = 2 ^ (66 : ℤ) := by norm_num
      _ < overflowBound := two_zpow_lt_overflowBound (by norm_num)
  have hpos : 0 < p.magnitude := by
    have := (abs_le.1 hround).1
    have hten : (0 : ℚ) < 10 ^ k := by positivity
    norm_num at this
    linarith
  obtain ⟨y, hy, hnear⟩ := exists_div? hpos hlt
  refine ⟨y, by rw [divPower?, hp, Option.bind_some, hy], ?_⟩
  refine (hinv.trans hnear (by positivity)).mono hexact (by norm_num) ?_
  rw [zero_mul, zero_add]

/-- Division does not lead above a bound, if that is not below the least number. -/
theorem Divided.magnitude_le {bound : ℚ} {k : Nat} (h : Divided k x y) (hk : 0 < k)
    (hbound : 2 ^ (-1074 : ℤ) ≤ bound) (hx : x.magnitude ≤ bound) : y.magnitude ≤ bound := by
  have hnonneg := x.magnitude_nonneg.trans hx
  have hten : ((10 : ℚ) ^ k)⁻¹ ≤ 10⁻¹ :=
    inv_anti₀ (by norm_num) (le_self_pow₀ (by norm_num) hk.ne')
  have hquotient : x.magnitude * ((10 : ℚ) ^ k)⁻¹ ≤ bound * 10⁻¹ :=
    mul_le_mul hx hten (by positivity) hnonneg
  have hleast : (2 : ℚ) ^ (-1075 : ℤ) + 2 ^ (-1075 : ℤ) = 2 ^ (-1074 : ℤ) :=
    two_zpow_double (by norm_num)
  calc y.magnitude ≤ x.magnitude * (10 ^ k)⁻¹ * (1 + 2 ^ (-51 : ℤ)) + 2 ^ (-1075 : ℤ) := Near.le h
    _ ≤ bound * 10⁻¹ * (1 + 2 ^ (-51 : ℤ)) + 2 ^ (-1075 : ℤ) := by gcongr
    _ ≤ bound * 10⁻¹ * 2 + 2 ^ (-1075 : ℤ) := by
        gcongr
        norm_num
    _ ≤ bound := by linarith

theorem magnitude_of_isZero (h : x.isZero = true) : x.magnitude = 0 := by
  rw [isZero, beq_iff_eq] at h
  rw [magnitude, h, Nat.cast_zero, zero_mul]

/-- Dividing by the greatest power of ten, or leaving zero as it is. -/
theorem exists_divGreatest?_step (n : Nat) (hx : x.magnitude ≤ 2 ^ (65 : ℤ)) :
    ∃ y, divGreatest? (n + 1) x = divGreatest? n y ∧ Divided maxPowerOfTen x y := by
  rw [divGreatest?]
  split
  · next hzero =>
    refine ⟨x, ?_, ?_⟩
    · cases n with
      | zero => rfl
      | succ n => rw [divGreatest?, if_pos hzero]
    · rw [Divided, magnitude_of_isZero hzero, zero_mul]
      exact .of_small (by positivity) le_rfl (by positivity) le_rfl (by positivity)
  · obtain ⟨y, hy, hdivided⟩ := exists_divPower? (le_refl maxPowerOfTen) hx
    exact ⟨y, by rw [hy, Option.bind_some], hdivided⟩

theorem exists_divGreatest? {bound : ℚ} (hlower : 2 ^ (-1074 : ℤ) ≤ bound)
    (hupper : bound ≤ 2 ^ (65 : ℤ)) (n : Nat) (hx : x.magnitude ≤ bound) :
    ∃ y, divGreatest? n x = some y ∧ y.magnitude ≤ bound := by
  induction n generalizing x with
  | zero => exact ⟨x, rfl, hx⟩
  | succ n ih =>
    obtain ⟨y, hy, hdivided⟩ := exists_divGreatest?_step n (hx.trans hupper)
    rw [hy]
    exact ih (hdivided.magnitude_le (by decide) hlower hx)

/-- Division by the greatest power of ten, seen from powers of two. -/
theorem Divided.magnitude_le_two_zpow {e e' : ℤ} (h : Divided maxPowerOfTen x y)
    (hx : x.magnitude ≤ 2 ^ e) (he : e - 1021 ≤ e') (he' : -1074 ≤ e') : y.magnitude ≤ 2 ^ e' :=
  calc y.magnitude
      ≤ x.magnitude * (10 ^ maxPowerOfTen)⁻¹ * (1 + 2 ^ (-51 : ℤ)) + 2 ^ (-1075 : ℤ) := Near.le h
    _ ≤ 2 ^ e * 2 ^ (-1023 : ℤ) * 2 ^ (1 : ℤ) + 2 ^ (-1075 : ℤ) := by
        have hten := inv_ten_pow_maxPowerOfTen_le
        gcongr
        norm_num
    _ ≤ 2 ^ (e' - 1) + 2 ^ (e' - 1) := by
        rw [← zpow_add₀ (by norm_num), ← zpow_add₀ (by norm_num)]
        exact add_le_add (two_zpow_le (by omega)) (two_zpow_le (by omega))
    _ = 2 ^ e' := two_zpow_double (by omega)

/-- After two divisions by the greatest power of ten next to nothing is left. -/
theorem exists_divGreatest?_small (n : Nat) (hx : x.magnitude ≤ 2 ^ (65 : ℤ)) :
    ∃ y, divGreatest? (n + 2) x = some y ∧ y.magnitude ≤ 2 ^ (-1074 : ℤ) := by
  obtain ⟨y, hy, hfirst⟩ := exists_divGreatest?_step (n + 1) hx
  have hyle : y.magnitude ≤ 2 ^ (-956 : ℤ) :=
    hfirst.magnitude_le_two_zpow hx (by norm_num) (by norm_num)
  obtain ⟨z, hz, hsecond⟩ := exists_divGreatest?_step n (hyle.trans (two_zpow_le (by norm_num)))
  have hzle : z.magnitude ≤ 2 ^ (-1074 : ℤ) :=
    hsecond.magnitude_le_two_zpow hyle (by norm_num) le_rfl
  rw [hy, hz]
  exact exists_divGreatest? le_rfl (two_zpow_le (by norm_num)) n hzle

/-- The exact result of two divisions is next to nothing, too. -/
theorem mul_inv_ten_pow_small {k : Nat} (hk : 2 * maxPowerOfTen ≤ k)
    (hx : x.magnitude ≤ 2 ^ (65 : ℤ)) : x.magnitude * (10 ^ k)⁻¹ ≤ 2 ^ (-1074 : ℤ) := by
  have hsquare : ((10 : ℚ) ^ k)⁻¹ ≤ (10 ^ maxPowerOfTen)⁻¹ * (10 ^ maxPowerOfTen)⁻¹ := by
    rw [← mul_inv, ← pow_add, ← Nat.two_mul]
    exact inv_anti₀ (by positivity) (pow_le_pow_right₀ (by norm_num) hk)
  have hbound := inv_ten_pow_maxPowerOfTen_le
  calc x.magnitude * (10 ^ k)⁻¹ ≤ 2 ^ (65 : ℤ) * (2 ^ (-1023 : ℤ) * 2 ^ (-1023 : ℤ)) := by
        refine mul_le_mul hx (hsquare.trans ?_) (by positivity) (by positivity)
        exact mul_le_mul hbound hbound (by positivity) (by positivity)
    _ ≤ 2 ^ (-1074 : ℤ) := by
        rw [← zpow_add₀ (by norm_num), ← zpow_add₀ (by norm_num)]
        exact two_zpow_le (by norm_num)

theorem exists_scaleDown? {k : Nat} (hk : 0 < k) (hx : x.magnitude ≤ 2 ^ (65 : ℤ)) :
    ∃ y, x.scaleDown? k = some y ∧
      Near (3 * 2 ^ (-51 : ℤ)) (2 ^ (-1074 : ℤ)) (x.magnitude * (10 ^ k)⁻¹) y.magnitude := by
  have hexact : 0 ≤ x.magnitude * ((10 : ℚ) ^ k)⁻¹ := mul_nonneg x.magnitude_nonneg (by positivity)
  have hleast : (2 : ℚ) ^ (-1075 : ℤ) + 2 ^ (-1075 : ℤ) = 2 ^ (-1074 : ℤ) :=
    two_zpow_double (by norm_num)
  obtain ⟨steps, hsteps⟩ : ∃ steps, steps = (k - 1) / maxPowerOfTen := ⟨_, rfl⟩
  obtain ⟨last, hlast⟩ : ∃ last, last = k - steps * maxPowerOfTen := ⟨_, rfl⟩
  obtain ⟨hsum, hlastPos, hlastMax⟩ :
      k = steps * maxPowerOfTen + last ∧ 0 < last ∧ last ≤ maxPowerOfTen := by
    rw [hlast, hsteps, maxPowerOfTen]
    omega
  simp only [scaleDown?, ← hsteps, ← hlast]
  obtain _ | _ | n := steps
  · obtain ⟨y, hy, hdivided⟩ := exists_divPower? hlastMax hx
    rw [Nat.zero_mul, Nat.zero_add] at hsum
    rw [hsum] at hexact ⊢
    exact ⟨y, hy, Near.mono hdivided hexact (by norm_num) (two_zpow_le (by norm_num))⟩
  · obtain ⟨y, hy, hfirst⟩ := exists_divGreatest?_step 0 hx
    have hyle := hfirst.magnitude_le (by decide) (two_zpow_le (by norm_num)) hx
    obtain ⟨z, hz, hsecond⟩ := exists_divPower? hlastMax hyle
    refine ⟨z, by rw [hy]; exact hz, ?_⟩
    have hscaled := Near.scale hfirst (by positivity : (0 : ℚ) ≤ (10 ^ last)⁻¹)
    have hnear := hscaled.trans hsecond (by positivity)
    have hpower : x.magnitude * (10 ^ maxPowerOfTen)⁻¹ * (10 ^ last)⁻¹ =
        x.magnitude * (10 ^ k)⁻¹ := by
      rw [hsum, Nat.one_mul, pow_add, mul_inv, mul_assoc]
    rw [hpower] at hnear
    refine hnear.mono hexact (by norm_num) ?_
    have hten : ((10 : ℚ) ^ last)⁻¹ ≤ 10⁻¹ :=
      inv_anti₀ (by norm_num) (le_self_pow₀ (by norm_num) hlastPos.ne')
    have hone : ((10 : ℚ) ^ last)⁻¹ * (1 + 2 ^ (-51 : ℤ)) ≤ 1 :=
      (mul_le_mul_of_nonneg_right hten (by positivity)).trans (by norm_num)
    rw [← hleast, mul_assoc]
    exact add_le_add (mul_le_of_le_one_right (by positivity) hone) le_rfl
  · obtain ⟨y, hy, hyle⟩ := exists_divGreatest?_small n hx
    obtain ⟨z, hz, hdivided⟩ := exists_divPower? hlastMax (hyle.trans (two_zpow_le (by norm_num)))
    refine ⟨z, by rw [hy]; exact hz, .of_small (by positivity) hexact ?_ z.magnitude_nonneg ?_⟩
    · refine mul_inv_ten_pow_small ?_ hx
      rw [hsum]
      nlinarith
    · exact hdivided.magnitude_le hlastPos le_rfl hyle

/-! ## Decimals -/

/-- Decimals below this are not too large. It is a few units below the greatest number of the
format, because a decimal is rounded in several steps. -/
def decimalBound : ℚ := 2 ^ (1024 : ℤ) - 2 ^ (974 : ℤ)

theorem decimalBound_mul_le : decimalBound * (1 + 2 ^ (-52 : ℤ)) ^ 2 ≤ overflowBound := by
  have hdecimal : decimalBound = 2 ^ (970 : ℤ) * (2 ^ (54 : ℤ) - 2 ^ (4 : ℤ)) := by
    rw [decimalBound, mul_sub, ← zpow_add₀ (by norm_num), ← zpow_add₀ (by norm_num)]
    rfl
  have hoverflow : overflowBound = 2 ^ (970 : ℤ) * (2 ^ (54 : ℤ) - 1) := by
    rw [overflowBound, mul_sub, mul_one, ← zpow_add₀ (by norm_num)]
    rfl
  rw [hdecimal, hoverflow, mul_assoc]
  exact mul_le_mul_of_nonneg_left (by norm_num) (by positivity)

theorem decimalBound_le_ten_pow {k : Nat} (hk : maxPowerOfTen < k) : decimalBound ≤ 10 ^ k :=
  calc decimalBound ≤ 2 ^ (1024 : ℤ) := sub_le_self _ (by positivity)
    _ ≤ 10 ^ (maxPowerOfTen + 1) := two_zpow_le_ten_pow (by decide +kernel)
    _ ≤ 10 ^ k := pow_le_pow_right₀ (by norm_num) hk

variable {s : Nat} {k : ℤ}

theorem ten_zpow_of_nonneg (hk : ¬k < 0) : (10 : ℚ) ^ k = 10 ^ k.toNat := by
  rw [← zpow_natCast]
  congr 1
  omega

theorem ten_zpow_of_neg (hk : k < 0) : (10 : ℚ) ^ k = (10 ^ k.natAbs)⁻¹ := by
  rw [← zpow_natCast, ← zpow_neg]
  congr 1
  omega

theorem exists_significand (hs : (s : ℚ) < 2 ^ (64 : ℤ)) :
    ∃ x, ofNat? s = some x ∧ Near (2 ^ (-52 : ℤ)) 0 s x.magnitude ∧ x.magnitude ≤ 2 ^ (65 : ℤ) := by
  obtain ⟨x, hx, hnear⟩ := exists_ofNat? (hs.trans (two_zpow_lt_overflowBound (by norm_num)))
  refine ⟨x, hx, hnear, ?_⟩
  calc x.magnitude ≤ s * (1 + 2 ^ (-52 : ℤ)) + 0 := hnear.le
    _ ≤ 2 ^ (64 : ℤ) * 2 + 0 := by
        gcongr
        norm_num
    _ = 2 ^ (65 : ℤ) := by norm_num

/-- A decimal is too large only if it is not below the bound. -/
theorem le_of_ofDecimal?_eq_none (hs : (s : ℚ) < 2 ^ (64 : ℤ)) (h : ofDecimal? s k = none) :
    decimalBound ≤ s * 10 ^ k := by
  obtain ⟨x, hx, hnear, hle⟩ := exists_significand hs
  rw [ofDecimal?, hx, Option.bind_some] at h
  split at h
  · next hk =>
    obtain ⟨y, hy, -⟩ := exists_scaleDown? (Int.natAbs_pos.2 hk.ne) hle
    rw [hy] at h
    cases h
  · next hk =>
    rw [ten_zpow_of_nonneg hk]
    split at h
    · next hmax =>
      obtain ⟨p, hp, hpnear⟩ := exists_powerOfTen? hmax
      have hupper := hnear.le
      have hpupper := hpnear.le
      rw [add_zero] at hupper hpupper
      rw [hp, Option.bind_some] at h
      have hproduct := decimalBound_mul_le.trans (le_of_mul?_eq_none h)
      refine le_of_mul_le_mul_right (hproduct.trans ?_)
        (by positivity : (0 : ℚ) < (1 + 2 ^ (-52 : ℤ)) ^ 2)
      calc x.magnitude * p.magnitude
          ≤ s * (1 + 2 ^ (-52 : ℤ)) * (10 ^ k.toNat * (1 + 2 ^ (-52 : ℤ))) :=
            mul_le_mul hupper hpupper p.magnitude_nonneg (by positivity)
        _ = s * 10 ^ k.toNat * (1 + 2 ^ (-52 : ℤ)) ^ 2 := by ring
    · next hmax =>
      split at h
      · cases h
      · next hzero =>
        have hpos : (1 : ℚ) ≤ s := by
          rw [Nat.one_le_cast, Nat.one_le_iff_ne_zero]
          rintro rfl
          cases hx
          exact hzero rfl
        calc decimalBound ≤ 10 ^ k.toNat := decimalBound_le_ten_pow (by omega)
          _ ≤ s * 10 ^ k.toNat := le_mul_of_one_le_left (by positivity) hpos

/-- A decimal is rounded with an error of a few units in the last place. -/
theorem near_of_ofDecimal? (hs : (s : ℚ) < 2 ^ (64 : ℤ)) (h : ofDecimal? s k = some y) :
    Near (2 ^ (-49 : ℤ)) (2 ^ (-1074 : ℤ)) (s * 10 ^ k) y.magnitude := by
  obtain ⟨x, hx, hnear, hle⟩ := exists_significand hs
  rw [ofDecimal?, hx, Option.bind_some] at h
  split at h
  · next hk =>
    obtain ⟨z, hz, hznear⟩ := exists_scaleDown? (Int.natAbs_pos.2 hk.ne) hle
    rw [hz] at h
    cases h
    rw [ten_zpow_of_neg hk]
    have hscaled := hnear.scale (by positivity : (0 : ℚ) ≤ (10 ^ k.natAbs)⁻¹)
    refine (hscaled.trans hznear (by positivity)).mono (by positivity) (by norm_num) ?_
    rw [zero_mul, zero_mul, zero_add]
  · next hk =>
    rw [ten_zpow_of_nonneg hk]
    split at h
    · next hmax =>
      obtain ⟨p, hp, hpnear⟩ := exists_powerOfTen? hmax
      rw [hp, Option.bind_some] at h
      have hscaled := hnear.scale (by positivity : (0 : ℚ) ≤ 10 ^ k.toNat)
      have hpower : Near (2 ^ (-52 : ℤ)) 0 (x.magnitude * 10 ^ k.toNat)
          (x.magnitude * p.magnitude) := by
        have h := hpnear.scale x.magnitude_nonneg
        rwa [zero_mul, mul_comm, mul_comm p.magnitude] at h
      have hproduct := (hscaled.trans hpower (by positivity)).trans (near_of_mul? h) (by positivity)
      refine hproduct.mono (by positivity) (by norm_num) ?_
      rw [zero_mul, zero_mul, zero_add, zero_mul, zero_add]
      exact two_zpow_le (by norm_num)
    · split at h
      · next hzero =>
        cases h
        have hzeroNear := hnear
        rw [Near, magnitude_of_isZero hzero, zero_sub, abs_neg, Nat.abs_cast, add_zero] at hzeroNear
        have hs : (s : ℚ) = 0 := by
          have hnonneg : (0 : ℚ) ≤ s := Nat.cast_nonneg s
          norm_num at hzeroNear
          linarith
        rw [hs, zero_mul, magnitude_of_isZero hzero]
        exact .of_small (by positivity) le_rfl (by positivity) le_rfl (by positivity)
      · cases h

/-! ## Signs -/

theorem negative_of_round? {num den : Nat} {shift : Int} (h : round? num den shift = some y) :
    y.negative = false := by
  simp only [round?] at h
  split at h
  · cases h; rfl
  · split at h <;> split at h <;> cases h <;> rfl

theorem negative_of_divPower? {k : Nat} (h : x.divPower? k = some y) : y.negative = false := by
  obtain ⟨p, -, hp⟩ := Option.bind_eq_some_iff.1 h
  exact negative_of_round? hp

theorem negative_of_ofDecimal? (h : ofDecimal? s k = some y) : y.negative = false := by
  obtain ⟨x, hx, h⟩ := Option.bind_eq_some_iff.1 h
  split at h
  · obtain ⟨z, -, hz⟩ := Option.bind_eq_some_iff.1 h
    exact negative_of_divPower? hz
  · split at h
    · obtain ⟨p, -, hp⟩ := Option.bind_eq_some_iff.1 h
      exact negative_of_round? hp
    · split at h
      · cases h
        exact negative_of_round? hx
      · cases h

end Treewalk.Binary64
