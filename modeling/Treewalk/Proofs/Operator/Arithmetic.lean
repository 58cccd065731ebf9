import Mathlib
import Treewalk.Operator.Apply

/-!
# Arithmetic of 32 bits

On integers the operators compute the exact result and bring it back into the range of 32 bits by a
multiple of `2 ^ 32` (`apply_ints`). Division goes toward zero, so a remainder has the sign of the
dividend. Quotient and remainder make up the dividend again, when the operators are applied to them,
even for the one quotient that lies out of range.
-/

namespace Treewalk.Operator

/-- The integer `n` stands for `z`: of all numbers in the range of 32 bits, it is the only one that
differs from `z` by a multiple of `2 ^ 32`. -/
def StandsFor (n : Int32) (z : Int) : Prop :=
  ∀ k : Int, k = n.toInt ↔ -2 ^ 31 ≤ k ∧ k < 2 ^ 31 ∧ k ≡ z [ZMOD 2 ^ 32]

theorem standsFor_of_toInt_eq {n : Int32} {z : Int} (h : n.toInt = z.bmod (2 ^ 32)) :
    StandsFor n z := by
  intro k
  constructor
  · rintro rfl
    refine ⟨n.le_toInt, n.toInt_lt, ?_⟩
    rw [h]
    exact Int.bmod_emod
  · rintro ⟨hlow, hhigh, hk⟩
    have hemod : k % 2 ^ 32 = z % 2 ^ 32 := hk
    rw [h, Int.bmod_def]
    split <;> omega

/-! ## Quotient and remainder -/

theorem onInts_nonzero (op : Operator) (f : Int32 → Int32 → Int32) {l r : Int32} (hr : r ≠ 0) :
    op.onInts (nonzero f) (.int l) (.int r) = .ok (.int (f l r)) := by
  rw [onInts, nonzero, if_neg hr]
  rfl

theorem onInts_nonzero_eq_error_iff (op : Operator) (f : Int32 → Int32 → Int32) {l r : Int32} :
    op.onInts (nonzero f) (.int l) (.int r) = .error .divisionByZero ↔ r = 0 := by
  constructor
  · intro h
    by_contra hr
    rw [onInts_nonzero op f hr] at h
    cases h
  · rintro rfl
    rfl

/-- There is one quotient that does not fit. -/
theorem toInt_div_eq_iff (l r : Int32) :
    (l / r).toInt = l.toInt.tdiv r.toInt ↔ ¬ (l = Int32.minValue ∧ r = -1) := by
  constructor
  · rintro h ⟨rfl, rfl⟩
    revert h
    decide
  · intro h
    by_cases hl : l = Int32.minValue
    · exact Int32.toInt_div_of_ne_right l r fun hr => h ⟨hl, hr⟩
    · exact Int32.toInt_div_of_ne_left l r hl

theorem natAbs_toInt_mod_lt {r : Int32} (hr : r ≠ 0) (l : Int32) :
    (l % r).toInt.natAbs < r.toInt.natAbs := by
  have hpos : 0 < r.toInt.natAbs := by
    rw [Int.natAbs_pos]
    exact fun h => hr (Int32.toInt.inj h)
  rw [Int32.toInt_mod, Int.natAbs_tmod]
  exact Nat.mod_lt _ hpos

theorem sign_toInt_mod (l r : Int32) : l % r = 0 ∨ (l % r).toInt.sign = l.toInt.sign := by
  by_cases hdvd : r.toInt ∣ l.toInt
  · left
    apply Int32.toInt.inj
    rw [Int32.toInt_mod]
    exact Int.tmod_eq_zero_of_dvd hdvd
  · right
    rw [Int32.toInt_mod, Int.sign_tmod, if_neg hdvd]

/-- What wraps in the quotient wraps back in the product. -/
theorem div_mul_add_mod (l r : Int32) : l / r * r + l % r = l := by
  apply Int32.toInt.inj
  calc (l / r * r + l % r).toInt
      = (((l.toInt.tdiv r.toInt).bmod (2 ^ 32) * r.toInt).bmod (2 ^ 32) +
          l.toInt.tmod r.toInt).bmod (2 ^ 32) := by
        rw [Int32.toInt_add, Int32.toInt_mul, Int32.toInt_div, Int32.toInt_mod]
    _ = (l.toInt.tdiv r.toInt * r.toInt + l.toInt.tmod r.toInt).bmod (2 ^ 32) := by
        rw [Int.bmod_add_bmod, Int.add_bmod, Int.bmod_mul_bmod, ← Int.add_bmod]
    _ = l.toInt.bmod (2 ^ 32) := by rw [Int.tdiv_mul_add_tmod]
    _ = l.toInt := l.toInt_bmod

/-- Operators on integers are exact arithmetic reduced to 32 bits. Sum, difference and product
represent the exact ones. Quotient and remainder fail by zero exactly if the divisor is zero.
Otherwise the quotient represents the exact one, rounded toward zero, which only the quotient of the
least integer by `-1` does not equal. The remainder is what the exact quotient leaves, less than the
divisor in magnitude and of the sign of the dividend. Quotient times divisor plus remainder, all by
the operators, is the dividend. -/
theorem apply_ints (l r : Int32) :
    (∃ n, add.apply (.int l) (.int r) = .ok (.int n) ∧ StandsFor n (l.toInt + r.toInt)) ∧
    (∃ n, sub.apply (.int l) (.int r) = .ok (.int n) ∧ StandsFor n (l.toInt - r.toInt)) ∧
    (∃ n, mul.apply (.int l) (.int r) = .ok (.int n) ∧ StandsFor n (l.toInt * r.toInt)) ∧
    (div.apply (.int l) (.int r) = .error .divisionByZero ↔ r = 0) ∧
    (rem.apply (.int l) (.int r) = .error .divisionByZero ↔ r = 0) ∧
    (r ≠ 0 →
      (∃ q, div.apply (.int l) (.int r) = .ok (.int q) ∧ StandsFor q (l.toInt.tdiv r.toInt) ∧
        (q.toInt = l.toInt.tdiv r.toInt ↔ ¬ (l = Int32.minValue ∧ r = -1))) ∧
      (∃ m, rem.apply (.int l) (.int r) = .ok (.int m) ∧
        l.toInt = l.toInt.tdiv r.toInt * r.toInt + m.toInt ∧
        m.toInt.natAbs < r.toInt.natAbs ∧ (m = 0 ∨ m.toInt.sign = l.toInt.sign)) ∧
      (do
        let quotient ← div.apply (.int l) (.int r)
        let product ← mul.apply quotient (.int r)
        let remainder ← rem.apply (.int l) (.int r)
        add.apply product remainder) = .ok (.int l)) := by
  refine ⟨⟨l + r, rfl, standsFor_of_toInt_eq (Int32.toInt_add l r)⟩,
    ⟨l - r, rfl, standsFor_of_toInt_eq (Int32.toInt_sub l r)⟩,
    ⟨l * r, rfl, standsFor_of_toInt_eq (Int32.toInt_mul l r)⟩,
    onInts_nonzero_eq_error_iff div _, onInts_nonzero_eq_error_iff rem _, fun hr => ?_⟩
  have hdiv : div.apply (.int l) (.int r) = .ok (.int (l / r)) := onInts_nonzero div _ hr
  have hrem : rem.apply (.int l) (.int r) = .ok (.int (l % r)) := onInts_nonzero rem _ hr
  refine ⟨⟨l / r, hdiv, standsFor_of_toInt_eq (Int32.toInt_div l r), toInt_div_eq_iff l r⟩,
    ⟨l % r, hrem, ?_, natAbs_toInt_mod_lt hr l, sign_toInt_mod l r⟩, ?_⟩
  · rw [Int32.toInt_mod, Int.tdiv_mul_add_tmod]
  · rw [hdiv, hrem]
    show Except.ok (Value.int (l / r * r + l % r)) = _
    rw [div_mul_add_mod]

/-- The least integer divided by `-1` is itself, and leaves nothing. -/
theorem apply_ints_minValue :
    (-1 : Int32) ≠ 0 ∧ StandsFor Int32.minValue (2 ^ 31) ∧
      (do
        let quotient ← div.apply (.int Int32.minValue) (.int (-1))
        let product ← mul.apply quotient (.int (-1))
        let remainder ← rem.apply (.int Int32.minValue) (.int (-1))
        add.apply product remainder) = .ok (.int Int32.minValue) := by
  have hne : (-1 : Int32) ≠ 0 := by decide
  obtain ⟨-, -, -, -, -, h⟩ := apply_ints Int32.minValue (-1)
  obtain ⟨⟨q, hq, hstands, -⟩, -, hsum⟩ := h hne
  cases hq
  exact ⟨hne, hstands, hsum⟩

end Treewalk.Operator
