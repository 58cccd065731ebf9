import Treewalk.Proofs.Document.Grammar

/-!
# Values of numerals

A numeral has the value that it denotes (`value_eq_ok_iff`): the exact integer if it is one of at
most 64 bits, and a rounded number otherwise. The significand that is made of the digits never
exceeds them (`Gathered.le`) and falls short of them by little (`Gathered.mul_le`). Hence a numeral
has no value only if it is too large (`tooLarge_of_value_eq_error`), and a rounded number is near
the numeral (`isNear_of_value`).
-/

namespace Treewalk.Numeral

open Lexeme (InBounds gather_of_lt)

/-! ## Digits -/

theorem ofDigitChars_cons (c : Char) (ds : List Char) (init : Nat) :
    Nat.ofDigitChars 10 (c :: ds) init = Nat.ofDigitChars 10 ds (init * 10 + digitValue c) := by
  rw [Nat.ofDigitChars_cons, digitValue, Nat.mul_comm]

theorem pow_mul_le_ofDigitChars (ds : List Char) (init : Nat) :
    10 ^ ds.length * init ≤ Nat.ofDigitChars 10 ds init := by
  rw [Nat.ofDigitChars_eq_ofDigitChars_zero]
  exact Nat.le_add_right _ _

theorem digitValue_le {c : Char} (hc : '0' ≤ c ∧ c ≤ '9') : digitValue c ≤ 9 := by
  have hle : c.toNat ≤ '9'.toNat := hc.2
  have hnine : '9'.toNat = 57 := rfl
  have hzero : '0'.toNat = 48 := rfl
  rw [digitValue]
  omega

theorem ofDigitChars_lt {ds : List Char} (hds : ∀ c ∈ ds, '0' ≤ c ∧ c ≤ '9') (init : Nat) :
    Nat.ofDigitChars 10 ds init < (init + 1) * 10 ^ ds.length := by
  induction ds generalizing init with
  | nil => simp
  | cons c ds ih =>
    obtain ⟨hc, hds⟩ := List.forall_mem_cons.1 hds
    have hdigit := digitValue_le hc
    rw [ofDigitChars_cons, List.length_cons, Nat.pow_succ', ← Nat.mul_assoc]
    exact lt_of_lt_of_le (ih hds _) (Nat.mul_le_mul_right _ (by omega))

theorem le_ofDigitChars (ds : List Char) (init : Nat) : init ≤ Nat.ofDigitChars 10 ds init :=
  le_trans (Nat.le_mul_of_pos_left _ (by positivity)) (pow_mul_le_ofDigitChars ds init)

/-- The digits that join a significand, and what keeps the next one from joining it. -/
theorem gather_spec (significand : Nat) (ds : List Char) :
    ∃ taken, ds = taken ++ (gather significand ds).2 ∧
      (gather significand ds).1 = Nat.ofDigitChars 10 taken significand ∧
      ∀ c rest, (gather significand ds).2 = c :: rest →
        significandBound ≤ (gather significand ds).1 * 10 + digitValue c := by
  fun_induction gather significand ds with
  | case1 significand =>
    refine ⟨[], rfl, rfl, ?_⟩
    intro c rest h
    cases h
  | case2 significand c rest next hlt ih =>
    obtain ⟨taken, hds, hvalue, hnext⟩ := ih
    exact ⟨c :: taken, by rw [List.cons_append, ← hds], by rw [ofDigitChars_cons, hvalue], hnext⟩
  | case3 significand c rest next hlt =>
    refine ⟨[], rfl, rfl, ?_⟩
    rintro _ _ ⟨⟩
    exact Nat.le_of_not_lt hlt

theorem gather_lt {significand : Nat} (h : significand < significandBound) (ds : List Char) :
    (gather significand ds).1 < significandBound := by
  fun_induction gather significand ds with
  | case1 => exact h
  | case2 significand c rest next hlt ih => exact ih hlt
  | case3 => exact h

theorem exponentValue_eq_ok {value e : Nat} {ds : List Char} (h : exponentValue value ds = .ok e) :
    e = Nat.ofDigitChars 10 ds value := by
  fun_induction exponentValue value ds with
  | case1 => cases h; rfl
  | case2 value c rest next hle ih => rw [ofDigitChars_cons, ih h]
  | case3 => cases h

theorem lt_of_exponentValue_eq_error {value : Nat} {ds unread : List Char}
    (h : exponentValue value ds = .error unread) : maxExponent < Nat.ofDigitChars 10 ds value := by
  fun_induction exponentValue value ds with
  | case1 => cases h
  | case2 value c rest next hle ih =>
    rw [ofDigitChars_cons]
    exact ih h
  | case3 value c rest next hle =>
    rw [ofDigitChars_cons]
    exact lt_of_lt_of_le (Nat.lt_of_not_le hle) (le_ofDigitChars rest next)

/-! ## The ways to a value -/

section

variable {n : Numeral}

/-- The significand times a power of ten, rounded. -/
def rounded (n : Numeral) (power : ℤ) : Except (List Char) Number :=
  match Binary64.ofDecimal? n.scientific.1 power with
  | some x => .ok (n.signed x)
  | none => .error []

theorem rounded_ne_int (n : Numeral) (power z : ℤ) : n.rounded power ≠ .ok (.int z) := by
  intro h
  unfold rounded at h
  split at h <;> cases h

theorem ofDecimal?_of_rounded {power : ℤ} {unread : List Char}
    (h : n.rounded power = .error unread) : Binary64.ofDecimal? n.scientific.1 power = none := by
  unfold rounded at h
  split at h
  · cases h
  · assumption

theorem value_of_bare (hfraction : n.fraction = none) (hexponent : n.exponent = none) :
    n.value =
      if n.scientific.2 ≠ 0 then n.rounded n.scientific.2
      else if !n.negative then .ok (.int n.scientific.1)
      else if n.scientific.1 ≠ 0 ∧ n.scientific.1 ≤ negativeBound then
        .ok (.int (-n.scientific.1))
      else n.rounded 0 := by
  unfold value
  rw [hfraction, hexponent]
  rfl

theorem value_of_fraction (hfraction : n.fraction ≠ none) (hexponent : n.exponent = none) :
    n.value = n.rounded n.scientific.2 := by
  obtain ⟨ds, hds⟩ := Option.ne_none_iff_exists'.1 hfraction
  unfold value
  rw [hds, hexponent]
  rfl

theorem value_of_exponent {down : Bool} {ds : List Char} {e : Nat}
    (hexponent : n.exponent = some (down, ds)) (he : exponentValue 0 ds = .ok e) :
    n.value = n.rounded (if down then n.scientific.2 - e else n.scientific.2 + e) := by
  unfold value
  cases n.fraction with
  | none => simp only [hexponent, he]; rfl
  | some digits => simp only [hexponent, he]; rfl

theorem value_of_large_exponent {down : Bool} {ds unread : List Char}
    (hexponent : n.exponent = some (down, ds)) (he : exponentValue 0 ds = .error unread) :
    n.value = if n.scientific.1 = 0 ∨ down then .ok (n.signed Binary64.zero)
      else .error unread := by
  unfold value
  cases n.fraction with
  | none => simp only [hexponent, he]
  | some digits => simp only [hexponent, he]

end

/-! ## Exact integers -/

theorem scientific_of_fraction {n : Numeral} (h : n.fraction = none) :
    n.scientific = ((gather 0 n.whole).1, ((gather 0 n.whole).2.length : ℤ)) := by
  simp [scientific, h, gather]

theorem value_of_isExact {n : Numeral} (h : n.IsExact) : n.value = .ok (.int n.integer) := by
  obtain ⟨hfraction, hexponent, ⟨hlower, hupper⟩, hnonzero⟩ := h
  obtain ⟨w, hw⟩ : ∃ w, w = Nat.ofDigitChars 10 n.whole 0 := ⟨_, rfl⟩
  have hbounds : negativeBound < significandBound := by decide
  have hlt : w < significandBound := by
    unfold integer at hlower hupper
    rw [← hw] at hlower hupper
    split at hlower
    · omega
    · next hsign =>
      rw [if_neg hsign] at hupper
      omega
  have hscientific : n.scientific = (w, 0) := by
    rw [hw] at hlt ⊢
    rw [scientific_of_fraction hfraction, gather_of_lt hlt]
    rfl
  rw [value_of_bare hfraction hexponent, hscientific]
  unfold integer at hlower hnonzero ⊢
  rw [← hw] at hlower hnonzero ⊢
  cases hnegative : n.negative with
  | false => simp
  | true =>
    simp only [hnegative, ↓reduceIte, forall_const] at hlower hnonzero
    have hpositive : w ≠ 0 ∧ w ≤ negativeBound := by omega
    simp [hpositive]

/-- All digits joined the significand if none is left for the power of ten. -/
theorem scientific_of_power_eq_zero {n : Numeral} (hfraction : n.fraction = none)
    (h : n.scientific.2 = 0) :
    n.scientific.1 = Nat.ofDigitChars 10 n.whole 0 ∧ n.scientific.1 < significandBound := by
  obtain ⟨taken, hwhole, hvalue, -⟩ := gather_spec 0 n.whole
  have hlt := gather_lt (by decide : 0 < significandBound) n.whole
  rw [scientific_of_fraction hfraction] at h ⊢
  have hleft : (gather 0 n.whole).2 = [] := List.eq_nil_of_length_eq_zero (Int.natCast_eq_zero.1 h)
  rw [hleft, List.append_nil] at hwhole
  exact ⟨by rw [hwhole, ← hvalue, ← hwhole], hlt⟩

/-- The ways in which a numeral comes to its value. -/
inductive ValueCase (n : Numeral) : Except (List Char) Number → Prop
  | exact (h : n.IsExact) : ValueCase n (.ok (.int n.integer))
  | rounded : ValueCase n (n.rounded (n.scientific.2 + n.power))
  | zero (h : n.scientific.1 = 0 ∨ n.Vanishes) : ValueCase n (.ok (n.signed .zero))
  | unread {ds unread : List Char} (hs : n.scientific.1 ≠ 0) (h : n.exponent = some (false, ds))
      (hds : maxExponent < Nat.ofDigitChars 10 ds 0) : ValueCase n (.error unread)

theorem valueCase_of_bare {n : Numeral} (hfraction : n.fraction = none)
    (hexponent : n.exponent = none) : n.ValueCase n.value := by
  have hbounds : negativeBound < significandBound := by decide
  have hrounded : n.ValueCase (n.rounded n.scientific.2) := by
    have h : n.ValueCase _ := .rounded
    rwa [power, hexponent, add_zero] at h
  rw [value_of_bare hfraction hexponent]
  split
  · exact hrounded
  · next hscale =>
    rw [not_not] at hscale
    obtain ⟨hw, hlt⟩ := scientific_of_power_eq_zero hfraction hscale
    rw [hscale] at hrounded
    rw [hw] at hlt ⊢
    split
    · next hnegative =>
      rw [Bool.not_eq_true'] at hnegative
      have hinteger : n.integer = Nat.ofDigitChars 10 n.whole 0 := by simp [integer, hnegative]
      rw [← hinteger]
      refine .exact ⟨hfraction, hexponent, ?_, by simp [hnegative]⟩
      rw [hinteger]
      exact ⟨by omega, by omega⟩
    · next hnegative =>
      rw [Bool.not_eq_true', Bool.not_eq_false] at hnegative
      have hinteger : n.integer = -(Nat.ofDigitChars 10 n.whole 0 : ℤ) := by
        simp [integer, hnegative]
      split
      · next hpositive =>
        rw [← hinteger]
        refine .exact ⟨hfraction, hexponent, ?_, ?_⟩
        · rw [hinteger]
          exact ⟨by omega, by omega⟩
        · intro _
          omega
      · exact hrounded

theorem valueCase (n : Numeral) : n.ValueCase n.value := by
  cases hexponent : n.exponent with
  | none =>
    by_cases hfraction : n.fraction = none
    · exact valueCase_of_bare hfraction hexponent
    · have h : n.ValueCase _ := .rounded
      rwa [power, hexponent, add_zero, ← value_of_fraction hfraction hexponent] at h
  | some e =>
    obtain ⟨down, ds⟩ := e
    cases he : exponentValue 0 ds with
    | ok e =>
      have hpower : n.scientific.2 + n.power =
          if down then n.scientific.2 - e else n.scientific.2 + e := by
        rw [power, hexponent, exponentValue_eq_ok he]
        cases down <;> simp [sub_eq_add_neg]
      rw [value_of_exponent hexponent he, ← hpower]
      exact .rounded
    | error _ =>
      have hlarge := lt_of_exponentValue_eq_error he
      rw [value_of_large_exponent hexponent he]
      split
      · next hzero =>
        refine .zero (hzero.imp_right ?_)
        rintro rfl
        exact ⟨ds, hexponent, hlarge⟩
      · next hne =>
        rw [not_or, Bool.not_eq_true] at hne
        obtain ⟨hne, rfl⟩ := hne
        exact .unread hne hexponent hlarge

theorem isExact_of_value {n : Numeral} {z : Int} (h : n.value = .ok (.int z)) :
    n.IsExact ∧ z = n.integer := by
  have hcase := n.valueCase
  rw [h] at hcase
  generalize hx : (.ok (.int z) : Except (List Char) Number) = x at hcase
  cases hcase with
  | exact hexact =>
    cases hx
    exact ⟨hexact, rfl⟩
  | rounded => exact absurd hx.symm (rounded_ne_int _ _ _)
  | zero => cases hx
  | unread => cases hx

theorem value_eq_ok_iff {n : Numeral} {v : Number} : n.value = .ok v ↔ n.Denotes v := by
  constructor
  · intro h
    cases v with
    | int z =>
      obtain ⟨hexact, rfl⟩ := isExact_of_value h
      exact .int hexact
    | double x =>
      refine .double (fun hexact => ?_) h
      rw [value_of_isExact hexact] at h
      cases h
  · rintro (h | ⟨-, h⟩)
    · exact value_of_isExact h
    · exact h

/-! ## Significands -/

/-- How the digits of a numeral are divided. Before the point some are taken into the significand
and the others are left; after the point some join it and the others are dropped. Digits are left or
dropped only if the significand is full. -/
structure Gathered (n : Numeral) (taken left joined dropped : List Char) : Prop where
  whole : n.whole = taken ++ left
  fraction : n.fraction.getD [] = joined ++ dropped
  significand : n.scientific.1 = Nat.ofDigitChars 10 joined (Nat.ofDigitChars 10 taken 0)
  scale : n.scientific.2 = left.length - joined.length
  inBounds : n.scientific.1 < significandBound
  full (c : Char) (rest : List Char) (h : left = c :: rest) :
    significandBound ≤ Nat.ofDigitChars 10 taken 0 * 10 + digitValue c
  fullAfter (c : Char) (rest : List Char) (h : dropped = c :: rest) :
    significandBound ≤ n.scientific.1 * 10 + digitValue c

theorem exists_gathered (n : Numeral) :
    ∃ taken left joined dropped, n.Gathered taken left joined dropped := by
  obtain ⟨taken, hwhole, hfirst, hfull⟩ := gather_spec 0 n.whole
  obtain ⟨joined, hfraction, hsecond, hfullAfter⟩ :=
    gather_spec (gather 0 n.whole).1 (n.fraction.getD [])
  refine ⟨taken, _, joined, _, hwhole, hfraction, ?_, ?_, ?_, ?_, hfullAfter⟩
  · rw [← hfirst]
    exact hsecond
  · have hlength := congrArg List.length hfraction
    rw [List.length_append] at hlength
    simp only [scientific]
    omega
  · exact gather_lt (gather_lt (by decide) n.whole) _
  · rw [← hfirst]
    exact hfull

/-- A significand to which no further digit could be added is large. -/
theorem le_of_full {s : Nat} {c : Char} (hc : '0' ≤ c ∧ c ≤ '9')
    (h : significandBound ≤ s * 10 + digitValue c) : 2 ^ 60 ≤ s := by
  have hdigit := digitValue_le hc
  have hbound : significandBound = 18446744073709551616 := rfl
  omega

/-- Digits that join a significand after others were left do not make up for those. -/
theorem mul_pow_le_ofDigitChars {s s' : Nat} {joined left : List Char} (hs' : s' < significandBound)
    (hjoined : s' = Nat.ofDigitChars 10 joined s)
    (hfull : ∀ c rest, left = c :: rest → significandBound ≤ s * 10 + digitValue c) :
    s' * 10 ^ left.length ≤ Nat.ofDigitChars 10 joined (Nat.ofDigitChars 10 left s) := by
  cases left with
  | nil => simp [hjoined]
  | cons c rest =>
    have hbound := hfull c rest rfl
    cases joined with
    | nil =>
      rw [Nat.ofDigitChars_nil] at hjoined ⊢
      rw [hjoined, Nat.mul_comm]
      exact pow_mul_le_ofDigitChars (c :: rest) s
    | cons d joined =>
      have hrest : 10 ^ rest.length * s' ≤ Nat.ofDigitChars 10 (c :: rest) s := by
        rw [ofDigitChars_cons]
        exact le_trans (Nat.mul_le_mul_left _ (by omega)) (pow_mul_le_ofDigitChars rest _)
      generalize Nat.ofDigitChars 10 (c :: rest) s = w at hrest
      have hdigits : 10 ^ (joined.length + 1) * w ≤ Nat.ofDigitChars 10 (d :: joined) w :=
        pow_mul_le_ofDigitChars (d :: joined) w
      calc s' * 10 ^ (rest.length + 1) = 10 * (10 ^ rest.length * s') := by ring
        _ ≤ 10 * w := Nat.mul_le_mul_left _ hrest
        _ ≤ 10 ^ (joined.length + 1) * w :=
            Nat.mul_le_mul_right _ (Nat.le_self_pow (by omega) 10)
        _ ≤ Nat.ofDigitChars 10 (d :: joined) w := hdigits

/-- Digits after a large number add little to it. -/
theorem ofDigitChars_mul_le {s : Nat} {ds : List Char} (hs : 2 ^ 60 ≤ s)
    (hds : ∀ c ∈ ds, '0' ≤ c ∧ c ≤ '9') :
    Nat.ofDigitChars 10 ds s * 2 ^ 60 ≤ s * 10 ^ ds.length * (2 ^ 60 + 1) :=
  calc Nat.ofDigitChars 10 ds s * 2 ^ 60 ≤ (s + 1) * 10 ^ ds.length * 2 ^ 60 :=
        Nat.mul_le_mul_right _ (ofDigitChars_lt hds s).le
    _ = 10 ^ ds.length * (s * 2 ^ 60 + 2 ^ 60) := by ring
    _ ≤ 10 ^ ds.length * (s * 2 ^ 60 + s) := by gcongr
    _ = s * 10 ^ ds.length * (2 ^ 60 + 1) := by ring

section

variable {n : Numeral} {taken left joined dropped : List Char}

theorem Gathered.digits_eq (h : n.Gathered taken left joined dropped) :
    Nat.ofDigitChars 10 (n.whole ++ n.fraction.getD []) 0 =
      Nat.ofDigitChars 10 (left ++ (joined ++ dropped)) (Nat.ofDigitChars 10 taken 0) := by
  rw [h.whole, h.fraction, List.append_assoc, Nat.ofDigitChars_append]

/-- The significand does not exceed the digits, with a zero for every digit that is left or
dropped. -/
theorem Gathered.le (h : n.Gathered taken left joined dropped) :
    n.scientific.1 * 10 ^ (left.length + dropped.length) ≤
      Nat.ofDigitChars 10 (n.whole ++ n.fraction.getD []) 0 := by
  have hjoined := mul_pow_le_ofDigitChars h.inBounds h.significand h.full
  rw [h.digits_eq, Nat.ofDigitChars_append, Nat.ofDigitChars_append]
  generalize Nat.ofDigitChars 10 joined (Nat.ofDigitChars 10 left _) = w at hjoined ⊢
  calc n.scientific.1 * 10 ^ (left.length + dropped.length)
      = 10 ^ dropped.length * (n.scientific.1 * 10 ^ left.length) := by ring
    _ ≤ 10 ^ dropped.length * w := Nat.mul_le_mul_left _ hjoined
    _ ≤ Nat.ofDigitChars 10 dropped w := pow_mul_le_ofDigitChars dropped w

/-- The significand falls short of the digits by little. -/
theorem Gathered.mul_le (h : n.Gathered taken left joined dropped)
    (hwhole : ∀ c ∈ n.whole, '0' ≤ c ∧ c ≤ '9')
    (hfraction : ∀ c ∈ n.fraction.getD [], '0' ≤ c ∧ c ≤ '9') :
    Nat.ofDigitChars 10 (n.whole ++ n.fraction.getD []) 0 * 2 ^ 60 ≤
      n.scientific.1 * 10 ^ (left.length + dropped.length) * (2 ^ 60 + 1) := by
  rw [h.whole, List.forall_mem_append] at hwhole
  rw [h.fraction] at hfraction
  rw [h.digits_eq]
  cases left with
  | nil =>
    rw [List.nil_append, Nat.ofDigitChars_append, ← h.significand, List.length_nil, Nat.zero_add]
    cases dropped with
    | nil =>
      rw [Nat.ofDigitChars_nil, List.length_nil, pow_zero, Nat.mul_one]
      exact Nat.mul_le_mul_left _ (Nat.le_succ _)
    | cons c dropped =>
      have hdropped := (List.forall_mem_append.1 hfraction).2
      have hc := hdropped c List.mem_cons_self
      exact ofDigitChars_mul_le (le_of_full hc (h.fullAfter c dropped rfl)) hdropped
  | cons c left =>
    have hs := le_of_full (hwhole.2 c List.mem_cons_self) (h.full c left rfl)
    have hjoined := pow_mul_le_ofDigitChars joined (Nat.ofDigitChars 10 taken 0)
    rw [← h.significand] at hjoined
    refine (ofDigitChars_mul_le hs (List.forall_mem_append.2 ⟨hwhole.2, hfraction⟩)).trans ?_
    refine Nat.mul_le_mul_right _ ?_
    generalize Nat.ofDigitChars 10 taken 0 = s at *
    simp only [List.length_append]
    calc s * 10 ^ ((c :: left).length + (joined.length + dropped.length))
        = 10 ^ joined.length * s * 10 ^ ((c :: left).length + dropped.length) := by ring
      _ ≤ n.scientific.1 * 10 ^ ((c :: left).length + dropped.length) :=
          Nat.mul_le_mul_right _ hjoined

theorem Gathered.scientific_eq (h : n.Gathered taken left joined dropped) :
    (n.scientific.1 : ℚ) * 10 ^ (n.scientific.2 + n.power) =
      (n.scientific.1 * 10 ^ (left.length + dropped.length) : Nat) *
        10 ^ (n.power - (n.fraction.getD []).length) := by
  have hpower : (10 : ℚ) ^ (n.scientific.2 + n.power) =
      10 ^ (left.length + dropped.length) * 10 ^ (n.power - (n.fraction.getD []).length) := by
    rw [← zpow_natCast, ← zpow_add₀ (by norm_num), h.scale, h.fraction, List.length_append]
    congr 1
    omega
  rw [hpower]
  push_cast
  ring

end

theorem scientific_lt (n : Numeral) : (n.scientific.1 : ℚ) < 2 ^ (64 : ℤ) := by
  obtain ⟨_, _, _, _, h⟩ := n.exists_gathered
  have hbound : (significandBound : ℚ) = 2 ^ (64 : ℤ) := by
    simp only [significandBound, Nat.pow_eq]
    norm_num
  rw [← hbound]
  exact Nat.cast_lt.2 h.inBounds

theorem scientific_le_magnitude (n : Numeral) :
    (n.scientific.1 : ℚ) * 10 ^ (n.scientific.2 + n.power) ≤ n.magnitude := by
  obtain ⟨_, _, _, _, h⟩ := n.exists_gathered
  rw [h.scientific_eq, magnitude]
  exact mul_le_mul_of_nonneg_right (Nat.cast_le.2 h.le) (by positivity)

theorem near_scientific {n : Numeral} (hwhole : ∀ c ∈ n.whole, '0' ≤ c ∧ c ≤ '9')
    (hfraction : ∀ c ∈ n.fraction.getD [], '0' ≤ c ∧ c ≤ '9') :
    Binary64.Near (2 ^ (-60 : ℤ)) 0 n.magnitude
      (n.scientific.1 * 10 ^ (n.scientific.2 + n.power)) := by
  have hle := n.scientific_le_magnitude
  obtain ⟨_, _, _, _, h⟩ := n.exists_gathered
  have hshort : n.magnitude * 2 ^ 60 ≤
      n.scientific.1 * 10 ^ (n.scientific.2 + n.power) * (2 ^ 60 + 1) := by
    rw [h.scientific_eq, magnitude, mul_right_comm, mul_right_comm _ _ ((2 : ℚ) ^ 60 + 1)]
    refine mul_le_mul_of_nonneg_right ?_ (by positivity)
    exact_mod_cast h.mul_le hwhole hfraction
  generalize (n.scientific.1 : ℚ) * 10 ^ (n.scientific.2 + n.power) = a at *
  rw [Binary64.Near, abs_sub_comm, abs_of_nonneg (sub_nonneg.2 hle)]
  norm_num at hshort ⊢
  linarith

/-! ## Too large numerals, and rounded ones -/

/-- A numeral without a value is too large. -/
theorem tooLarge_of_value_eq_error {n : Numeral} {unread : List Char}
    (h : n.value = .error unread) : n.TooLarge := by
  have hcase := n.valueCase
  rw [h] at hcase
  generalize hx : (.error unread : Except (List Char) Number) = x at hcase
  cases hcase with
  | exact => cases hx
  | rounded =>
    have hle := Binary64.le_of_ofDecimal?_eq_none n.scientific_lt (ofDecimal?_of_rounded hx.symm)
    exact .magnitude (hle.trans n.scientific_le_magnitude)
  | zero => cases hx
  | unread hs hexponent hds =>
    have hsignificand : (0 : ℚ) < n.scientific.1 := by
      exact_mod_cast Nat.pos_of_ne_zero hs
    exact .exponent (lt_of_lt_of_le (by positivity) n.scientific_le_magnitude) hexponent hds

theorem sign_of_signed {n : Numeral} {x y : Binary64} (hy : y.negative = false)
    (h : n.signed y = .double x) : x.negative = n.negative ∧ x.magnitude = y.magnitude := by
  rw [signed, Number.double.injEq] at h
  rw [← h]
  cases n.negative with
  | false => exact ⟨hy, rfl⟩
  | true => exact ⟨by simp [Binary64.neg, hy], rfl⟩

/-- A number that is not exact is near the numeral. -/
theorem isNear_of_value {n : Numeral} {x : Binary64} (hwhole : ∀ c ∈ n.whole, '0' ≤ c ∧ c ≤ '9')
    (hfraction : ∀ c ∈ n.fraction.getD [], '0' ≤ c ∧ c ≤ '9') (h : n.value = .ok (.double x)) :
    n.IsNear x := by
  have hnear := near_scientific hwhole hfraction
  have hnonneg : 0 ≤ n.magnitude := by
    unfold magnitude
    positivity
  have hcase := n.valueCase
  rw [h] at hcase
  generalize hx : (.ok (.double x) : Except (List Char) Number) = v at hcase
  cases hcase with
  | exact => cases hx
  | rounded =>
    unfold rounded at hx
    split at hx
    · next y hy =>
      obtain ⟨hsign, hsize⟩ := sign_of_signed (Binary64.negative_of_ofDecimal? hy)
        (Except.ok.inj hx).symm
      refine ⟨hsign, .inl ?_⟩
      rw [hsize]
      refine (hnear.trans (Binary64.near_of_ofDecimal? n.scientific_lt hy) (by positivity)).mono
        hnonneg (by norm_num) ?_
      rw [zero_mul, zero_add]
    · cases hx
  | zero hzero =>
    obtain ⟨hsign, hsize⟩ := sign_of_signed rfl (Except.ok.inj hx).symm
    have hmagnitude : Binary64.zero.magnitude = 0 := Binary64.magnitude_of_isZero rfl
    rw [hmagnitude] at hsize
    refine ⟨hsign, ?_⟩
    rcases hzero with hs | hvanishes
    · left
      rw [hs, Nat.cast_zero, zero_mul] at hnear
      rw [hsize]
      exact hnear.mono hnonneg (Binary64.two_zpow_le (by norm_num)) (by positivity)
    · exact .inr ⟨hsize, hvanishes⟩
  | unread => cases hx

end Treewalk.Numeral
