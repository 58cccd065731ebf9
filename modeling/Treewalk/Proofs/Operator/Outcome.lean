import Treewalk.Operator.Apply

/-!
# What operators come to

An operator makes primitive values only, and a text only if one of its operands is one
(`apply_eq_ok`); a failure names the operator that failed (`apply_eq_error`).
-/

namespace Treewalk.Operator

/-- The failures an operator can have. -/
inductive FailsWith (op : Operator) : Cause → Prop
  | mismatch (l r : Value.Kind) : FailsWith op (.typeMismatch op l r)
  | incomparable (k : Value.Kind) : FailsWith op (.typeNotComparable op k)
  | byZero (h : op = div ∨ op = rem) : FailsWith op .divisionByZero

theorem failsWith_incomparable (op : Operator) (supported : Value → Bool) (l r : Value) :
    op.FailsWith (op.incomparable supported l r) := by
  unfold incomparable
  split
  · exact .incomparable _
  · split
    · exact .incomparable _
    · exact .mismatch _ _

theorem failsWith_onInts {op : Operator} {f : Int32 → Int32 → Except Cause Int32}
    (hf : ∀ a b c, f a b = .error c → op.FailsWith c) {l r : Value} {c : Cause}
    (h : op.onInts f l r = .error c) : op.FailsWith c := by
  unfold onInts at h
  split at h
  · next a b =>
    cases hab : f a b with
    | error c' => rw [hab] at h; cases h; exact hf a b c hab
    | ok n => rw [hab] at h; cases h
  · cases h; exact .mismatch _ _

theorem failsWith_equality {op : Operator} {f : Bool → Bool} {l r : Value} {c : Cause}
    (h : op.equality f l r = .error c) : op.FailsWith c := by
  unfold equality at h
  split at h <;> cases h
  exact failsWith_incomparable ..

theorem failsWith_comparison {op : Operator} {f : Ordering → Bool} {l r : Value} {c : Cause}
    (h : op.comparison f l r = .error c) : op.FailsWith c := by
  unfold comparison at h
  split at h <;> cases h
  exact failsWith_incomparable ..

theorem failsWith_connective {op : Operator} {f : Bool → Bool → Bool} {l r : Value} {c : Cause}
    (h : op.connective f l r = .error c) : op.FailsWith c := by
  unfold connective at h
  split at h <;> cases h
  exact .mismatch _ _

theorem failsWith_sum {l r : Value} {c : Cause} (h : sum l r = .error c) : add.FailsWith c := by
  unfold sum at h
  split at h
  · cases h
  · split at h
    · cases h; exact .mismatch _ _
    · split at h <;> cases h
      exact .mismatch _ _

/-- A failure names the operator; only a quotient or a remainder fails by zero. -/
theorem apply_eq_error {op : Operator} {l r : Value} {c : Cause} (h : op.apply l r = .error c) :
    op.FailsWith c := by
  cases op with
  | add => exact failsWith_sum h
  | sub | mul => exact failsWith_onInts (fun _ _ _ hc => by cases hc) h
  | div =>
    refine failsWith_onInts (fun a b c hc => ?_) h
    unfold nonzero at hc
    split at hc <;> cases hc
    exact .byZero (.inl rfl)
  | rem =>
    refine failsWith_onInts (fun a b c hc => ?_) h
    unfold nonzero at hc
    split at hc <;> cases hc
    exact .byZero (.inr rfl)
  | eq | neq => exact failsWith_equality h
  | lt | gt | lte | gte => exact failsWith_comparison h
  | and | or => exact failsWith_connective h

theorem onInts_eq_ok {op : Operator} {f : Int32 → Int32 → Except Cause Int32} {l r v : Value}
    (h : op.onInts f l r = .ok v) : ∃ n, v = .int n := by
  unfold onInts at h
  split at h
  · next a b =>
    cases hab : f a b with
    | error c => rw [hab] at h; cases h
    | ok n => rw [hab] at h; cases h; exact ⟨n, rfl⟩
  · cases h

theorem sum_eq_ok {l r v : Value} (h : sum l r = .ok v) :
    (∃ n, v = .int n) ∨ (∃ s, v = .str s) ∧ (l.asStr?.isSome ∨ r.asStr?.isSome) := by
  unfold sum at h
  split at h
  · cases h; exact .inl ⟨_, rfl⟩
  · split at h
    · cases h
    · next hs =>
      split at h <;> cases h
      refine .inr ⟨⟨_, rfl⟩, ?_⟩
      cases hl : l.asStr? with
      | none => rw [hl] at hs; exact .inr (by simpa [Option.isSome_iff_ne_none] using hs)
      | some a => exact .inl rfl

/-- A result is an integer, a boolean, or a text made of two operands one of which is a text. -/
theorem apply_eq_ok {op : Operator} {l r v : Value} (h : op.apply l r = .ok v) :
    (∃ n, v = .int n) ∨ (∃ b, v = .bool b) ∨
      (∃ s, v = .str s) ∧ (l.asStr?.isSome ∨ r.asStr?.isSome) := by
  cases op with
  | add => exact (sum_eq_ok h).imp_right .inr
  | sub | mul | div | rem => exact .inl (onInts_eq_ok h)
  | eq | neq =>
    simp only [apply, equality] at h
    split at h <;> cases h
    exact .inr (.inl ⟨_, rfl⟩)
  | lt | gt | lte | gte =>
    simp only [apply, comparison] at h
    split at h <;> cases h
    exact .inr (.inl ⟨_, rfl⟩)
  | and | or =>
    simp only [apply, connective] at h
    split at h <;> cases h
    exact .inr (.inl ⟨_, rfl⟩)

end Treewalk.Operator
