import Treewalk.Term

/-!
# Parts of terms

`Term.parts` lists the terms that a term is made of, and `Term.OccursIn` is its reflexive and
transitive closure: `t` is a subterm of `u`. Parts are smaller than the whole, which gives an
induction over terms that reaches into argument lists (`Term.parts_induction`).
-/

namespace Treewalk.Term

/-- The terms that a term is made of, in the order they stand in. -/
def parts : Term → List Term
  | int .. | str .. | bool .. | var .. => []
  | function _ body _ => [body]
  | call callee arguments _ => callee :: arguments
  | letIn _ value next _ => [value, next]
  | cond condition yes no _ => [condition, yes, no]
  | binary lhs _ rhs _ => [lhs, rhs]
  | tuple a b _ => [a, b]
  | print a _ | first a _ | second a _ => [a]

theorem exists_var_of_kind {t : Term} (h : t.kind = .var) : ∃ x l, t = .var x l := by
  cases t with
  | var x l => exact ⟨x, l, rfl⟩
  | _ => cases h

theorem sizeOf_lt_of_mem_parts {t u : Term} (h : u ∈ t.parts) : sizeOf u < sizeOf t := by
  cases t with
  | int | str | bool | var => cases h
  | call callee arguments l =>
    rcases List.mem_cons.1 h with rfl | h
    · simp +arith
    · have := List.sizeOf_lt_of_mem h
      simp only [call.sizeOf_spec]
      omega
  | function | letIn | cond | binary | tuple | print | first | second =>
    simp only [parts, List.mem_cons, List.not_mem_nil, or_false] at h
    rcases h with rfl | rfl | rfl <;> simp +arith

/-- What holds of a term if it holds of its parts holds of every term. -/
theorem parts_induction {P : Term → Prop} (h : ∀ t, (∀ u ∈ t.parts, P u) → P t) (t : Term) : P t :=
  h t fun u _ => parts_induction h u
termination_by sizeOf t
decreasing_by exact sizeOf_lt_of_mem_parts ‹_›

theorem heights_le_iff {ts : List Term} {n : Nat} :
    height.heights ts ≤ n ↔ ∀ t ∈ ts, t.height ≤ n := by
  induction ts with
  | nil => simp [height.heights]
  | cons t ts ih =>
    rw [height.heights, Nat.max_le, ih]
    simp

/-- A term is one level higher than its highest part. -/
theorem height_le_succ_iff {t : Term} {n : Nat} :
    t.height ≤ n + 1 ↔ ∀ u ∈ t.parts, u.height ≤ n := by
  cases t with
  | int | str | bool | var => simp [height, parts]
  | call callee arguments l =>
    rw [height, Nat.add_le_add_iff_right, Nat.max_le, heights_le_iff]
    simp [parts]
  | function | letIn | cond | binary | tuple | print | first | second =>
    simp only [height, parts, Nat.add_le_add_iff_right, Nat.max_le, List.mem_cons,
      List.not_mem_nil, or_false, forall_eq_or_imp, forall_eq]

theorem height_pos (t : Term) : 0 < t.height := by
  cases t <;> simp [height]

/-- The term is another one, or occurs in a part of it. -/
inductive OccursIn (t : Term) : Term → Prop
  | self : OccursIn t t
  | part {u w : Term} (hu : u ∈ w.parts) (h : OccursIn t u) : OccursIn t w

/-- A part of what occurs in a term occurs there too. -/
theorem OccursIn.of_part {t u e : Term} (h : t.OccursIn e) (hu : u ∈ t.parts) : u.OccursIn e := by
  induction h with
  | self => exact .part hu .self
  | part hw _ ih => exact .part hw ih

end Treewalk.Term
