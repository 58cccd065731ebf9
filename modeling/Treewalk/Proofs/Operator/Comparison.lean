import Mathlib
import Treewalk.Operator.Apply
import Treewalk.Proofs.Text.ByteOrder

/-!
# What comparisons say

Six operators compare values, four of them by `order?` and two by `equal?`. The two functions agree
(`equal?_of_order?`), so on integers and on texts the six operators describe one total order
(`comparisons_form_total_orders`). Texts come in the order of their UTF-8 bytes, which is also that
of their code points.
-/

namespace Treewalk.Operator

/-- Both values are of the same kind, which is one of `kinds`. -/
def BothOf (kinds : List Value.Kind) (l r : Value) : Prop := l.kind = r.kind ∧ l.kind ∈ kinds

/-- The operator is true of the two values. -/
def Holds (op : Operator) (l r : Value) : Prop := op.apply l r = .ok (.bool true)

variable {l m r : Value} {o : Ordering}

/-! ## Order and equality -/

theorem order?_eq_some_iff : order? l r = some o ↔
    (∃ a b, l = .int a ∧ r = .int b ∧ compare a b = o) ∨
      ∃ a b, l = .str a ∧ r = .str b ∧ compare a b = o := by
  cases l <;> cases r <;> simp [order?]

theorem exists_order?_iff : (∃ o, order? l r = some o) ↔ BothOf [.int, .str] l r := by
  cases l <;> cases r <;> simp [order?, BothOf, Value.kind]

theorem exists_equal?_iff : (∃ b, equal? l r = some b) ↔ BothOf [.int, .str, .bool] l r := by
  cases l <;> cases r <;> simp [equal?, BothOf, Value.kind]

theorem equal?_eq_some_true_iff (h : BothOf [.int, .str, .bool] l r) :
    equal? l r = some true ↔ l = r := by
  cases l <;> cases r <;> simp_all [equal?, BothOf, Value.kind]

theorem order?_swap (h : order? l r = some o) : order? r l = some o.swap := by
  rcases order?_eq_some_iff.1 h with ⟨a, b, rfl, rfl, rfl⟩ | ⟨a, b, rfl, rfl, rfl⟩
  · exact congrArg some Std.OrientedOrd.eq_swap
  · exact congrArg some Std.OrientedOrd.eq_swap

theorem order?_trans (h : order? l m = some .lt) (h' : order? m r = some .lt) :
    order? l r = some .lt := by
  rcases order?_eq_some_iff.1 h with ⟨a, b, rfl, rfl, hab⟩ | ⟨a, b, rfl, rfl, hab⟩
  · rcases order?_eq_some_iff.1 h' with ⟨b', c, hb, rfl, hbc⟩ | ⟨b', c, hb, -, -⟩
    · cases hb
      exact congrArg some (Std.TransCmp.lt_trans hab hbc)
    · cases hb
  · rcases order?_eq_some_iff.1 h' with ⟨b', c, hb, -, -⟩ | ⟨b', c, hb, rfl, hbc⟩
    · cases hb
    · cases hb
      exact congrArg some (Std.TransCmp.lt_trans hab hbc)

theorem beq_eq_isEq_compare {α : Type} [BEq α] [LawfulBEq α] [Ord α] [Std.LawfulEqOrd α] (a b : α) :
    (a == b) = (compare a b).isEq := by
  rw [Bool.eq_iff_iff, beq_iff_eq, Ordering.isEq_iff_eq_eq, Std.LawfulEqCmp.compare_eq_iff_eq]

/-- Where there is an order, values are equal exactly if none of the two comes first. -/
theorem equal?_of_order? (h : order? l r = some o) : equal? l r = some o.isEq := by
  rcases order?_eq_some_iff.1 h with ⟨a, b, rfl, rfl, rfl⟩ | ⟨a, b, rfl, rfl, rfl⟩
  · exact congrArg some (beq_eq_isEq_compare a b)
  · exact congrArg some (beq_eq_isEq_compare a b)

/-! ## The operators -/

theorem comparison_of_order? (op : Operator) (f : Ordering → Bool) (h : order? l r = some o) :
    op.comparison f l r = .ok (.bool (f o)) := by
  rw [comparison, h]

theorem equality_of_equal? (op : Operator) (f : Bool → Bool) {b : Bool} (h : equal? l r = some b) :
    op.equality f l r = .ok (.bool (f b)) := by
  rw [equality, h]

theorem exists_comparison_iff (op : Operator) (f : Ordering → Bool) :
    (∃ v, op.comparison f l r = .ok v) ↔ BothOf [.int, .str] l r := by
  rw [← exists_order?_iff]
  unfold comparison
  cases order? l r <;> simp

theorem exists_equality_iff (op : Operator) (f : Bool → Bool) :
    (∃ v, op.equality f l r = .ok v) ↔ BothOf [.int, .str, .bool] l r := by
  rw [← exists_equal?_iff]
  unfold equality
  cases equal? l r <;> simp

theorem holds_lt_iff : Holds lt l r ↔ order? l r = some .lt := by
  constructor
  · intro h
    have hv : lt.comparison Ordering.isLT l r = .ok (.bool true) := h
    obtain ⟨o, ho⟩ := exists_order?_iff.2 ((exists_comparison_iff _ _).1 ⟨_, hv⟩)
    rw [comparison_of_order? _ _ ho] at hv
    cases o with
    | lt => exact ho
    | eq | gt => cases hv
  · exact comparison_of_order? lt Ordering.isLT

theorem holds_lt_str_iff {a b : String} : Holds lt (.str a) (.str b) ↔ a < b := by
  rw [holds_lt_iff]
  show some (compareOfLessAndEq a b) = some .lt ↔ a < b
  rw [Option.some.injEq, compareOfLessAndEq_eq_lt]

theorem holds_lt_int_iff {m n : Int32} : Holds lt (.int m) (.int n) ↔ m < n := by
  rw [holds_lt_iff]
  show some (compareOfLessAndEq m n) = some .lt ↔ m < n
  rw [Option.some.injEq, compareOfLessAndEq_eq_lt]

theorem holds_eq_iff (h : BothOf [.int, .str, .bool] l r) : Holds eq l r ↔ l = r := by
  obtain ⟨b, hb⟩ := exists_equal?_iff.2 h
  rw [← equal?_eq_some_true_iff h, hb]
  show eq.equality id l r = .ok (.bool true) ↔ _
  rw [equality_of_equal? _ _ hb]
  simp

/-- The six comparisons of two values that have an order. -/
theorem comparisons_of_order? (h : order? l r = some o) :
    lt.apply l r = .ok (.bool o.isLT) ∧ eq.apply l r = .ok (.bool o.isEq) ∧
      gt.apply l r = .ok (.bool o.isGT) ∧ lte.apply l r = .ok (.bool o.isLE) ∧
      gte.apply l r = .ok (.bool o.isGE) ∧ lt.apply r l = .ok (.bool o.isGT) := by
  refine ⟨comparison_of_order? lt _ h, equality_of_equal? eq _ (equal?_of_order? h),
    comparison_of_order? gt _ h, comparison_of_order? lte _ h, comparison_of_order? gte _ h, ?_⟩
  rw [← Ordering.isLT_swap]
  exact comparison_of_order? lt _ (order?_swap h)

/-- An equation fails where its negation does, and otherwise says the opposite. -/
theorem apply_neq_eq_ok_iff {b : Bool} :
    neq.apply l r = .ok (.bool !b) ↔ eq.apply l r = .ok (.bool b) := by
  show neq.equality not l r = _ ↔ eq.equality id l r = _
  cases h : equal? l r with
  | some c => simp [equality, h]
  | none => simp [equality, h]

/-- The comparison operators describe one total order on integers and one on texts. Exactly two
integers or two texts can be compared by `lt`, `lte`, `gt` and `gte`, and exactly two integers, two
texts or two booleans by `eq` and `neq`. Of `lt`, `eq` and `gt` one is true and the others are
false; `lte` is `lt` or `eq`, `gte` is `gt` or `eq`, and `gt` is `lt` the other way round. `eq` is
equality and `neq` its negation. `lt` is transitive. On integers it is the order of the numbers. On
texts it is the lexicographic order of the UTF-8 bytes, and that is the lexicographic order of the
code points. -/
theorem comparisons_form_total_orders :
    (∀ l r : Value,
      (∀ op ∈ [lt, lte, gt, gte], (∃ v, op.apply l r = .ok v) ↔ BothOf [.int, .str] l r) ∧
      (∀ op ∈ [eq, neq], (∃ v, op.apply l r = .ok v) ↔ BothOf [.int, .str, .bool] l r) ∧
      (BothOf [.int, .str] l r → ∃ less equal greater : Bool,
        lt.apply l r = .ok (.bool less) ∧ eq.apply l r = .ok (.bool equal) ∧
        gt.apply l r = .ok (.bool greater) ∧ [less, equal, greater].count true = 1 ∧
        lte.apply l r = .ok (.bool (less || equal)) ∧
        gte.apply l r = .ok (.bool (greater || equal)) ∧ gt.apply l r = lt.apply r l) ∧
      (BothOf [.int, .str, .bool] l r → (Holds eq l r ↔ l = r)) ∧
      (∀ b, neq.apply l r = .ok (.bool !b) ↔ eq.apply l r = .ok (.bool b)) ∧
      ∀ m, Holds lt l m → Holds lt m r → Holds lt l r) ∧
    (∀ m n : Int32, Holds lt (.int m) (.int n) ↔ m.toInt < n.toInt) ∧
    ∀ a b : String,
      (Holds lt (.str a) (.str b) ↔ List.Lex (· < ·) (Text.bytes a) (Text.bytes b)) ∧
      (List.Lex (· < ·) (Text.bytes a) (Text.bytes b) ↔
        List.Lex (· < ·) (Text.codePoints a) (Text.codePoints b)) := by
  refine ⟨fun l r => ⟨?_, ?_, ?_, holds_eq_iff, fun b => apply_neq_eq_ok_iff, ?_⟩, ?_, ?_⟩
  · intro op hop
    simp only [List.mem_cons, List.not_mem_nil, or_false] at hop
    rcases hop with rfl | rfl | rfl | rfl <;> exact exists_comparison_iff _ _
  · intro op hop
    simp only [List.mem_cons, List.not_mem_nil, or_false] at hop
    rcases hop with rfl | rfl <;> exact exists_equality_iff _ _
  · intro h
    obtain ⟨o, ho⟩ := exists_order?_iff.2 h
    obtain ⟨hlt, heq, hgt, hlte, hgte, hswap⟩ := comparisons_of_order? ho
    refine ⟨_, _, _, hlt, heq, hgt, ?_, ?_, ?_, hgt.trans hswap.symm⟩
    · cases o <;> rfl
    · rw [hlte]
      cases o <;> rfl
    · rw [hgte]
      cases o <;> rfl
  · intro m hlm hmr
    rw [holds_lt_iff] at hlm hmr ⊢
    exact order?_trans hlm hmr
  · intro m n
    rw [holds_lt_int_iff, Int32.lt_iff_toInt_lt]
  · intro a b
    rw [holds_lt_str_iff, Text.lex_bytes_iff, Text.lex_codePoints_iff]
    exact ⟨Iff.rfl, Iff.rfl⟩

/-- Characters of one, two, three and four bytes in a row. The last two stand in this order though
their UTF-16 code units stand in the other. -/
theorem comparisons_of_widths :
    BothOf [.int, .str] (.str "a") (.str "aé") ∧
      lt.apply (.str "aé") (.str "a") = .ok (.bool false) ∧
      Holds lt (.str "aé") (.str "a\uffff") ∧ Holds lt (.str "a\uffff") (.str "a😀") ∧
      Holds lt (.str "aé") (.str "a😀") ∧
      List.Lex (· < ·) (Text.bytes "a\uffff") (Text.bytes "a😀") ∧
      List.Lex (· < ·) (Text.codePoints "a\uffff") (Text.codePoints "a😀") := by
  obtain ⟨hvalues, -, htexts⟩ := comparisons_form_total_orders
  have hboth : BothOf [.int, .str] (.str "a") (.str "aé") := ⟨rfl, by decide⟩
  have hlt : lt.apply (.str "a") (.str "aé") = .ok (.bool true) := rfl
  have hfirst : Holds lt (.str "aé") (.str "a\uffff") := rfl
  have hsecond : Holds lt (.str "a\uffff") (.str "a😀") := rfl
  have hbytes := (htexts "a\uffff" "a😀").1.1 hsecond
  refine ⟨hboth, ?_, hfirst, hsecond, (hvalues _ _).2.2.2.2.2 _ hfirst hsecond, hbytes,
    (htexts _ _).2.1 hbytes⟩
  -- one of the three is true, and that is `lt`
  obtain ⟨less, equal, greater, hless, -, hgreater, hcount, -, -, hswap⟩ :=
    (hvalues (.str "a") (.str "aé")).2.2.1 hboth
  rw [hlt] at hless
  cases hless
  rw [← hswap, hgreater]
  cases greater with
  | false => rfl
  | true => cases equal <;> cases hcount

end Treewalk.Operator
