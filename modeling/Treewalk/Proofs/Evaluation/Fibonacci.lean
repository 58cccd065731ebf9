import Mathlib
import Treewalk.Proofs.Evaluation.Output
import Treewalk.Proofs.Signature

/-!
# Fibonacci numbers, with the cache and without

The program `let fib = fn (n) => if (n < 2) { n } else { fib(n - 1) + fib(n - 2) }; print(fib(n))`
prints the Fibonacci number of `n`, reduced to 32 bits, and with memoization every number up to `n`
is computed once (`Session.run?_fibonacci`).

`Calls` is the contract of one call: from which cache it comes to which value and which cache. A
call that is found costs a hit. A call that is not found costs a miss, then what the body costs, and
leaves an entry. With an empty cache the calls go down to `1` without a hit, and from then on the
second call of each body is found, but for that of `2`, which asks for `0` first.
-/

namespace Treewalk

open Evaluator

namespace Fibonacci

/-! ## The program -/

/-- The call `fib(n - k)`. Its terms stand at the places from `i` on. -/
def callBelow (place : Nat → Location) (i k : Nat) : Term :=
  .call (.var "fib" (place i)) [.binary (.var "n" (place (i + 1))) .sub
    (.int (.ofNat k) (place (i + 2))) (place (i + 3))] (place (i + 4))

/-- The body of the function: `if (n < 2) { n } else { fib(n - 1) + fib(n - 2) }`. -/
def recursion (place : Nat → Location) : Term :=
  .cond (.binary (.var "n" (place 0)) .lt (.int 2 (place 1)) (place 2)) (.var "n" (place 3))
    (.binary (callBelow place 4 1) .add (callBelow place 9 2) (place 14)) (place 15)

def closure (place : Nat → Location) : Value :=
  .closure [⟨"n", place 16⟩] (recursion place) (place 17)

/-- The function is bound to `fib` and called with `n`, and the result is printed. Each term stands
at a place of its own choice. -/
def program (place : Nat → Location) (n : Nat) : Program where
  name := "fibonacci"
  location := place 24
  expression := .letIn ⟨"fib", place 18⟩ (.function [⟨"n", place 16⟩] (recursion place) (place 17))
    (.print (.call (.var "fib" (place 19)) [.int (.ofNat n) (place 20)] (place 21)) (place 22))
    (place 23)

/-- The Fibonacci number of `k`, reduced to 32 bits. -/
def number (k : Nat) : Int32 := .ofNat (Nat.fib k)

/-- The signature of a call with `k`. -/
def key (k : Nat) : String := "fib" ++ "," ++ (Int32.ofNat k).toInt.repr ++ ","

/-- The number of levels of recursion that a call with `k` takes: three for each call that is open,
and the last one compares its argument. -/
def span (k : Nat) : Nat := 3 * max k 1 + 1

theorem four_le_span (k : Nat) : 4 ≤ span k := by
  unfold span
  omega

theorem number_of_lt_two {k : Nat} (hk : k < 2) : number k = .ofNat k := by
  interval_cases k <;> rfl

theorem number_add_two (k : Nat) : number (k + 2) = number (k + 1) + number k := by
  rw [number, Nat.fib_add_two, Nat.add_comm, Int32.ofNat_add]
  rfl

theorem signature?_eq (k : Nat) (l l' : Location) :
    signature? (.var "fib" l) l' [.int (.ofNat k)] = some (key k) := rfl

theorem key_injective {i j : Nat} (hi : i < 2 ^ 31) (hj : j < 2 ^ 31) (h : key i = key j) :
    i = j := by
  have hscalar : ∀ k, ∀ v ∈ [Value.int (.ofNat k)], v.IsScalar := fun k =>
    List.forall_mem_singleton.2 trivial
  have hcomma : ',' ∉ "fib".toList := by decide
  have hvalues := signature?_injective hcomma hcomma (hscalar i) (hscalar j)
    (signature?_eq i default default) (h ▸ signature?_eq j default default)
  have hofNat : Int32.ofNat i = Int32.ofNat j := by simpa using hvalues.2
  have htoInt := congrArg Int32.toInt hofNat
  rw [Int32.toInt_ofNat_of_lt hi, Int32.toInt_ofNat_of_lt hj] at htoInt
  omega

/-! ## Operators on the argument -/

theorem apply_lt_two {k : Nat} (hk : k < 2 ^ 31) :
    Operator.lt.apply (.int (.ofNat k)) (.int 2) = .ok (.bool (decide (k < 2))) := by
  have hlt : Int32.ofNat k < 2 ↔ k < 2 := by
    rw [Int32.lt_iff_toInt_lt, Int32.toInt_ofNat_of_lt hk]
    have htwo : (2 : Int32).toInt = 2 := rfl
    omega
  have hcompare : (compare (Int32.ofNat k) 2).isLT = decide (k < 2) := by
    show (compareOfLessAndEq (Int32.ofNat k) 2).isLT = _
    unfold compareOfLessAndEq
    by_cases hk2 : k < 2
    · rw [if_pos (hlt.2 hk2), decide_eq_true hk2]
      rfl
    · rw [if_neg (fun h => hk2 (hlt.1 h)), decide_eq_false hk2]
      split <;> rfl
  show Except.ok (Value.bool (compare (Int32.ofNat k) 2).isLT) = _
  rw [hcompare]

theorem apply_sub (k i : Nat) :
    Operator.sub.apply (.int (.ofNat (k + i))) (.int (.ofNat i)) = .ok (.int (.ofNat k)) := by
  have hsub : Int32.ofNat (k + i) - Int32.ofNat i = Int32.ofNat k := by
    rw [← Int32.ofNat_sub _ _ (Nat.le_add_left i k), Nat.add_sub_cancel]
  show Except.ok (Value.int (Int32.ofNat (k + i) - Int32.ofNat i)) = _
  rw [hsub]

/-! ## Contracts of body and call -/

variable {options : EvalOptions} {limit k : Nat} {place : Nat → Location} {c c₁ c₂ : Cache}
  {v : Value}

/-- With `n` bound to `k` and the cache `c`, the body comes to `v` and leaves the cache `c'`.
Nothing else changes. -/
def Evaluates (options : EvalOptions) (place : Nat → Location) (k : Nat) (c : Cache) (v : Value)
    (c' : Cache) : Prop :=
  ∀ (levels : Nat) (s : Session), s.depth + span k ≤ options.depthLimit + 1 →
    span k ≤ levels + 1 → s.scope.lookup? "fib" = some (closure place) →
    s.scope.lookup? "n" = some (.int (.ofNat k)) →
    Walk.answerWithin (body options) levels (.evaluate (recursion place) { s with cache := c }) =
      some (.ok v, { s with cache := c' })

/-- With the cache `c`, a call of the function on an argument that is `k` comes to `v` and leaves
the cache `c'`. Nothing else changes. -/
def Calls (options : EvalOptions) (place : Nat → Location) (k : Nat) (c : Cache) (v : Value)
    (c' : Cache) : Prop :=
  ∀ (levels : Nat) (s : Session) (a : Term) (l l' : Location),
    s.depth + span k ≤ options.depthLimit → span k ≤ levels + 1 →
    s.scope.lookup? "fib" = some (closure place) →
    Walk.answerWithin (body options) levels (.evaluate a { s.deeper with cache := c }) =
      some (.ok (.int (.ofNat k)), { s.deeper with cache := c }) →
    Walk.answerWithin (body options) (levels + 1)
        (.evaluate (.call (.var "fib" l) [a] l') { s with cache := c }) =
      some (.ok v, { s with cache := c' })

/-- The condition of the body compares `k` with two. -/
theorem answer_condition (hk : k < 2 ^ 31) {levels : Nat} {s : Session} {l l' l'' : Location}
    (hd : s.depth + 1 < options.depthLimit) (hn : s.scope.lookup? "n" = some (.int (.ofNat k))) :
    Walk.answerWithin (body options) (levels + 2)
        (.evaluate (.binary (.var "n" l) .lt (.int 2 l') l'') s) =
      some (.ok (.bool (decide (k < 2))), s) :=
  Succeeds.answer_eq (Nat.lt_of_succ_lt hd)
    (.binary (answer_of_var hd hn) (answer_of_int hd) (apply_lt_two hk))

/-- Below two the body comes to the argument. -/
theorem evaluates_of_lt_two (hk : k < 2) : Evaluates options place k c (.int (number k)) c := by
  intro levels s hd hlevels hf hn
  unfold span at hd hlevels
  obtain ⟨n, rfl⟩ : ∃ n, levels = n + 3 := ⟨levels - 3, by omega⟩
  have hlt : s.depth + 1 + 1 < options.depthLimit := by omega
  have hcondition : Walk.answerWithin (body options) (n + 2) (.evaluate
      (.binary (.var "n" (place 0)) .lt (.int 2 (place 1)) (place 2))
      { s.deeper with cache := c }) = _ :=
    answer_condition (by omega : k < 2 ^ 31) hlt hn
  rw [decide_eq_true hk] at hcondition
  have hargument : Walk.answerWithin (body options) (n + 2) (.evaluate (.var "n" (place 3))
      { s.deeper with cache := c }) = _ := answer_of_var (Nat.lt_of_succ_lt hlt) hn
  rw [number_of_lt_two hk]
  have hbody : Succeeds options (Walk.answerWithin (body options) (n + 2))
      { s.deeper with cache := c } (recursion place) _ { s.deeper with cache := c } :=
    .cond hcondition hargument
  exact hbody.answer_eq (s := { s with cache := c }) (Nat.lt_of_succ_lt (Nat.lt_of_succ_lt hlt))

/-- The argument of an inner call, `n - i`. -/
theorem answer_argument {i levels : Nat} {s : Session} {l l' l'' : Location}
    (hd : s.depth + 1 < options.depthLimit)
    (hn : s.scope.lookup? "n" = some (.int (.ofNat (k + i)))) :
    Walk.answerWithin (body options) (levels + 2)
        (.evaluate (.binary (.var "n" l) .sub (.int (.ofNat i) l') l'') s) =
      some (.ok (.int (.ofNat k)), s) :=
  Succeeds.answer_eq (Nat.lt_of_succ_lt hd)
    (.binary (answer_of_var hd hn) (answer_of_int hd) (apply_sub k i))

/-- From two on the body comes to the sum of what two calls come to, one after the other. -/
theorem evaluates_add_two (hk : k + 2 < 2 ^ 31) {a b : Int32}
    (h₁ : Calls options place (k + 1) c (.int a) c₁) (h₂ : Calls options place k c₁ (.int b) c₂) :
    Evaluates options place (k + 2) c (.int (a + b)) c₂ := by
  intro levels s hd hlevels hf hn
  unfold span at hd hlevels
  obtain ⟨n, rfl⟩ : ∃ n, levels = n + 6 := ⟨levels - 6, by omega⟩
  -- the condition is one level deep, the calls are two levels deep, and their arguments three
  have hlt : s.depth + 1 + 1 + 1 + 1 < options.depthLimit := by omega
  have hcondition : Walk.answerWithin (body options) (n + 5) (.evaluate
      (.binary (.var "n" (place 0)) .lt (.int 2 (place 1)) (place 2))
      { s.deeper with cache := c }) = _ :=
    answer_condition hk (Nat.lt_of_succ_lt (Nat.lt_of_succ_lt hlt)) hn
  rw [decide_eq_false (by omega)] at hcondition
  have hfirst : Walk.answerWithin (body options) (n + 4) (.evaluate (callBelow place 4 1)
      { s.deeper.deeper with cache := c }) =
        some (.ok (.int a), { s.deeper.deeper with cache := c₁ }) := by
    have hspan : s.depth + 1 + 1 + span (k + 1) ≤ options.depthLimit := by unfold span; omega
    apply h₁ (n + 3) s.deeper.deeper _ _ _ hspan (by unfold span; omega) hf
    exact answer_argument hlt hn
  have hsecond : Walk.answerWithin (body options) (n + 4) (.evaluate (callBelow place 9 2)
      { s.deeper.deeper with cache := c₁ }) =
        some (.ok (.int b), { s.deeper.deeper with cache := c₂ }) := by
    have hspan : s.depth + 1 + 1 + span k ≤ options.depthLimit := by unfold span; omega
    apply h₂ (n + 3) s.deeper.deeper _ _ _ hspan (by unfold span; omega) hf
    exact answer_argument hlt hn
  have hlt : s.depth + 1 < options.depthLimit := by omega
  have hsum : Walk.answerWithin (body options) (n + 5) (.evaluate
      (.binary (callBelow place 4 1) .add (callBelow place 9 2) (place 14))
      { s.deeper with cache := c }) = some (.ok (.int (a + b)), { s.deeper with cache := c₂ }) :=
    Succeeds.answer_eq hlt (.binary hfirst hsecond rfl)
  have hbody : Succeeds options (Walk.answerWithin (body options) (n + 5))
      { s.deeper with cache := c } (recursion place) _ { s.deeper with cache := c₂ } :=
    .cond hcondition hsum
  exact hbody.answer_eq (s := { s with cache := c }) (Nat.lt_of_succ_lt hlt)

/-- A call enters the body with `n` bound to the argument, one level deeper. -/
theorem answer_call {levels : Nat} {s s' : Session} {a : Term} (l l' : Location)
    (hd : s.depth + 1 < options.depthLimit)
    (ha : Walk.answerWithin (body options) (levels + 1) (.evaluate a s.deeper) =
      some (.ok (.int (.ofNat k)), s.deeper)) (hf : s.scope.lookup? "fib" = some (closure place))
    (henter : exec (Walk.answerWithin (body options) (levels + 1))
      (enter (if options.memoize then some (key k) else none)
        (s.scope.bind "n" (.int (.ofNat k))) (recursion place)) s.deeper = some (.ok v, s')) :
    Walk.answerWithin (body options) (levels + 2)
        (.evaluate (.call (.var "fib" l) [a] l') s) = some (.ok v, s'.shallower) := by
  refine Succeeds.answer_eq (Nat.lt_of_succ_lt hd) ?_
  refine .call (answer_of_var hd hf) rfl (.cons ha .nil) ?_
  rw [signature?_eq]
  exact henter

/-- The body in the frame of a call. -/
theorem Evaluates.frame (h : Evaluates options place k c v c₁) {levels : Nat} {s : Session}
    (hd : s.depth + span k ≤ options.depthLimit + 1) (hlevels : span k ≤ levels + 1)
    (hf : s.scope.lookup? "fib" = some (closure place)) :
    Walk.answerWithin (body options) levels (.evaluate (recursion place)
        { s with scope := s.scope.bind "n" (.int (.ofNat k)), cache := c }) =
      some (.ok v, { s with scope := s.scope.bind "n" (.int (.ofNat k)), cache := c₁ }) := by
  apply h levels { s with scope := s.scope.bind "n" (.int (.ofNat k)) } hd hlevels
  · exact (Scope.lookup?_bind_of_ne _ (by decide) _).trans hf
  · exact Scope.lookup?_bind_self ..

/-- The limits of a contract leave room for the argument, so the call is what entering the body
comes to, one level deeper. -/
theorem calls_of_enter
    (h : ∀ (levels : Nat) (s : Session), s.depth + span k ≤ options.depthLimit + 1 →
      span k ≤ levels + 1 → s.scope.lookup? "fib" = some (closure place) →
      exec (Walk.answerWithin (body options) levels)
          (enter (if options.memoize then some (key k) else none)
            (s.scope.bind "n" (.int (.ofNat k))) (recursion place))
          { s with cache := c } = some (.ok v, { s with cache := c₁ })) :
    Calls options place k c v c₁ := by
  intro levels s a l l' hd hlevels hf ha
  have hspan := four_le_span k
  obtain ⟨n, rfl⟩ : ∃ n, levels = n + 1 := ⟨levels - 1, by omega⟩
  have hlt : s.depth + 1 < options.depthLimit := by omega
  have hdeeper : s.depth + 1 + span k ≤ options.depthLimit + 1 := by omega
  have henter := h (n + 1) s.deeper hdeeper hlevels hf
  exact answer_call (s := { s with cache := c }) l l' hlt ha hf henter

/-- A call that is found. -/
theorem calls_of_hit (h : c.entries[key k]? = some v) :
    Calls ⟨limit, true⟩ place k c v { c with hits := c.hits + 1 } := by
  apply calls_of_enter
  intro levels s _ _ _
  rw [if_pos rfl, exec_enter_of_hit h, Cache.get?_of_some h]

/-- A call that is not found, and is remembered. -/
theorem calls_of_miss (h : c.entries[key k]? = none)
    (hbody : Evaluates ⟨limit, true⟩ place k { c with misses := c.misses + 1 } v c₁) :
    Calls ⟨limit, true⟩ place k c v (c₁.insert (key k) v) := by
  apply calls_of_enter
  intro levels s hd hlevels hf
  have henter := exec_enter_of_miss_of_ok (s := { s with cache := c }) h
    (hbody.frame hd hlevels hf) rfl
  rw [if_pos rfl, henter]

/-- A call without memoization. -/
theorem calls_unmemoized (hbody : Evaluates ⟨limit, false⟩ place k c v c₁) :
    Calls ⟨limit, false⟩ place k c v c₁ := by
  apply calls_of_enter
  intro levels s hd hlevels hf
  rw [if_neg Bool.false_ne_true, enter, exec_evaluateIn]
  simp only [hbody.frame hd hlevels hf]
  rfl

/-! ## Without memoization -/

theorem calls_number (limit : Nat) (place : Nat → Location) (hk : k < 2 ^ 31) (c : Cache) :
    Calls ⟨limit, false⟩ place k c (.int (number k)) c := by
  induction k using Nat.twoStepInduction with
  | zero => exact calls_unmemoized (evaluates_of_lt_two (by decide))
  | one => exact calls_unmemoized (evaluates_of_lt_two (by decide))
  | more k ih₀ ih₁ =>
    rw [number_add_two]
    exact calls_unmemoized (evaluates_add_two hk (ih₁ (by omega)) (ih₀ (by omega)))

/-! ## With memoization -/

theorem getElem?_insert_key {i j : Nat} (hi : i < 2 ^ 31) (hj : j < 2 ^ 31) (c : Cache)
    (v : Value) :
    (c.insert (key i) v).entries[key j]? = if i = j then some v else c.entries[key j]? := by
  rw [Cache.entries_insert, Std.HashMap.getElem?_insert]
  by_cases hij : i = j
  · rw [if_pos (by rw [hij, beq_self_eq_true]), if_pos hij]
  · have hkey : ¬ (key i == key j) = true := fun h => hij (key_injective hi hj (eq_of_beq h))
    rw [if_neg hkey, if_neg hij]

theorem size_insert_key {i : Nat} {c : Cache} (h : c.entries[key i]? = none) (v : Value) :
    (c.insert (key i) v).size = c.size + 1 := by
  have hkey : key i ∉ c.entries := by
    rw [Std.HashMap.mem_iff_isSome_getElem?, h]
    exact Bool.false_ne_true
  show (c.entries.insert (key i) v).size = c.entries.size + 1
  rw [Std.HashMap.size_insert, if_neg hkey]

/-- The second cache knows the numbers up to `k`, of which the first one knew none, and for each of
them there was one miss. Every number from the third on was found once. -/
structure Learned (k : Nat) (c c' : Cache) : Prop where
  known : ∀ i, i ≤ k → c'.entries[key i]? = some (.int (number i))
  unknown : ∀ i, k < i → i < 2 ^ 31 → c'.entries[key i]? = c.entries[key i]?
  size_eq : c'.size = c.size + (k + 1)
  hits_eq : c'.hits + 2 = c.hits + k
  misses_eq : c'.misses = c.misses + (k + 1)

/-- The function is called with `2`, which calls it with `1` and then with `0`. -/
theorem exists_learned_two (limit : Nat) (place : Nat → Location)
    (h : ∀ i, i ≤ 2 → c.entries[key i]? = none) : ∃ c',
      Calls ⟨limit, true⟩ place 2 c (.int (number 2)) c' ∧ Learned 2 c c' := by
  let c₁ := Cache.insert { c with misses := c.misses + 1 + 1 } (key 1) (.int (number 1))
  let c₀ := Cache.insert { c₁ with misses := c₁.misses + 1 } (key 0) (.int (number 0))
  have h₁ : ∀ j, j < 2 ^ 31 → c₁.entries[key j]? =
      if 1 = j then some (.int (number 1)) else c.entries[key j]? := fun j hj =>
    getElem?_insert_key (by decide) hj _ _
  have h₀ : ∀ j, j < 2 ^ 31 → c₀.entries[key j]? =
      if 0 = j then some (.int (number 0)) else c₁.entries[key j]? := fun j hj =>
    getElem?_insert_key (by decide) hj _ _
  have h₂ : ∀ j, j < 2 ^ 31 → (c₀.insert (key 2) (.int (number 2))).entries[key j]? =
      if 2 = j then some (.int (number 2)) else c₀.entries[key j]? := fun j hj =>
    getElem?_insert_key (by decide) hj _ _
  have hmiss₀ : c₁.entries[key 0]? = none := by
    rw [h₁ 0 (by decide), if_neg (by decide), h 0 (by decide)]
  have hmiss₂ : c₀.entries[key 2]? = none := by
    rw [h₀ 2 (by decide), if_neg (by decide), h₁ 2 (by decide), if_neg (by decide), h 2 (by decide)]
  have hone : Calls ⟨limit, true⟩ place 1 { c with misses := c.misses + 1 } (.int (number 1)) c₁ :=
    calls_of_miss (h 1 (by decide)) (evaluates_of_lt_two (by decide))
  have hzero : Calls ⟨limit, true⟩ place 0 c₁ (.int (number 0)) c₀ :=
    calls_of_miss hmiss₀ (evaluates_of_lt_two (by decide))
  refine ⟨_, calls_of_miss (h 2 (by decide)) (evaluates_add_two (by decide) hone hzero), ?_⟩
  have hsize₁ : c₁.size = c.size + 1 := size_insert_key (h 1 (by decide)) _
  have hsize₀ : c₀.size = c₁.size + 1 := size_insert_key hmiss₀ _
  have hsize₂ := size_insert_key hmiss₂ (.int (number 2))
  refine ⟨?_, ?_, ?_, rfl, rfl⟩
  · intro i hi
    interval_cases i
    · exact (h₂ 0 (by decide)).trans (h₀ 0 (by decide))
    · exact (h₂ 1 (by decide)).trans ((h₀ 1 (by decide)).trans (h₁ 1 (by decide)))
    · exact h₂ 2 (by decide)
  · intro i hi hlt
    have h₂ := h₂ i hlt
    rw [if_neg (by omega), h₀ i hlt, if_neg (by omega), h₁ i hlt, if_neg (by omega)] at h₂
    exact h₂
  · show (c₀.insert (key 2) (.int (number 2))).size = _
    omega

/-- Above two, the call with one less learns all the numbers below, and that with two less is
found. -/
theorem exists_learned (limit : Nat) (place : Nat → Location) (hk : k + 2 < 2 ^ 31)
    (h : ∀ i, i ≤ k + 2 → c.entries[key i]? = none) : ∃ c',
      Calls ⟨limit, true⟩ place (k + 2) c (.int (number (k + 2))) c' ∧ Learned (k + 2) c c' := by
  induction k generalizing c with
  | zero => exact exists_learned_two limit place h
  | succ k ih =>
    have hmisses : ∀ i, i ≤ k + 2 →
        ({ c with misses := c.misses + 1 } : Cache).entries[key i]? = none := by
      intro i hi
      exact h i (by omega)
    obtain ⟨c₁, hfirst, hlearned⟩ := ih (by omega) hmisses
    have hsecond : Calls ⟨limit, true⟩ place (k + 1) c₁ (.int (number (k + 1)))
        { c₁ with hits := c₁.hits + 1 } := calls_of_hit (hlearned.known (k + 1) (by omega))
    have hmiss : c₁.entries[key (k + 3)]? = none := by
      rw [hlearned.unknown (k + 3) (by omega) hk]
      exact h (k + 3) (by omega)
    have hbody := evaluates_add_two hk hfirst hsecond
    rw [← number_add_two (k + 1)] at hbody
    refine ⟨_, calls_of_miss (h (k + 3) (by omega)) hbody, ?_, ?_, ?_, ?_, ?_⟩
    · intro i hi
      rw [getElem?_insert_key hk (by omega)]
      by_cases hik : k + 3 = i
      · rw [if_pos hik, hik]
      · rw [if_neg hik]
        exact hlearned.known i (by omega)
    · intro i hi hlt
      rw [getElem?_insert_key hk hlt, if_neg (by omega)]
      exact hlearned.unknown i (by omega) hlt
    · have hsize : c₁.size = c.size + (k + 2 + 1) := hlearned.size_eq
      have hinsert : (c₁.insert (key (k + 3)) (.int (number (k + 3)))).size = c₁.size + 1 :=
        size_insert_key hmiss _
      show (c₁.insert (key (k + 3)) (.int (number (k + 3)))).size = _
      omega
    · show c₁.hits + 1 + 2 = _
      have hhits : c₁.hits + 2 = c.hits + (k + 2) := hlearned.hits_eq
      omega
    · show c₁.misses = _
      have hmisses : c₁.misses = c.misses + 1 + (k + 2 + 1) := hlearned.misses_eq
      omega

/-! ## The whole program -/

/-- The program prints what the call comes to, and changes the cache as the call does. -/
theorem run?_of_calls {n levels : Nat} {x : Int32} (hn : 2 ≤ n)
    (hlimit : 3 * n + 3 ≤ options.depthLimit) (hlevels : 3 * n + 3 ≤ levels)
    (h : Calls options place n ∅ (.int x) c) (contents : ByteArray) :
    Session.run? options levels (program place n) (.new ⟨none, false, contents⟩) =
      some (.ok .nil, ⟨∅, c, ⟨none, false, contents ++ Sink.line x.toInt.repr⟩, 1, 0⟩) := by
  obtain ⟨m, rfl⟩ : ∃ m, levels = m + 4 := ⟨levels - 4, by omega⟩
  have hspan : span n = 3 * n + 1 := by unfold span; omega
  have hlt : 0 + 1 + 1 + 1 < options.depthLimit := by omega
  let start : Session := .new ⟨none, false, contents⟩
  let bound : Session := { start.deeper with scope := (∅ : Scope).bind "fib" (closure place) }
  have hfunction : Walk.answerWithin (body options) (m + 3) (.evaluate
      (.function [⟨"n", place 16⟩] (recursion place) (place 17)) start.deeper) =
        some (.ok (closure place), start.deeper) :=
    Succeeds.answer_eq (Nat.lt_of_succ_lt (Nat.lt_of_succ_lt hlt)) .function
  have hargument : Walk.answerWithin (body options) (m + 1)
      (.evaluate (.int (.ofNat n) (place 20)) bound.deeper.deeper) =
        some (.ok (.int (.ofNat n)), bound.deeper.deeper) := answer_of_int hlt
  have hcall : Walk.answerWithin (body options) (m + 2) (.evaluate
      (.call (.var "fib" (place 19)) [.int (.ofNat n) (place 20)] (place 21)) bound.deeper) =
        some (.ok (.int x), { bound.deeper with cache := c }) := by
    have hroom : 0 + 1 + 1 + span n ≤ options.depthLimit := by omega
    exact h (m + 1) bound.deeper _ _ _ hroom (by omega) (Scope.lookup?_bind_self ..) hargument
  have htext : Walk.answerWithin (body options) (m + 2)
      (.render (.int x) "" { bound.deeper with cache := c }) =
        some (.ok x.toInt.repr, { bound.deeper with cache := c }) := by
    rw [answer_render_leaf (by simp), String.empty_append]
    rfl
  have hprint : Walk.answerWithin (body options) (m + 3) (.evaluate
      (.print (.call (.var "fib" (place 19)) [.int (.ofNat n) (place 20)] (place 21)) (place 22))
      bound) = some (.ok .nil, { bound with
        cache := c, sink := ⟨none, false, contents ++ Sink.line x.toInt.repr⟩, prints := 1 }) :=
    Succeeds.answer_eq (Nat.lt_of_succ_lt (Nat.lt_of_succ_lt hlt))
      (.print hcall htext (Sink.writeLine_unlimited ..))
  have hrun : Session.evaluate? options (m + 4) (program place n).expression start = _ :=
    Succeeds.answer_eq (Nat.lt_of_succ_lt (Nat.lt_of_succ_lt (Nat.lt_of_succ_lt hlt)))
      (.letIn hfunction hprint)
  unfold Session.run?
  rw [show ({ Session.new ⟨none, false, contents⟩ with scope := ∅ } : Session) = start from rfl,
    hrun]
  rfl

end Fibonacci

open Fibonacci

/-- Memoized Fibonacci is right and linear. For every `n` from two to the greatest integer, a run
with a limit on depth of `3 * n + 3` or more prints the Fibonacci number of `n`, reduced to a signed
integer of 32 bits. With memoization there are `n + 1` entries, `n - 2` hits and `n + 1` misses at
the end. Without it the same is printed, and the cache is not touched. -/
theorem Session.run?_fibonacci {n limit levels : Nat} (hn : 2 ≤ n) (hmax : n ≤ 2 ^ 31 - 1)
    (hlimit : 3 * n + 3 ≤ limit) (hlevels : 3 * n + 3 ≤ levels) (place : Nat → Location)
    (contents : ByteArray) :
    (∃ cache : Cache, run? ⟨limit, true⟩ levels (program place n) (.new ⟨none, false, contents⟩) =
        some (.ok .nil, ⟨∅, cache, ⟨none, false,
          contents ++ Sink.line (Int.bmod (Nat.fib n) (2 ^ 32)).repr⟩, 1, 0⟩) ∧
      cache.counts = (n + 1, n - 2, n + 1)) ∧
    ∃ cache : Cache, run? ⟨limit, false⟩ levels (program place n) (.new ⟨none, false, contents⟩) =
        some (.ok .nil, ⟨∅, cache, ⟨none, false,
          contents ++ Sink.line (Int.bmod (Nat.fib n) (2 ^ 32)).repr⟩, 1, 0⟩) ∧
      cache.counts = (0, 0, 0) := by
  obtain ⟨k, rfl⟩ : ∃ k, n = k + 2 := ⟨n - 2, by omega⟩
  have hlt : k + 2 < 2 ^ 31 := by omega
  have htext : (number (k + 2)).toInt = Int.bmod (Nat.fib (k + 2)) (2 ^ 32) := Int32.toInt_ofNat'
  rw [← htext]
  constructor
  · obtain ⟨cache, hcalls, hlearned⟩ := exists_learned limit place hlt fun i _ => by
      rw [Cache.entries_empty, Std.HashMap.getElem?_empty]
    refine ⟨cache, run?_of_calls hn hlimit hlevels hcalls contents, ?_⟩
    have hempty : (∅ : Cache).size = 0 := Std.HashMap.size_empty
    have hsize := hlearned.size_eq
    have hhits : cache.hits + 2 = 0 + (k + 2) := hlearned.hits_eq
    have hmisses : cache.misses = 0 + (k + 2 + 1) := hlearned.misses_eq
    unfold Cache.counts
    refine Prod.ext ?_ (Prod.ext ?_ ?_)
    · show cache.size = k + 2 + 1
      omega
    · show cache.hits = k + 2 - 2
      omega
    · show cache.misses = k + 2 + 1
      omega
  · exact ⟨∅, run?_of_calls hn hlimit hlevels (calls_number limit place hlt ∅) contents, rfl⟩

/-- The Fibonacci number of fifty is 12586269025, which does not fit into 32 bits. -/
theorem Session.run?_fibonacci_fifty :
    (∃ cache : Cache, run? ⟨153, true⟩ 153 (program default 50) (.new .unlimited) =
        some (.ok .nil, ⟨∅, cache, ⟨none, false, "-298632863\n".toUTF8⟩, 1, 0⟩) ∧
      cache.counts = (51, 48, 51)) ∧
    ∃ cache : Cache, run? ⟨153, false⟩ 153 (program default 50) (.new .unlimited) =
        some (.ok .nil, ⟨∅, cache, ⟨none, false, "-298632863\n".toUTF8⟩, 1, 0⟩) ∧
      cache.counts = (0, 0, 0) := by
  have htext : ByteArray.empty ++ Sink.line (Int.bmod (Nat.fib 50) (2 ^ 32)).repr =
      "-298632863\n".toUTF8 := by
    have hfib : Nat.fib 50 = 12586269025 := by norm_num
    rw [hfib, ByteArray.empty_append]
    decide
  have hruns := Session.run?_fibonacci (n := 50) (by decide) (by decide) (le_refl 153) (le_refl 153)
    default .empty
  rw [htext] at hruns
  exact hruns

end Treewalk
