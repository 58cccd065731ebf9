import Std.Data.String.ToInt
import Treewalk.Cache

/-!
# What a signature tells

A signature is a sequence of texts, each closed by a comma: what stands for the function, then the
arguments (`signature?_eq_some_iff`). So it tells these texts as long as none of them has a comma
itself (`closed_injective`). The texts of integers and booleans never do, and they tell the value
(`text_injective`); hence two calls on such arguments by names without commas share a signature only
if they are the same call (`signature?_injective`).
-/

namespace Treewalk

/-- Decimal digits and a minus sign are all that the text of an integer is made of. -/
theorem isDigit_or_minus_of_mem_repr {n : Int} {c : Char} (h : c ∈ n.repr.toList) :
    c.isDigit ∨ c = '-' := by
  have digits : ∀ k : Nat, c ∈ k.repr.toList → c.isDigit := fun k hk =>
    Nat.isDigit_of_mem_toDigits (by decide) (by decide) (Nat.toList_repr ▸ hk)
  rw [Int.repr_eq_if] at h
  split at h
  · exact .inl (digits _ h)
  · rw [String.toList_append] at h
    rcases List.mem_append.1 h with h | h
    · exact .inr (by simpa using h)
    · exact .inl (digits _ h)

namespace Signature

/-- Texts one after another, each closed by a comma. -/
def closed (texts : List String) : List Char := texts.flatMap fun t => t.toList ++ [',']

theorem append_comma_inj {x y xs ys : List Char} (hx : ',' ∉ x) (hy : ',' ∉ y)
    (h : x ++ ',' :: xs = y ++ ',' :: ys) : x = y ∧ xs = ys := by
  induction x generalizing y with
  | nil =>
    cases y with
    | nil => exact ⟨rfl, (List.cons.inj h).2⟩
    | cons d y => exact absurd (List.cons.inj h).1 fun e => hy (e ▸ List.mem_cons_self)
  | cons c x ih =>
    cases y with
    | nil => exact absurd (List.cons.inj h).1 fun e => hx (e ▸ List.mem_cons_self)
    | cons d y =>
      obtain ⟨hcd, htail⟩ := List.cons.inj h
      obtain ⟨hxy, hrest⟩ := ih (fun m => hx (List.mem_cons_of_mem _ m))
        (fun m => hy (List.mem_cons_of_mem _ m)) htail
      exact ⟨by rw [hcd, hxy], hrest⟩

/-- Texts without commas can be told apart after they are put together. -/
theorem closed_injective {xs ys : List String} (hx : ∀ t ∈ xs, ',' ∉ t.toList)
    (hy : ∀ t ∈ ys, ',' ∉ t.toList) (h : closed xs = closed ys) : xs = ys := by
  induction xs generalizing ys with
  | nil =>
    cases ys with
    | nil => rfl
    | cons y ys => simp [closed] at h
  | cons x xs ih =>
    cases ys with
    | nil => simp [closed] at h
    | cons y ys =>
      have h' : x.toList ++ ',' :: closed xs = y.toList ++ ',' :: closed ys := by
        simpa [closed] using h
      obtain ⟨hxy, h'⟩ := append_comma_inj (hx x List.mem_cons_self) (hy y List.mem_cons_self) h'
      rw [String.toList_inj.1 hxy, ih (fun t ht => hx t (List.mem_cons_of_mem _ ht))
        (fun t ht => hy t (List.mem_cons_of_mem _ ht)) h']

/-- The texts that stand for the function: its name, or the two ends of its definition. -/
def calleeTexts (callee : Term) (closure : Location) : List String :=
  match callee with
  | .var name _ => [name]
  | _ => [closure.start.repr, closure.stop.repr]

theorem closed_calleeTexts_append (callee : Term) (l : Location) (texts : List String) :
    closed (calleeTexts callee l ++ texts) = (ofCallee callee l).toList ++ ',' :: closed texts := by
  cases callee <;> simp [closed, calleeTexts, ofCallee, delimiter]

/-- Putting arguments behind what stands before them succeeds if they all have a text. -/
theorem foldlM_eq_some_iff {values : List Value} {front key : String} :
    values.foldlM (fun text v => v.primitiveText?.map fun t => text ++ t ++ delimiter) front =
        some key ↔
      ∃ texts, values.map Value.primitiveText? = texts.map some ∧
        key.toList = front.toList ++ closed texts := by
  induction values generalizing front with
  | nil =>
    constructor
    · intro h
      cases h
      exact ⟨[], rfl, by simp [closed]⟩
    · rintro ⟨texts, ht, hk⟩
      obtain rfl : texts = [] := List.map_eq_nil_iff.1 ht.symm
      exact congrArg some (String.toList_inj.1 (by simpa [closed] using hk.symm))
  | cons v values ih =>
    rw [List.foldlM_cons]
    cases hv : v.primitiveText? with
    | none =>
      refine ⟨fun h => by simp at h, ?_⟩
      rintro ⟨texts, ht, -⟩
      cases texts with
      | nil => cases ht
      | cons t texts => simp [hv] at ht
    | some t =>
      refine ih.trans ⟨?_, ?_⟩
      · rintro ⟨texts, ht, hk⟩
        refine ⟨t :: texts, by simp [hv, ht], ?_⟩
        simpa [closed, delimiter] using hk
      · rintro ⟨texts, ht, hk⟩
        cases texts with
        | nil => cases ht
        | cons t' texts =>
          simp only [List.map_cons, hv, List.cons.injEq, Option.some.injEq] at ht
          obtain ⟨rfl, ht⟩ := ht
          exact ⟨texts, ht, by simpa [closed, delimiter] using hk⟩

end Signature

open Signature

/-- A signature is made of what stands for the function and of the texts of the arguments. -/
theorem signature?_eq_some_iff {callee : Term} {l : Location} {values : List Value}
    {key : String} : signature? callee l values = some key ↔
      ∃ texts, values.map Value.primitiveText? = texts.map some ∧
        key.toList = closed (calleeTexts callee l ++ texts) := by
  simp only [closed_calleeTexts_append]
  unfold signature?
  rw [foldlM_eq_some_iff]
  simp [delimiter]

/-- Only primitive values have a text in a signature. -/
theorem isPrimitive_of_signature? {callee : Term} {l : Location} {values : List Value}
    {key : String} (h : signature? callee l values = some key) :
    ∀ v ∈ values, v.isPrimitive = true := by
  obtain ⟨texts, htexts, -⟩ := signature?_eq_some_iff.1 h
  intro v hv
  have hmem : v.primitiveText? ∈ texts.map some := htexts ▸ List.mem_map_of_mem hv
  obtain ⟨text, -, htext⟩ := List.mem_map.1 hmem
  cases v with
  | int | str | bool => rfl
  | closure | tuple | nil => cases htext

/-- Primitive arguments are all that a signature asks for. -/
theorem exists_signature? {values : List Value} (h : ∀ v ∈ values, v.isPrimitive = true)
    (callee : Term) (l : Location) : ∃ key, signature? callee l values = some key := by
  have htexts : ∃ texts : List String, values.map Value.primitiveText? = texts.map some := by
    induction values with
    | nil => exact ⟨[], rfl⟩
    | cons v values ih =>
      obtain ⟨text, htext⟩ := Value.isPrimitive_iff.1 (h v List.mem_cons_self)
      obtain ⟨texts, htexts⟩ := ih fun w hw => h w (List.mem_cons_of_mem _ hw)
      exact ⟨text :: texts, by rw [List.map_cons, List.map_cons, htext, htexts]⟩
  obtain ⟨texts, htexts⟩ := htexts
  let key := String.ofList (closed (calleeTexts callee l ++ texts))
  exact ⟨key, signature?_eq_some_iff.2 ⟨texts, htexts, String.toList_ofList⟩⟩

namespace Value

/-- Integers and booleans. -/
def IsScalar : Value → Prop
  | int _ | bool _ => True
  | str _ | closure .. | tuple .. | nil => False

theorem comma_notMem_text {v : Value} (hv : ∀ s, v = .str s → ',' ∉ s.toList) {t : String}
    (ht : v.primitiveText? = some t) : ',' ∉ t.toList := by
  cases v with
  | int n =>
    cases ht
    intro h
    rcases isDigit_or_minus_of_mem_repr h with h | h <;> revert h <;> decide
  | bool b => cases ht; cases b <;> decide
  | str s =>
    obtain rfl : s = t := Option.some.inj ht
    exact hv s rfl
  | closure | tuple | nil => cases ht

theorem text_injective {v w : Value} (hv : v.IsScalar) (hw : w.IsScalar)
    (h : v.primitiveText? = w.primitiveText?) : v = w := by
  -- no integer is written with a letter, as the booleans are
  have mixed : ∀ (n : Int32) (b : Bool), n.toInt.repr ≠ if b then "true" else "false" := by
    intro n b h
    have he : 'e' ∈ n.toInt.repr.toList := by rw [h]; cases b <;> decide
    rcases isDigit_or_minus_of_mem_repr he with h | h <;> revert h <;> decide
  cases v with
  | int n =>
    cases w with
    | int m =>
      have := Int.repr_injective (Option.some.inj h)
      rw [Int32.toInt.inj this]
    | bool b => exact absurd (Option.some.inj h) (mixed n b)
    | str | closure | tuple | nil => exact hw.elim
  | bool b =>
    cases w with
    | int m => exact absurd (Option.some.inj h).symm (mixed m b)
    | bool c =>
      have hbc : (if b then "true" else "false") = if c then "true" else "false" :=
        Option.some.inj h
      have : b = c := by revert hbc; cases b <;> cases c <;> decide
      rw [this]
    | str | closure | tuple | nil => exact hw.elim
  | str | closure | tuple | nil => exact hv.elim

end Value

/-- Values that are told apart by `f` are told apart in lists. -/
theorem eq_of_map_eq {α : Type} {f : Value → α} {vs ws : List Value}
    (hf : ∀ v ∈ vs, ∀ w ∈ ws, f v = f w → v = w) (h : vs.map f = ws.map f) : vs = ws := by
  induction vs generalizing ws with
  | nil => exact (List.map_eq_nil_iff.1 h.symm).symm
  | cons v vs ih =>
    cases ws with
    | nil => cases h
    | cons w ws =>
      obtain ⟨hhead, htail⟩ := List.cons.inj h
      rw [hf v List.mem_cons_self w List.mem_cons_self hhead, ih (fun x hx y hy =>
        hf x (List.mem_cons_of_mem _ hx) y (List.mem_cons_of_mem _ hy)) htail]

/-- Arguments have no commas in their texts unless one of them is a text with a comma. -/
theorem comma_notMem_texts {vs : List Value} (hv : ∀ s, .str s ∈ vs → ',' ∉ s.toList)
    {texts : List String} (h : vs.map Value.primitiveText? = texts.map some) :
    ∀ t ∈ texts, ',' ∉ t.toList := by
  intro t ht
  have : some t ∈ vs.map Value.primitiveText? := h ▸ List.mem_map_of_mem ht
  obtain ⟨v, hvs, hvt⟩ := List.mem_map.1 this
  refine Value.comma_notMem_text ?_ hvt
  rintro s rfl
  exact hv s hvs

/-- Two calls by names without commas, on integers and booleans, share a signature only if they are
the same call. -/
theorem signature?_injective {f g key : String} {lf lg cf cg : Location} {vs ws : List Value}
    (hf : ',' ∉ f.toList) (hg : ',' ∉ g.toList) (hv : ∀ v ∈ vs, v.IsScalar)
    (hw : ∀ w ∈ ws, w.IsScalar) (h₁ : signature? (.var f lf) cf vs = some key)
    (h₂ : signature? (.var g lg) cg ws = some key) : f = g ∧ vs = ws := by
  obtain ⟨xs, hxs, hk⟩ := signature?_eq_some_iff.1 h₁
  obtain ⟨ys, hys, hk'⟩ := signature?_eq_some_iff.1 h₂
  have hx := comma_notMem_texts (fun _ hs => (hv _ hs).elim) hxs
  have hy := comma_notMem_texts (fun _ hs => (hw _ hs).elim) hys
  have htexts : f :: xs = g :: ys := closed_injective (List.forall_mem_cons.2 ⟨hf, hx⟩)
    (List.forall_mem_cons.2 ⟨hg, hy⟩) (hk.symm.trans hk')
  obtain ⟨rfl, rfl⟩ := List.cons.inj htexts
  exact ⟨rfl, eq_of_map_eq (fun v hv' w hw' => Value.text_injective (hv v hv') (hw w hw'))
    (hxs.trans hys.symm)⟩

end Treewalk
