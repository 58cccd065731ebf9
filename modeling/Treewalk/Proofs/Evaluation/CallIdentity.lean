import Mathlib
import Treewalk.Proofs.Evaluation.Exec
import Treewalk.Proofs.Signature
import Treewalk.Proofs.Subterm

/-!
# What a signature identifies

Two calls share a signature exactly if the same texts stand for their functions and for their
arguments, as long as no name and no text has a comma (`signature?_identifies`). The text of an
argument is the one that is printed for it, so a signature does not tell the kinds of arguments
apart. Among arguments of the same kinds it tells everything.
-/

namespace Treewalk

/-! ## Texts of arguments -/

namespace Value

/-- Whatever the evaluator and the session, `text` is what is printed for the value. -/
def Renders (v : Value) (text : String) : Prop :=
  ∀ (options : EvalOptions) (levels : Nat) (s : Session),
    Walk.answerWithin (Evaluator.body options) (levels + 1) (.render v "" s) = some (.ok text, s)

/-- The same is printed for the two values. -/
def RendersAs (v w : Value) : Prop := ∃ text, v.Renders text ∧ w.Renders text

/-- The text in a signature is the one that is printed. -/
theorem renders_iff {v : Value} {t text : String} (h : v.primitiveText? = some t) :
    v.Renders text ↔ t = text := by
  have hv : ∀ a b l, v ≠ .tuple a b l := by
    rintro a b l rfl
    cases h
  have ht : v.leafText = t := by
    cases v with
    | int | str | bool => exact Option.some.inj h
    | closure | tuple | nil => cases h
  constructor
  · intro hr
    have hrender := (Evaluator.answer_render_leaf hv "").symm.trans (hr .default 0 default)
    simpa [ht] using hrender
  · rintro rfl options levels s
    rw [Evaluator.answer_render_leaf hv, String.empty_append, ht]

/-- A primitive value is known by its kind and its text. -/
theorem eq_of_kind_eq {v w : Value} (hprimitive : v.isPrimitive = true) (hkind : v.kind = w.kind)
    (htext : v.primitiveText? = w.primitiveText?) : v = w := by
  cases v with
  | int n =>
    cases w with
    | int m => exact text_injective trivial trivial htext
    | _ => cases hkind
  | bool b =>
    cases w with
    | bool c => exact text_injective trivial trivial htext
    | _ => cases hkind
  | str s =>
    cases w with
    | str t => exact congrArg str (Option.some.inj htext)
    | _ => cases hkind
  | closure | tuple | nil => cases hprimitive

theorem isPrimitive_iff_kind {v : Value} :
    v.isPrimitive = true ↔ v.kind = .int ∨ v.kind = .str ∨ v.kind = .bool := by
  cases v <;> simp [isPrimitive, kind]

end Value

/-- Arguments have the same texts exactly if the same is printed for each and its counterpart. -/
theorem texts_eq_iff {vs ws : List Value} {xs ys : List String}
    (hxs : vs.map Value.primitiveText? = xs.map some)
    (hys : ws.map Value.primitiveText? = ys.map some) :
    xs = ys ↔ List.Forall₂ Value.RendersAs vs ws := by
  induction vs generalizing ws xs ys with
  | nil =>
    obtain rfl : xs = [] := List.map_eq_nil_iff.1 hxs.symm
    rw [List.forall₂_nil_left_iff]
    cases ws with
    | nil => simp [List.map_eq_nil_iff.1 hys.symm]
    | cons w ws => cases ys <;> simp_all
  | cons v vs ih =>
    cases xs with
    | nil => cases hxs
    | cons x xs =>
      obtain ⟨hx, hxs⟩ := List.cons.inj hxs
      cases ws with
      | nil => simp [List.map_eq_nil_iff.1 hys.symm]
      | cons w ws =>
        cases ys with
        | nil => cases hys
        | cons y ys =>
          obtain ⟨hy, hys⟩ := List.cons.inj hys
          have hhead : v.RendersAs w ↔ x = y := by
            simp only [Value.RendersAs, Value.renders_iff hx, Value.renders_iff hy,
              exists_eq_left', eq_comm]
          rw [List.cons.injEq, List.forall₂_cons, hhead, ih hxs hys]

/-! ## Texts of functions -/

namespace Signature

/-- The two calls are of the same function, as far as a signature says: they use the same name or,
where the function is not given by a name, its definition has the same start and stop. -/
def SameFunction (callee : Term) (closure : Location) (callee' : Term) (closure' : Location) :
    Prop :=
  match callee, callee' with
  | .var f _, .var g _ => f = g
  | _, _ => closure.start = closure'.start ∧ closure.stop = closure'.stop

/-- No name and no text of the call has a comma. -/
structure CommaFree (callee : Term) (arguments : List Value) : Prop where
  name (f : String) (l : Location) : callee = .var f l → ',' ∉ f.toList
  text (s : String) : .str s ∈ arguments → ',' ∉ s.toList

theorem comma_notMem_repr (n : Nat) : ',' ∉ n.repr.toList := by
  intro h
  have hint : ',' ∈ (Int.repr n).toList := h
  rcases isDigit_or_minus_of_mem_repr hint with h | h <;> revert h <;> decide

theorem calleeTexts_of_kind_ne {callee : Term} (h : callee.kind ≠ .var) (closure : Location) :
    calleeTexts callee closure = [closure.start.repr, closure.stop.repr] := by
  cases callee with
  | var => exact absurd rfl h
  | _ => rfl

theorem CommaFree.comma_notMem_calleeTexts {callee : Term} {arguments : List Value}
    (h : CommaFree callee arguments) (closure : Location) :
    ∀ t ∈ calleeTexts callee closure, ',' ∉ t.toList := by
  by_cases hvar : callee.kind = .var
  · obtain ⟨f, l, rfl⟩ := Term.exists_var_of_kind hvar
    exact List.forall_mem_singleton.2 (h.name f l rfl)
  · rw [calleeTexts_of_kind_ne hvar]
    exact List.forall_mem_cons.2
      ⟨comma_notMem_repr _, List.forall_mem_singleton.2 (comma_notMem_repr _)⟩

/-- Where both functions are given by a name, or neither, as many texts stand for each. They are the
same texts if it is the same function. -/
theorem calleeTexts_eq_iff {callee callee' : Term}
    (hcallees : callee.kind = .var ↔ callee'.kind = .var) (closure closure' : Location) :
    (calleeTexts callee closure).length = (calleeTexts callee' closure').length ∧
      (calleeTexts callee closure = calleeTexts callee' closure' ↔
        SameFunction callee closure callee' closure') := by
  by_cases hvar : callee.kind = .var
  · obtain ⟨f, l, rfl⟩ := Term.exists_var_of_kind hvar
    obtain ⟨g, l', rfl⟩ := Term.exists_var_of_kind (hcallees.1 hvar)
    simp [calleeTexts, SameFunction]
  · have hvar' : callee'.kind ≠ .var := fun h => hvar (hcallees.2 h)
    have hsame : SameFunction callee closure callee' closure' ↔
        closure.start = closure'.start ∧ closure.stop = closure'.stop := by
      cases callee with
      | var => exact absurd rfl hvar
      | _ => exact Iff.rfl
    rw [calleeTexts_of_kind_ne hvar, calleeTexts_of_kind_ne hvar', hsame]
    simp [Nat.repr_inj]

/-- Texts without commas are told apart after they are put together, those of the functions from
those of the arguments too. -/
theorem key_eq_iff {callee callee' : Term} {vs ws : List Value} {closure closure' : Location}
    (hcallees : callee.kind = .var ↔ callee'.kind = .var) (hcall : CommaFree callee vs)
    (hcall' : CommaFree callee' ws) {xs ys : List String} {key key' : String}
    (hxs : vs.map Value.primitiveText? = xs.map some)
    (hys : ws.map Value.primitiveText? = ys.map some)
    (hkey : key.toList = closed (calleeTexts callee closure ++ xs))
    (hkey' : key'.toList = closed (calleeTexts callee' closure' ++ ys)) :
    key = key' ↔ SameFunction callee closure callee' closure' ∧ xs = ys := by
  obtain ⟨hlength, hfunction⟩ := calleeTexts_eq_iff hcallees closure closure'
  have hcommas : ∀ t ∈ calleeTexts callee closure ++ xs, ',' ∉ t.toList := List.forall_mem_append.2
    ⟨hcall.comma_notMem_calleeTexts closure, comma_notMem_texts hcall.text hxs⟩
  have hcommas' : ∀ t ∈ calleeTexts callee' closure' ++ ys, ',' ∉ t.toList :=
    List.forall_mem_append.2
      ⟨hcall'.comma_notMem_calleeTexts closure', comma_notMem_texts hcall'.text hys⟩
  rw [← hfunction, ← String.toList_inj, hkey, hkey']
  constructor
  · intro h
    exact List.append_inj (closed_injective hcommas hcommas' h) hlength
  · rintro ⟨hcallee, rfl⟩
    rw [hcallee]

end Signature

open Signature

/-- What a signature identifies. A call has one exactly if its arguments are integers, texts and
booleans. Let two calls both give the function by a name, or neither, and let no name and no text in
them have a comma. Then their signatures are equal exactly if they are of the same function and the
same is printed for each argument of one and the corresponding argument of the other. So if the
arguments are of the same kinds as well, they are the same. An integer and the text that is printed
for it cannot be told apart. -/
theorem signature?_identifies {callee callee' : Term} {vs ws : List Value}
    (hcallees : callee.kind = .var ↔ callee'.kind = .var) (hcall : CommaFree callee vs)
    (hcall' : CommaFree callee' ws) (closure closure' : Location) :
    ((∃ key, signature? callee closure vs = some key) ↔
      ∀ v ∈ vs, v.kind = .int ∨ v.kind = .str ∨ v.kind = .bool) ∧
    (∀ key key', signature? callee closure vs = some key →
      signature? callee' closure' ws = some key' →
      (key = key' ↔ SameFunction callee closure callee' closure' ∧
        List.Forall₂ Value.RendersAs vs ws) ∧
      (key = key' → vs.map Value.kind = ws.map Value.kind → vs = ws)) ∧
    ∀ n : Int32, ∃ key, signature? callee closure [.int n] = some key ∧
      signature? callee closure [.str n.toInt.repr] = some key := by
  refine ⟨?_, ?_, ?_⟩
  · simp only [← Value.isPrimitive_iff_kind]
    constructor
    · rintro ⟨key, hkey⟩
      exact isPrimitive_of_signature? hkey
    · intro h
      exact exists_signature? h callee closure
  · intro key key' hkey hkey'
    have hprimitive := isPrimitive_of_signature? hkey
    obtain ⟨xs, hxs, hk⟩ := signature?_eq_some_iff.1 hkey
    obtain ⟨ys, hys, hk'⟩ := signature?_eq_some_iff.1 hkey'
    have hiff := key_eq_iff hcallees hcall hcall' hxs hys hk hk'
    refine ⟨?_, ?_⟩
    · rw [hiff, texts_eq_iff hxs hys]
    · intro h hkinds
      obtain ⟨-, rfl⟩ := hiff.1 h
      have hboth : vs.map (fun v => (v.kind, v.primitiveText?)) =
          ws.map fun w => (w.kind, w.primitiveText?) := by
        rw [← List.zip_map', ← List.zip_map', hkinds, hxs, hys]
      refine eq_of_map_eq (fun v hv w _ h => ?_) hboth
      obtain ⟨hkind, htext⟩ := Prod.mk.inj h
      exact Value.eq_of_kind_eq (hprimitive v hv) hkind htext
  · intro n
    exact ⟨_, rfl, rfl⟩

/-- Two calls on an empty text and on what is printed as `-1`, of functions that are defined at the
same offsets of two files. -/
theorem signature?_identifies_offsets :
    CommaFree (.first (.var "t" default) default) [.str "", .int (-1)] ∧
      CommaFree (.function [] default default) [.str "", .str "-1"] ∧
      signature? (.first (.var "t" default) default) ⟨3, 14, "a"⟩ [.str "", .int (-1)] =
        some "3,14,,-1," ∧
      signature? (.function [] default default) ⟨3, 14, "b"⟩ [.str "", .str "-1"] =
        some "3,14,,-1," ∧
      List.Forall₂ Value.RendersAs [.str "", .int (-1)] [.str "", .str "-1"] := by
  have hcall : CommaFree (.first (.var "t" default) default) [.str "", .int (-1)] := by
    refine ⟨fun f l h => (by cases h), ?_⟩
    intro s hs
    obtain rfl : s = "" := by simpa using hs
    decide
  have hcall' : CommaFree (.function [] default default) [.str "", .str "-1"] := by
    refine ⟨fun f l h => (by cases h), ?_⟩
    intro s hs
    obtain rfl | rfl : s = "" ∨ s = "-1" := by simpa using hs
    · decide
    · decide
  have hkey : signature? (.first (.var "t" default) default) ⟨3, 14, "a"⟩ [.str "", .int (-1)] =
      some "3,14,,-1," := by decide
  have hkey' : signature? (.function [] default default) ⟨3, 14, "b"⟩ [.str "", .str "-1"] =
      some "3,14,,-1," := by decide
  obtain ⟨-, hkeys, -⟩ := signature?_identifies (by decide) hcall hcall' ⟨3, 14, "a"⟩ ⟨3, 14, "b"⟩
  exact ⟨hcall, hcall', hkey, hkey', ((hkeys _ _ hkey hkey').1.1 rfl).2⟩

end Treewalk
