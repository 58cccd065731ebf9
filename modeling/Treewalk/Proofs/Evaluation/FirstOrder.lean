import Treewalk.Proofs.Evaluation.Success
import Treewalk.Proofs.Operator.Outcome
import Treewalk.Proofs.Signature

/-!
# First-order programs

A first-order program defines functions by name and then has a main term (`Definition.chain`).
Functions stand nowhere else, calls are of defined functions only, and there are no texts and no
tuples (`Term.FirstOrder`). The body of a function names nothing but functions, its parameters and
what it binds itself, so although scoping is dynamic, a body cannot see where it is called from.

In a scope of such a program the names of functions keep their meaning, and all values are integers,
booleans, nil or defined functions (`Scope.Provides`).
-/

namespace Treewalk

/-- The definition of a function by name. -/
structure Definition where
  name : Parameter
  parameters : List Parameter
  body : Term
  /-- Where the function stands. -/
  place : Location
  /-- Where the binding of the name stands. -/
  location : Location

namespace Definition

def closure (d : Definition) : Value := .closure d.parameters d.body d.place

def names (defs : List Definition) : List String := defs.map (·.name.name)

/-- Definitions one after another, and then the term they are made for. -/
def chain : List Definition → Term → Term
  | [], main => main
  | d :: rest, main =>
    .letIn d.name (.function d.parameters d.body d.place) (chain rest main) d.location

end Definition

/-- A term with calls of the functions in `names` only, and no functions, tuples or texts in it. It
binds none of these names, and its variables are in `bound` or bound around them. -/
inductive Term.FirstOrder (names : List String) : (String → Prop) → Term → Prop
  | int {bound : String → Prop} {n : Int32} {l : Location} : FirstOrder names bound (.int n l)
  | bool {bound : String → Prop} {b : Bool} {l : Location} : FirstOrder names bound (.bool b l)
  | var {bound : String → Prop} {x : String} {l : Location} (hx : bound x) :
      FirstOrder names bound (.var x l)
  | call {bound : String → Prop} {f : String} {arguments : List Term} {l l' : Location}
      (hf : f ∈ names) (ha : ∀ a ∈ arguments, FirstOrder names bound a) :
      FirstOrder names bound (.call (.var f l) arguments l')
  | letIn {bound : String → Prop} {x : Parameter} {value next : Term} {l : Location}
      (hx : x.name ∉ names) (hvalue : FirstOrder names bound value)
      (hnext : FirstOrder names (fun y => y = x.name ∨ bound y) next) :
      FirstOrder names bound (.letIn x value next l)
  | cond {bound : String → Prop} {condition yes no : Term} {l : Location}
      (hcondition : FirstOrder names bound condition) (hyes : FirstOrder names bound yes)
      (hno : FirstOrder names bound no) : FirstOrder names bound (.cond condition yes no l)
  | binary {bound : String → Prop} {lhs rhs : Term} {op : Operator} {l : Location}
      (hlhs : FirstOrder names bound lhs) (hrhs : FirstOrder names bound rhs) :
      FirstOrder names bound (.binary lhs op rhs l)
  | print {bound : String → Prop} {operand : Term} {l : Location}
      (hoperand : FirstOrder names bound operand) : FirstOrder names bound (.print operand l)
  | first {bound : String → Prop} {operand : Term} {l : Location}
      (hoperand : FirstOrder names bound operand) : FirstOrder names bound (.first operand l)
  | second {bound : String → Prop} {operand : Term} {l : Location}
      (hoperand : FirstOrder names bound operand) : FirstOrder names bound (.second operand l)

open Definition

/-- Functions have names of their own, without commas, which nothing else binds. Their bodies are
first-order and closed but for parameters and functions. -/
structure FirstOrderLibrary (defs : List Definition) : Prop where
  distinct : (names defs).Nodup
  no_comma : ∀ f ∈ names defs, ',' ∉ f.toList
  parameters : ∀ d ∈ defs, ∀ p ∈ d.parameters, p.name ∉ names defs
  bodies : ∀ d ∈ defs, Term.FirstOrder (names defs)
    (fun x => x ∈ names defs ∨ x ∈ d.parameters.map (·.name)) d.body

/-- Both branches of a condition are first-order, so the one that is taken is. -/
theorem Term.FirstOrder.branch {names : List String} {bound : String → Prop} {yes no : Term}
    (hyes : yes.FirstOrder names bound) (hno : no.FirstOrder names bound) (b : Bool) :
    (if b then yes else no).FirstOrder names bound := by
  cases b with
  | true => exact hyes
  | false => exact hno

/-- A program that is made of definitions and a first-order term, in which any variables may
stand. -/
def Program.FirstOrder (p : Program) : Prop :=
  ∃ defs main, p.expression = chain defs main ∧ FirstOrderLibrary defs ∧
    Term.FirstOrder (names defs) (fun _ => True) main

/-! ## Values and scopes -/

/-- An integer, a boolean, nil, or a defined function. -/
def Value.IsPlain (defs : List Definition) (v : Value) : Prop :=
  v.IsScalar ∨ v = .nil ∨ ∃ d ∈ defs, v = d.closure

/-- A scope in which functions are bound to their names. -/
def Scope.Defines (defs : List Definition) (s : Scope) : Prop :=
  ∀ d ∈ defs, s.lookup? d.name.name = some d.closure

/-- A scope of plain values. -/
def Scope.IsPlain (defs : List Definition) (s : Scope) : Prop :=
  ∀ x v, s.lookup? x = some v → Value.IsPlain defs v

/-- A scope in which functions are bound to their names and everything else is plain. -/
structure Scope.Provides (defs : List Definition) (s : Scope) : Prop where
  defines : s.Defines defs
  plain : s.IsPlain defs

/-- Two scopes have the same bindings of the names in `bound`. -/
def Scope.Agree (bound : String → Prop) (s s' : Scope) : Prop :=
  ∀ x, bound x → s.lookup? x = s'.lookup? x

namespace Value.IsPlain

variable {defs : List Definition} {v : Value}

theorem ne_tuple (h : v.IsPlain defs) (a b : Term) (l : Location) : v ≠ .tuple a b l := by
  rintro rfl
  obtain h | h | ⟨d, -, h⟩ := h
  · exact h
  · cases h
  · cases h

theorem isScalar_of_text (h : v.IsPlain defs) {t : String} (ht : v.primitiveText? = some t) :
    v.IsScalar := by
  obtain h | rfl | ⟨d, -, rfl⟩ := h
  · exact h
  · cases ht
  · cases ht

/-- Plain values with a signature are integers and booleans. -/
theorem isScalar_of_signature {vs : List Value} (hvs : ∀ v ∈ vs, v.IsPlain defs) {callee : Term}
    {l : Location} {key : String} (h : signature? callee l vs = some key) :
    ∀ v ∈ vs, v.IsScalar := by
  intro v hv
  obtain ⟨texts, ht, -⟩ := signature?_eq_some_iff.1 h
  have hmem : v.primitiveText? ∈ texts.map some := ht ▸ List.mem_map_of_mem hv
  obtain ⟨t, -, htext⟩ := List.mem_map.1 hmem
  exact (hvs v hv).isScalar_of_text htext.symm

theorem exists_of_closure {parameters : List Parameter} {body : Term} {l : Location}
    (h : (Value.closure parameters body l).IsPlain defs) :
    ∃ d ∈ defs, parameters = d.parameters ∧ body = d.body ∧ l = d.place := by
  obtain h | h | ⟨d, hd, h⟩ := h
  · exact h.elim
  · cases h
  · cases h
    exact ⟨d, hd, rfl, rfl, rfl⟩

/-- Operators lead from plain values to plain values, since none of them is a text. -/
theorem apply {l r : Value} (hl : l.IsPlain defs) (hr : r.IsPlain defs) {op : Operator}
    (h : op.apply l r = .ok v) : v.IsPlain defs := by
  have no_text : ∀ {w : Value}, w.IsPlain defs → ¬ w.asStr?.isSome := by
    rintro w (hw | rfl | ⟨d, -, rfl⟩)
    · cases w <;> simp_all [Value.IsScalar, Value.asStr?]
    · simp [Value.asStr?]
    · simp [Value.asStr?, Definition.closure]
  obtain ⟨n, rfl⟩ | ⟨b, rfl⟩ | ⟨-, h | h⟩ := Operator.apply_eq_ok h
  · exact .inl trivial
  · exact .inl trivial
  · exact absurd h (no_text hl)
  · exact absurd h (no_text hr)

end Value.IsPlain

namespace Scope

variable {defs : List Definition} {s s' : Scope}

theorem Defines.bind (h : s.Defines defs) {x : String} (hx : x ∉ names defs) (v : Value) :
    (s.bind x v).Defines defs := by
  intro d hd
  have hne : x ≠ d.name.name := fun e => hx (e ▸ List.mem_map_of_mem hd)
  rw [lookup?_bind_of_ne s hne]
  exact h d hd

theorem Defines.bindAll (h : s.Defines defs) {parameters : List Parameter}
    (hp : ∀ p ∈ parameters, p.name ∉ names defs) (values : List Value) :
    (s.bindAll parameters values).Defines defs := by
  induction parameters generalizing s values with
  | nil => exact h
  | cons p parameters ih =>
    cases values with
    | nil => exact h
    | cons v values =>
      exact ih (h.bind (hp p List.mem_cons_self) v) (fun q hq => hp q (List.mem_cons_of_mem _ hq))
        values

/-- All scopes of a program agree on its functions. -/
theorem Defines.agree (h : s.Defines defs) (h' : s'.Defines defs) :
    s.Agree (· ∈ names defs) s' := by
  intro x hx
  obtain ⟨d, hd, rfl⟩ := List.mem_map.1 hx
  exact (h d hd).trans (h' d hd).symm

theorem IsPlain.bind (h : s.IsPlain defs) (x : String) {v : Value} (hv : v.IsPlain defs) :
    (s.bind x v).IsPlain defs := by
  intro y w hw
  rw [lookup?_bind] at hw
  split at hw
  · cases hw
    exact hv
  · exact h y w hw

theorem Provides.bind (h : s.Provides defs) {x : String} (hx : x ∉ names defs) {v : Value}
    (hv : v.IsPlain defs) : (s.bind x v).Provides defs :=
  ⟨h.defines.bind hx v, h.plain.bind x hv⟩

theorem Provides.bindAll (h : s.Provides defs) {parameters : List Parameter}
    (hp : ∀ p ∈ parameters, p.name ∉ names defs) {values : List Value}
    (hv : ∀ v ∈ values, v.IsPlain defs) : (s.bindAll parameters values).Provides defs := by
  induction parameters generalizing s values with
  | nil => exact h
  | cons p parameters ih =>
    cases values with
    | nil => exact h
    | cons v values =>
      exact ih (h.bind (hp p List.mem_cons_self) (hv v List.mem_cons_self))
        (fun q hq => hp q (List.mem_cons_of_mem _ hq))
        fun w hw => hv w (List.mem_cons_of_mem _ hw)

theorem Agree.bind {bound : String → Prop} (h : s.Agree bound s') (x : String) (v : Value) :
    (s.bind x v).Agree (fun y => y = x ∨ bound y) (s'.bind x v) := by
  intro y hy
  rw [lookup?_bind, lookup?_bind]
  split
  · rfl
  · next hne => exact h y (hy.resolve_left fun e => hne e.symm)

theorem Agree.mono {bound bound' : String → Prop} (h : s.Agree bound s')
    (hb : ∀ x, bound' x → bound x) : s.Agree bound' s' := fun x hx => h x (hb x hx)

/-- Once parameters are bound to the same values, scopes agree on them as well. -/
theorem Agree.bindAll {bound : String → Prop} (h : s.Agree bound s') {parameters : List Parameter}
    {values : List Value} (hlen : parameters.length = values.length) :
    (s.bindAll parameters values).Agree (fun x => bound x ∨ x ∈ parameters.map (·.name))
      (s'.bindAll parameters values) := by
  induction parameters generalizing s s' values bound with
  | nil => exact h.mono fun x hx => hx.resolve_right (by simp)
  | cons p parameters ih =>
    cases values with
    | nil => cases hlen
    | cons v values =>
      refine (ih (h.bind p.name v) (Nat.succ.inj hlen)).mono fun x hx => ?_
      simp only [List.map_cons, List.mem_cons] at hx
      rcases hx with hx | hx | hx
      · exact .inl (.inr hx)
      · exact .inl (.inl hx)
      · exact .inr hx

end Scope

end Treewalk
