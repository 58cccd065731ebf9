import Mathlib.Data.List.Forall2
import Treewalk.Proofs.Operator.Outcome
import Treewalk.Proofs.Subterm
import Treewalk.Session

/-!
# Terms, values and scopes that are alike

Two terms match if they are of one kind and have the same names, constants and operators, and if
their parts are related (`Term.Matches`). Locations are left open. A relation `T` of terms makes
values alike, scopes and failures: closures and tuples are alike if the terms they were made from
are related, and a failure is like another one if it has the same cause and stands at a related
term. Where `T` is equality, likeness is equality as well.

Values that are alike cannot be told apart by operators (`Operator.apply_eq_of_like`), nor by
signatures (`signature?_eq_of_like`).
-/

namespace Treewalk

variable {T : Term → Term → Prop}

/-- Terms of one kind with the same names, constants and operators, and with parts related by `T`.
Their locations may be any. -/
inductive Term.Matches (T : Term → Term → Prop) : Term → Term → Prop
  | int (n : Int32) (l l' : Location) : Matches T (.int n l) (.int n l')
  | str (s : String) (l l' : Location) : Matches T (.str s l) (.str s l')
  | bool (b : Bool) (l l' : Location) : Matches T (.bool b l) (.bool b l')
  | var (x : String) (l l' : Location) : Matches T (.var x l) (.var x l')
  | function {ps ps' : List Parameter} {t t' : Term} (l l' : Location)
      (hnames : ps.map (·.name) = ps'.map (·.name)) (hbody : T t t') :
      Matches T (.function ps t l) (.function ps' t' l')
  | call {c c' : Term} {as as' : List Term} (l l' : Location) (hcallee : T c c')
      (harguments : List.Forall₂ T as as') : Matches T (.call c as l) (.call c' as' l')
  | letIn {x x' : Parameter} {t t' u u' : Term} (l l' : Location) (hname : x.name = x'.name)
      (hvalue : T t t') (hnext : T u u') : Matches T (.letIn x t u l) (.letIn x' t' u' l')
  | cond {t t' u u' w w' : Term} (l l' : Location) (hcondition : T t t') (hyes : T u u')
      (hno : T w w') : Matches T (.cond t u w l) (.cond t' u' w' l')
  | binary {t t' u u' : Term} (op : Operator) (l l' : Location) (hlhs : T t t') (hrhs : T u u') :
      Matches T (.binary t op u l) (.binary t' op u' l')
  | tuple {t t' u u' : Term} (l l' : Location) (hfirst : T t t') (hsecond : T u u') :
      Matches T (.tuple t u l) (.tuple t' u' l')
  | print {t t' : Term} (l l' : Location) (h : T t t') : Matches T (.print t l) (.print t' l')
  | first {t t' : Term} (l l' : Location) (h : T t t') : Matches T (.first t l) (.first t' l')
  | second {t t' : Term} (l l' : Location) (h : T t t') : Matches T (.second t l) (.second t' l')

theorem Term.matches_self (t : Term) : t.Matches Eq t := by
  cases t with
  | call callee arguments l => exact .call l l rfl (List.forall₂_eq_eq_eq ▸ rfl)
  | _ => constructor <;> rfl

/-! ## Values -/

/-- Primitive values are alike if they are equal, closures and tuples if the functions and tuples
they were made from are related. -/
inductive Value.Like (T : Term → Term → Prop) : Value → Value → Prop
  | int (n : Int32) : Like T (.int n) (.int n)
  | str (s : String) : Like T (.str s) (.str s)
  | bool (b : Bool) : Like T (.bool b) (.bool b)
  | closure {ps ps' : List Parameter} {t t' : Term} {l l' : Location}
      (h : T (.function ps t l) (.function ps' t' l')) :
      Like T (.closure ps t l) (.closure ps' t' l')
  | tuple {t t' u u' : Term} {l l' : Location} (h : T (.tuple t u l) (.tuple t' u' l')) :
      Like T (.tuple t u l) (.tuple t' u' l')
  | nil : Like T .nil .nil

namespace Value.Like

variable {v w : Value}

theorem refl (hT : ∀ t, T t t) (v : Value) : v.Like T v := by
  cases v with
  | closure => exact .closure (hT _)
  | tuple => exact .tuple (hT _)
  | _ => constructor

theorem eq (h : v.Like Eq w) : v = w := by
  cases h with
  | closure h => cases h; rfl
  | tuple h => cases h; rfl
  | _ => rfl

theorem primitiveText?_eq (h : v.Like T w) : v.primitiveText? = w.primitiveText? := by
  cases h <;> rfl

end Value.Like

namespace Operator

variable {a a' b b' : Value}

/-- An operator looks at primitive values, and at nothing but the kind of other ones. -/
theorem apply_eq_of_like (op : Operator) (ha : a.Like T a') (hb : b.Like T b') :
    op.apply a b = op.apply a' b' := by
  cases ha <;> cases hb <;> cases op <;> rfl

/-- What an operator makes holds no term, so it is like itself. -/
theorem like_self_of_apply {op : Operator} {v : Value} (h : op.apply a b = .ok v) : v.Like T v := by
  obtain ⟨n, rfl⟩ | ⟨b, rfl⟩ | ⟨⟨s, rfl⟩, -⟩ := apply_eq_ok h
  · exact .int n
  · exact .bool b
  · exact .str s

end Operator

/-- A signature shows of the arguments nothing but their texts. -/
theorem signature?_eq_of_like {c c' : Term} {l l' : Location} {vs vs' : List Value}
    (hcallee : Signature.ofCallee c l = Signature.ofCallee c' l')
    (hvs : List.Forall₂ (Value.Like T) vs vs') : signature? c l vs = signature? c' l' vs' := by
  unfold signature?
  rw [hcallee]
  generalize Signature.ofCallee c' l' ++ Signature.delimiter = front
  induction hvs generalizing front with
  | nil => rfl
  | @cons v v' vs vs' hv _ ih =>
    rw [List.foldlM_cons, List.foldlM_cons, hv.primitiveText?_eq]
    cases v'.primitiveText? with
    | none => rfl
    | some t => exact ih _

/-! ## Scopes and failures -/

/-- Scopes in which the same names are bound, to values that are alike. -/
def Scope.Like (T : Term → Term → Prop) (s s' : Scope) : Prop :=
  ∀ x, Option.Rel (Value.Like T) (s.lookup? x) (s'.lookup? x)

namespace Scope

variable {s s' : Scope}

theorem Like.refl (hT : ∀ t, T t t) (s : Scope) : s.Like T s := by
  intro x
  cases s.lookup? x with
  | none => exact .none
  | some v => exact .some (.refl hT v)

theorem like_empty : (∅ : Scope).Like T ∅ := by
  intro x
  rw [lookup?_empty]
  exact .none

theorem Like.bind (h : s.Like T s') (x : String) {v v' : Value} (hv : v.Like T v') :
    (s.bind x v).Like T (s'.bind x v') := by
  intro y
  rw [lookup?_bind, lookup?_bind]
  by_cases hxy : x = y
  · rw [if_pos hxy, if_pos hxy]
    exact .some hv
  · rw [if_neg hxy, if_neg hxy]
    exact h y

end Scope

/-- The causes are the same, and the failures stand at related terms. -/
structure Failure.Like (T : Term → Term → Prop) (f g : Failure) : Prop where
  cause_eq : f.cause = g.cause
  place : ∃ t u, T t u ∧ t.location = f.location ∧ u.location = g.location

theorem Failure.Like.eq {f g : Failure} (h : f.Like Eq g) : f = g := by
  obtain ⟨cause, l⟩ := f
  obtain ⟨cause', l'⟩ := g
  obtain ⟨rfl, t, u, rfl, rfl, rfl⟩ := h
  rfl

end Treewalk
