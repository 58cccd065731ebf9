import Mathlib
import Treewalk.Proofs.Evaluation.Invariant

/-!
# Scope safety

Scoping is dynamic, so where a function or a tuple was written says nothing about the scope its
terms are evaluated in. What can be relied on are names that are bound everywhere, the `globals`. A
body may use these and its own parameters, and a component of a tuple may use these alone. A term at
hand may use whatever is bound around it. This is `Term.WellScoped`.

Evaluation of a well-scoped term in a session that holds nothing but well-scoped values never comes
upon an undefined variable, and the session is as good as before (`Session.wellScoped_of_answer`).
-/

namespace Treewalk

/-- Every variable is in `bound` or bound by a `let` around it. In the body of a function it is a
global or a parameter or bound there, and in a component of a tuple a global or bound there. -/
inductive Term.WellScoped (globals : String → Prop) : (String → Prop) → Term → Prop
  | int {bound : String → Prop} {n : Int32} {l : Location} : WellScoped globals bound (.int n l)
  | str {bound : String → Prop} {s : String} {l : Location} : WellScoped globals bound (.str s l)
  | bool {bound : String → Prop} {b : Bool} {l : Location} : WellScoped globals bound (.bool b l)
  | var {bound : String → Prop} {x : String} {l : Location} (hx : bound x) :
      WellScoped globals bound (.var x l)
  | function {bound : String → Prop} {parameters : List Parameter} {body : Term} {l : Location}
      (hbody : WellScoped globals (fun x => globals x ∨ x ∈ parameters.map (·.name)) body) :
      WellScoped globals bound (.function parameters body l)
  | call {bound : String → Prop} {callee : Term} {arguments : List Term} {l : Location}
      (hcallee : WellScoped globals bound callee)
      (harguments : ∀ a ∈ arguments, WellScoped globals bound a) :
      WellScoped globals bound (.call callee arguments l)
  | letIn {bound : String → Prop} {x : Parameter} {value next : Term} {l : Location}
      (hvalue : WellScoped globals bound value)
      (hnext : WellScoped globals (fun y => x.name = y ∨ bound y) next) :
      WellScoped globals bound (.letIn x value next l)
  | cond {bound : String → Prop} {condition yes no : Term} {l : Location}
      (hcondition : WellScoped globals bound condition) (hyes : WellScoped globals bound yes)
      (hno : WellScoped globals bound no) : WellScoped globals bound (.cond condition yes no l)
  | binary {bound : String → Prop} {lhs rhs : Term} {op : Operator} {l : Location}
      (hlhs : WellScoped globals bound lhs) (hrhs : WellScoped globals bound rhs) :
      WellScoped globals bound (.binary lhs op rhs l)
  | tuple {bound : String → Prop} {a b : Term} {l : Location} (ha : WellScoped globals globals a)
      (hb : WellScoped globals globals b) : WellScoped globals bound (.tuple a b l)
  | print {bound : String → Prop} {operand : Term} {l : Location}
      (hoperand : WellScoped globals bound operand) : WellScoped globals bound (.print operand l)
  | first {bound : String → Prop} {operand : Term} {l : Location}
      (hoperand : WellScoped globals bound operand) : WellScoped globals bound (.first operand l)
  | second {bound : String → Prop} {operand : Term} {l : Location}
      (hoperand : WellScoped globals bound operand) : WellScoped globals bound (.second operand l)

/-- Functions and tuples that became values are well-scoped. -/
def Value.WellScoped (globals : String → Prop) : Value → Prop
  | closure parameters body _ =>
      body.WellScoped globals fun x => globals x ∨ x ∈ parameters.map (·.name)
  | tuple a b _ => a.WellScoped globals globals ∧ b.WellScoped globals globals
  | int _ | str _ | bool _ | nil => True

/-- Globals are bound, and values of the scope and of the cache are well-scoped. -/
structure Session.WellScoped (globals : String → Prop) (s : Session) : Prop where
  binds : ∀ x, globals x → s.scope.Binds x
  holds : s.Holds (Value.WellScoped globals)

variable {globals : String → Prop}

namespace Term.WellScoped

variable {bound bound' : String → Prop} {t u : Term}

/-- Where more names are bound, a term is still well-scoped. -/
theorem mono (h : t.WellScoped globals bound) (hb : ∀ x, bound x → bound' x) :
    t.WellScoped globals bound' := by
  induction h generalizing bound' with
  | int => exact .int
  | str => exact .str
  | bool => exact .bool
  | var hx => exact .var (hb _ hx)
  | function hbody => exact .function hbody
  | call _ _ ihcallee iharguments =>
    exact .call (ihcallee hb) fun a ha => iharguments a ha hb
  | letIn _ _ ihvalue ihnext =>
    exact .letIn (ihvalue hb) (ihnext fun y hy => hy.imp_right (hb y))
  | cond _ _ _ ihcondition ihyes ihno => exact .cond (ihcondition hb) (ihyes hb) (ihno hb)
  | binary _ _ ihlhs ihrhs => exact .binary (ihlhs hb) (ihrhs hb)
  | tuple ha hb' => exact .tuple ha hb'
  | print _ ih => exact .print (ih hb)
  | first _ ih => exact .first (ih hb)
  | second _ ih => exact .second (ih hb)

/-- What is evaluated where a term stands is well-scoped there. -/
theorem part (h : t.WellScoped globals bound) (hk : t.kind.evaluatesParts = true)
    (hu : u ∈ t.parts) : u.WellScoped globals bound := by
  cases h with
  | int | str | bool | var | function | letIn | tuple => cases hk
  | call hcallee harguments =>
    rcases List.mem_cons.1 hu with rfl | hu
    · exact hcallee
    · exact harguments u hu
  | cond hcondition hyes hno =>
    simp only [Term.parts, List.mem_cons, List.not_mem_nil, or_false] at hu
    rcases hu with rfl | rfl | rfl
    · exact hcondition
    · exact hyes
    · exact hno
  | binary hlhs hrhs =>
    simp only [Term.parts, List.mem_cons, List.not_mem_nil, or_false] at hu
    rcases hu with rfl | rfl
    · exact hlhs
    · exact hrhs
  | print h | first h | second h => exact List.mem_singleton.1 hu ▸ h

end Term.WellScoped

namespace Evaluator

/-- Terms are well-scoped for a set of names that includes the globals, and all of these names stay
bound. There is no failure by an undefined variable. -/
def scoping (globals : String → Prop) :
    Invariant { bound : String → Prop // ∀ x, globals x → bound x } where
  term bound _ t := t.WellScoped globals bound.1
  value v := v.WellScoped globals
  written v := v.WellScoped globals
  session bound s := s.Holds (Value.WellScoped globals) ∧ ∀ x, bound.1 x → s.scope.Binds x
  failed bound f s := (∀ x, f.cause ≠ .undefinedVariable x) ∧
    s.Holds (Value.WellScoped globals) ∧ ∀ x, bound.1 x → s.scope.Binds x

theorem scoping_lawful (options : EvalOptions) (o : (job : Job) → Option job.Answer) :
    (scoping globals).Lawful options o where
  primitive {v} h := by
    cases v with
    | int | str | bool => trivial
    | closure | tuple | nil => cases h
  nil := trivial
  closure h := by cases h with | function hbody => exact hbody
  tuple h := by cases h with | tuple ha hb => exact ⟨ha, hb⟩
  part h _ hk hu := h.part hk hu
  component {i _ _ _ _ _} h hu _ := by
    rcases List.mem_cons.1 hu with rfl | hu
    · exact h.1.mono i.2
    · exact List.mem_singleton.1 hu ▸ h.2.mono i.2
  printed _ hv := hv
  written hv := hv
  nested _ hv := hv
  deeper hs _ := ⟨⟨hs.1.scope, hs.1.cache⟩, hs.2⟩
  shallower hs := ⟨⟨hs.1.scope, hs.1.cache⟩, hs.2⟩
  failed_shallower hs := ⟨hs.1, ⟨hs.2.1.scope, hs.2.1.cache⟩, hs.2.2⟩
  lookup hs hv := hs.1.scope _ _ hv
  fail ht hs hf := by
    refine ⟨fun x hx => ?_, hs⟩
    cases hf with
    | undefined hnone =>
      cases ht with
      | var hbound =>
        obtain ⟨v, hv⟩ := (hs.2 _ hbound).exists
        cases hnone.symm.trans hv
    | operator hop => cases hop <;> cases hx
    | _ => cases hx
  overflow _ hs _ := ⟨nofun, hs⟩
  letIn {i _ x _ _ _} h _ := by
    cases h with
    | letIn hvalue hnext =>
      -- from here on the new name may be relied on as well
      let j : { bound : String → Prop // ∀ y, globals y → bound y } :=
        ⟨fun y => x.name = y ∨ i.1 y, fun y hy => .inr (i.2 y hy)⟩
      refine ⟨hvalue, j, hnext, fun s v hs hv => ⟨hs.1.bind _ hv, fun y hy => ?_⟩, ?_, ?_⟩
      · exact Scope.binds_bind.2 (hy.imp_right (hs.2 y))
      · exact fun s hs => ⟨hs.1, fun y hy => hs.2 y (.inr hy)⟩
      · exact fun f s hs => ⟨hs.1, hs.2.1, fun y hy => hs.2.2 y (.inr hy)⟩
  line hs _ _ := ⟨⟨hs.1.scope, hs.1.cache⟩, hs.2⟩
  refused _ hs _ := ⟨fun _ => by simp, ⟨hs.1.scope, hs.1.cache⟩, hs.2⟩
  enter {i _ _ _ _ _ _ parameters _ _ _} _ hclosure hlen hvs hs₁ hs := by
    let j : { bound : String → Prop // ∀ y, globals y → bound y } :=
      ⟨fun y => globals y ∨ y ∈ parameters.map (·.name), fun _ => .inl⟩
    refine ⟨j, hclosure, ⟨⟨(hs₁.1.bindAll parameters hvs).scope, hs.1.cache⟩, fun y hy => ?_⟩,
      fun s' hs' => ⟨hs'.1.withScope hs.1, hs.2⟩,
      fun f s' hs' => ⟨hs'.1, hs'.2.1.withScope hs.1, hs.2⟩⟩
    exact (Scope.binds_bindAll hlen).2 (hy.imp_left fun hy => hs₁.2 y (i.2 y hy))
  ask _ hs := ⟨hs.1.ask _, hs.2⟩
  cached _ _ hs hv := hs.1.cache _ _ hv
  remember _ _ _ hv _ _ hs := ⟨hs.1.remember _ hv, hs.2⟩

end Evaluator

open Evaluator

/-- Scope safety. Evaluation of a well-scoped term in a well-scoped session does not fail with an
undefined variable. However it ends, the value is well-scoped, and so is the session, in which every
name that was bound before is still bound. -/
theorem Session.wellScoped_of_answer {s : Session} (hs : s.WellScoped globals) {t : Term}
    (ht : t.WellScoped globals s.scope.Binds) {options : EvalOptions} {levels : Nat}
    {r : Except Failure Value} {s' : Session}
    (h : Walk.answerWithin (body options) levels (.evaluate t s) = some (r, s')) :
    (∀ x l, r ≠ .error ⟨.undefinedVariable x, l⟩) ∧ (∀ v, r = .ok v → v.WellScoped globals) ∧
      s'.WellScoped globals ∧ ∀ x, s.scope.Binds x → s'.scope.Binds x := by
  have hkeeps : (scoping globals).Keeps (.evaluate t s) (r, s') :=
    Invariant.of_answer (fun _ o _ _ => scoping_lawful _ o) .start h
  have hissues := hkeeps ⟨s.scope.Binds, hs.binds⟩ ⟨ht, hs.holds, fun _ hx => hx⟩
  cases r with
  | ok v =>
    obtain ⟨hv, ⟨hholds, hbinds⟩, -⟩ := hissues
    have hs' : s'.WellScoped globals := ⟨fun x hx => hbinds x (hs.binds x hx), hholds⟩
    refine ⟨nofun, fun w hw => ?_, hs', hbinds⟩
    cases hw
    exact hv
  | error f =>
    obtain ⟨⟨hf, hholds, hbinds⟩, -⟩ := hissues
    have hs' : s'.WellScoped globals := ⟨fun x hx => hbinds x (hs.binds x hx), hholds⟩
    refine ⟨fun x l h => ?_, nofun, hs', hbinds⟩
    cases h
    exact hf x rfl

/-- A session in which `f` is bound to `fn (n) => let m = n; m + n`. -/
def Session.doubling : Session where
  scope :=
    let sum := Term.binary (.var "m" default) .add (.var "n" default) default
    (∅ : Scope).bind "f" (.closure [⟨"n", default⟩]
      (.letIn ⟨"m", default⟩ (.var "n" default) sum default) default)
  cache := ∅
  sink := .unlimited
  prints := 0
  depth := 0

/-- A call that is made late: `let p = (f(1), 2); first(p)`. -/
def Term.lateCall : Term :=
  let call := Term.call (.var "f" default) [.int 1 default] default
  let pair := Term.tuple call (.int 2 default) default
  .letIn ⟨"p", default⟩ pair (.first (.var "p" default) default) default

theorem Session.wellScoped_of_lateCall :
    Session.doubling.WellScoped (· = "f") ∧
    Term.lateCall.WellScoped (· = "f") Session.doubling.scope.Binds ∧
    ∃ s', Walk.answerWithin (body ⟨6, false⟩) 7 (.evaluate Term.lateCall Session.doubling) =
        some (.ok (.int 2), s') ∧
      s'.WellScoped (· = "f") ∧ ∀ x, Session.doubling.scope.Binds x → s'.scope.Binds x := by
  have hs : Session.doubling.WellScoped (· = "f") := by
    refine ⟨fun x hx => Scope.binds_bind.2 (.inl hx.symm), ⟨fun x v hv => ?_, by simp [doubling]⟩⟩
    rw [doubling, Scope.lookup?_bind] at hv
    split at hv
    · cases hv
      exact .letIn (.var (by simp)) (.binary (.var (by simp)) (.var (by simp)))
    · simp at hv
  have ht : Term.lateCall.WellScoped (· = "f") Session.doubling.scope.Binds :=
    .letIn (.tuple (.call (.var rfl) (by simp [Term.WellScoped.int])) .int)
      (.first (.var (.inl rfl)))
  have hr : (Walk.answerWithin (body ⟨6, false⟩) 7
      (.evaluate Term.lateCall Session.doubling)).map Prod.fst = some (.ok (.int 2)) := by cbv
  obtain ⟨⟨r, s'⟩, h, rfl⟩ := Option.map_eq_some_iff.1 hr
  obtain ⟨-, -, hs', hbinds⟩ := Session.wellScoped_of_answer hs ht h
  exact ⟨hs, ht, s', h, hs', hbinds⟩

end Treewalk
