import Mathlib
import Treewalk.Proofs.Evaluation.Invariant

/-!
# Which bindings an evaluation can change

A `let` binds its name in the scope at hand, and the binding outlives the `let`. A call works on a
scope of its own, so nothing that a body binds reaches the caller, and neither do parameters. There
is one way round this: a tuple that was written in a body may be taken apart by the caller, and a
`let` in a component is then carried out there.

So the names whose bindings can change are those that the term binds outside all bodies
(`Term.Exposes`), and those that are bound in a component of a tuple, wherever the tuple was written
(`Term.Stores`): in the term, in a value of the scope or in a value of the cache.
-/

namespace Treewalk

/-- A `let` of the name stands in the term, outside all bodies of functions. -/
inductive Term.Exposes (x : String) : Term → Prop
  | here {p : Parameter} {value next : Term} {l : Location} (h : p.name = x) :
      Exposes x (.letIn p value next l)
  | part {t u : Term} (ht : t.kind ≠ .function) (hu : u ∈ t.parts) (h : Exposes x u) : Exposes x t

/-- A tuple occurs in the term, in a body or not, with a `let` of the name in one of its components,
outside all bodies of functions there. -/
def Term.Stores (x : String) (t : Term) : Prop :=
  ∃ a b l, (Term.tuple a b l).OccursIn t ∧ (a.Exposes x ∨ b.Exposes x)

/-- The same of the function or the tuple that a value comes from. -/
def Value.Stores (x : String) : Value → Prop
  | closure parameters body l => (Term.function parameters body l).Stores x
  | tuple a b l => (Term.tuple a b l).Stores x
  | int _ | str _ | bool _ | nil => False

theorem Term.Stores.part {x : String} {t u : Term} (h : u.Stores x) (hu : u ∈ t.parts) :
    t.Stores x := by
  obtain ⟨a, b, l, hab, hx⟩ := h
  exact ⟨a, b, l, .part hu hab, hx⟩

/-- No name is lost from the first scope to the second, and bindings of names that are not in `may`
are the same. -/
structure Scope.ChangesOnly (may : String → Prop) (s s' : Scope) : Prop where
  binds : ∀ x, s.Binds x → s'.Binds x
  lookup?_eq : ∀ x, ¬ may x → s'.lookup? x = s.lookup? x

namespace Scope.ChangesOnly

variable {may : String → Prop} {s s' : Scope}

theorem refl (s : Scope) : s.ChangesOnly may s := ⟨fun _ h => h, fun _ _ => rfl⟩

theorem bind (h : s.ChangesOnly may s') {x : String} (hx : may x) (v : Value) :
    s.ChangesOnly may (s'.bind x v) := by
  refine ⟨fun y hy => Scope.binds_bind.2 (.inr (h.binds y hy)), fun y hy => ?_⟩
  have hne : x ≠ y := fun e => hy (e ▸ hx)
  rw [Scope.lookup?_bind_of_ne s' hne, h.lookup?_eq y hy]

end Scope.ChangesOnly

namespace Evaluator

/-- A scope to compare with, and the names whose bindings may have changed since. Those `stored` in
tuples are among them at any time. -/
structure Extent (stored : String → Prop) where
  scope : Scope
  may : String → Prop
  stored_may : ∀ x, stored x → may x

/-- Tuples store nothing but what is known to be `stored`, and only bindings change that may. -/
def confinement (stored : String → Prop) : Invariant (Extent stored) where
  term i _ t := (∀ x, t.Exposes x → i.may x) ∧ ∀ x, t.Stores x → stored x
  value v := ∀ x, v.Stores x → stored x
  written v := ∀ x, v.Stores x → stored x
  session i s := s.Holds (fun v => ∀ x, v.Stores x → stored x) ∧
    i.scope.ChangesOnly i.may s.scope
  failed i _ s := s.Holds (fun v => ∀ x, v.Stores x → stored x) ∧
    i.scope.ChangesOnly i.may s.scope

theorem confinement_lawful {stored : String → Prop} (options : EvalOptions)
    (o : (job : Job) → Option job.Answer) : (confinement stored).Lawful options o where
  primitive {v} h := by
    cases v with
    | int | str | bool => exact fun x hx => hx.elim
    | closure | tuple | nil => cases h
  nil := fun x hx => hx.elim
  closure h := h.2
  tuple h := h.2
  part {_ _ t u} h _ hk hu := by
    have hkind : t.kind ≠ .function := by
      intro e
      rw [e] at hk
      cases hk
    exact ⟨fun x hx => h.1 x (.part hkind hu hx), fun x hx => h.2 x (hx.part hu)⟩
  component {i _ a b u l} h hu _ := by
    have hexposes : ∀ x, u.Exposes x → stored x := by
      intro x hx
      refine h x ⟨a, b, l, .self, ?_⟩
      rcases List.mem_cons.1 hu with rfl | hu
      · exact .inl hx
      · exact .inr (List.mem_singleton.1 hu ▸ hx)
    exact ⟨fun x hx => i.stored_may x (hexposes x hx), fun x hx => h x (hx.part hu)⟩
  printed _ hv := hv
  written hv := hv
  nested _ hv := hv
  deeper hs _ := ⟨⟨hs.1.scope, hs.1.cache⟩, hs.2⟩
  shallower hs := ⟨⟨hs.1.scope, hs.1.cache⟩, hs.2⟩
  failed_shallower hs := ⟨⟨hs.1.scope, hs.1.cache⟩, hs.2⟩
  lookup hs hv := hs.1.scope _ _ hv
  fail _ hs _ := hs
  overflow _ hs _ := hs
  letIn {i d p value next l} h _ := by
    have hpart : ∀ u ∈ [value, next], (confinement stored).term i (d + 1) u := fun u hu =>
      ⟨fun x hx => h.1 x (.part (by simp [Term.kind]) hu hx), fun x hx => h.2 x (hx.part hu)⟩
    refine ⟨hpart value (by simp), i, hpart next (by simp), fun s v hs hv => ?_, fun s hs => hs,
      fun f s hs => hs⟩
    exact ⟨hs.1.bind _ hv, hs.2.bind (h.1 _ (.here rfl)) v⟩
  line hs _ _ := ⟨⟨hs.1.scope, hs.1.cache⟩, hs.2⟩
  refused _ hs _ := ⟨⟨hs.1.scope, hs.1.cache⟩, hs.2⟩
  enter {i _ _ body _ _ _ parameters vs s s₁} _ hclosure _ hvs hs₁ hs := by
    -- whatever the body binds, it binds in the frame, and the caller's scope is that of `s`
    let j : Extent stored :=
      ⟨s₁.scope.bindAll parameters vs, fun x => body.Exposes x ∨ stored x, fun _ => .inr⟩
    have hbody : (confinement stored).term j s.depth body :=
      ⟨fun x hx => .inl hx, fun x hx => hclosure x (hx.part List.mem_cons_self)⟩
    exact ⟨j, hbody, ⟨⟨(hs₁.1.bindAll parameters hvs).scope, hs.1.cache⟩, .refl _⟩,
      fun s' hs' => ⟨hs'.1.withScope hs.1, hs.2⟩, fun f s' hs' => ⟨hs'.1.withScope hs.1, hs.2⟩⟩
  ask _ hs := ⟨hs.1.ask _, hs.2⟩
  cached _ _ hs hv := hs.1.cache _ _ hv
  remember _ _ _ hv _ _ hs := ⟨hs.1.remember _ hv, hs.2⟩

end Evaluator

open Evaluator

/-- Evaluation removes no name from the scope, whether it succeeds or fails, and it changes the
binding of a name only if the term binds the name outside all bodies of functions, or if a component
of a tuple does, where the tuple is in the term, in a value of the scope or in a value of the cache.
Parameters of functions that are called, and what bodies bind, are not among these. -/
theorem Session.lookup?_of_answer {options : EvalOptions} {levels : Nat} {t : Term}
    {s s' : Session} {r : Except Failure Value}
    (h : Walk.answerWithin (body options) levels (.evaluate t s) = some (r, s'))
    (x : String) :
    (s.scope.Binds x → s'.scope.Binds x) ∧
      (s'.scope.lookup? x = s.scope.lookup? x ∨ t.Exposes x ∨ t.Stores x ∨
        (∃ y v, s.scope.lookup? y = some v ∧ v.Stores x) ∨
        ∃ (key : String) (v : Value), s.cache.entries[key]? = some v ∧ v.Stores x) := by
  let stored : String → Prop := fun x => t.Stores x ∨
    (∃ y v, s.scope.lookup? y = some v ∧ v.Stores x) ∨
    ∃ (key : String) (v : Value), s.cache.entries[key]? = some v ∧ v.Stores x
  let i : Extent stored := ⟨s.scope, fun x => t.Exposes x ∨ stored x, fun _ => .inr⟩
  have hkeeps : (confinement stored).Keeps (.evaluate t s) (r, s') :=
    Invariant.of_answer (fun _ o _ _ => confinement_lawful _ o) .start h
  have hholds : s.Holds fun v => ∀ x, v.Stores x → stored x :=
    ⟨fun y v hv x hx => .inr (.inl ⟨y, v, hv, hx⟩),
      fun key v hv x hx => .inr (.inr ⟨key, v, hv, hx⟩)⟩
  have hchanges : s.scope.ChangesOnly i.may s'.scope := by
    have hissues := hkeeps i ⟨⟨fun x hx => .inl hx, fun x hx => .inl hx⟩, hholds, .refl _⟩
    cases r with
    | ok v => exact hissues.2.session.2
    | error f => exact hissues.failed.2
  refine ⟨hchanges.binds x, ?_⟩
  by_cases hx : i.may x
  · exact .inr hx
  · exact .inl (hchanges.lookup?_eq x hx)

/-- A session in which `x` is `7` and `f` is `fn (x) => let z = x; z`. -/
def Session.calling : Session where
  scope := ((∅ : Scope).bind "x" (.int 7)).bind "f" (.closure [⟨"x", default⟩]
    (.letIn ⟨"z", default⟩ (.var "x" default) (.var "z" default) default) default)
  cache := ∅
  sink := .unlimited
  prints := 0
  depth := 0

/-- After a call of `f` with `1`, the caller's `x` is what it was, and `z` is not bound. -/
theorem Session.lookup?_of_calling :
    ∃ s', Walk.answerWithin (body ⟨3, false⟩) 4 (.evaluate
        (.call (.var "f" default) [.int 1 default] default) Session.calling) =
        some (.ok (.int 1), s') ∧
      s'.scope.lookup? "x" = some (.int 7) ∧ s'.scope.lookup? "z" = none := by
  have hr : (Walk.answerWithin (body ⟨3, false⟩) 4 (.evaluate
      (.call (.var "f" default) [.int 1 default] default) Session.calling)).map Prod.fst =
        some (.ok (.int 1)) := by cbv
  obtain ⟨⟨r, s'⟩, h, rfl⟩ := Option.map_eq_some_iff.1 hr
  have hexposes : ∀ x, ¬ (Term.call (.var "f" default) [.int 1 default] default).Exposes x := by
    rintro x (_ | ⟨-, hu, hx⟩)
    simp only [Term.parts, List.mem_cons, List.not_mem_nil, or_false] at hu
    rcases hu with rfl | rfl <;> cases hx with | part _ hu _ => cases hu
  have hstores : ∀ x, ¬ (Term.call (.var "f" default) [.int 1 default] default).Stores x := by
    rintro x ⟨a, b, l, _ | ⟨hu, hab⟩, -⟩
    simp only [Term.parts, List.mem_cons, List.not_mem_nil, or_false] at hu
    rcases hu with rfl | rfl <;> cases hab with | part hu _ => cases hu
  have hscope : ∀ x y v, Session.calling.scope.lookup? y = some v → ¬ v.Stores x := by
    intro x y v hv
    rw [calling, Scope.lookup?_bind, Scope.lookup?_bind] at hv
    split at hv
    · cases hv
      rintro ⟨a, b, l, _ | ⟨hu, hab⟩, -⟩
      obtain rfl := List.mem_singleton.1 hu
      cases hab with
      | part hu hab =>
        simp only [Term.parts, List.mem_cons, List.not_mem_nil, or_false] at hu
        rcases hu with rfl | rfl <;> cases hab with | part hu _ => cases hu
    · split at hv
      · cases hv
        exact fun hx => hx
      · simp at hv
  have hkept : ∀ x, s'.scope.lookup? x = Session.calling.scope.lookup? x := by
    intro x
    obtain ⟨-, hx | hx | hx | ⟨y, v, hv, hx⟩ | ⟨key, v, hv, -⟩⟩ := Session.lookup?_of_answer h x
    · exact hx
    · exact absurd hx (hexposes x)
    · exact absurd hx (hstores x)
    · exact absurd hx (hscope x y v hv)
    · simp [calling] at hv
  refine ⟨s', h, (hkept "x").trans ?_, (hkept "z").trans ?_⟩
  · simp [calling, Scope.lookup?_bind]
  · simp [calling, Scope.lookup?_bind]

end Treewalk
