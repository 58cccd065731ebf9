import Mathlib
import Treewalk.Expression
import Treewalk.Proofs.Evaluation.CallIdentity

/-!
# Placed expressions

Placing an expression gives a location of its own to every term and to every name that a term binds.
They are numbered in the order in which they are made, without a gap (`numbered_place`). `Made` says
what a builder has made whose numbers run on from one expression to the next, whatever it was used
for before. Its terms start at ascending numbers, and where a function is not given by a name, its
start is the first thing in the signature of a call. So calls of different functions of one builder
do not share a signature (`place_identifies`).
-/

namespace Treewalk

/-! ## Parts and names -/

namespace Expression

/-- The expressions that an expression is made of, in the order they stand in. -/
def parts : Expression → List Expression
  | int .. | str .. | bool .. | var .. => []
  | function _ body => [body]
  | call callee arguments => callee :: arguments
  | letIn _ value next => [value, next]
  | cond condition yes no => [condition, yes, no]
  | binary lhs _ rhs => [lhs, rhs]
  | tuple a b => [a, b]
  | print a | first a | second a => [a]

/-- The names that an expression binds, without those that its parts bind. -/
def names : Expression → List String
  | function names _ => names
  | letIn name _ _ => [name]
  | _ => []

/-- The number of expressions in an expression, itself included, and of the names they bind. -/
def size : Expression → Nat
  | int .. | str .. | bool .. | var .. => 1
  | function names body => body.size + names.length + 1
  | call callee arguments => callee.size + sizes arguments + 1
  | letIn _ value next => value.size + next.size + 2
  | cond condition yes no => condition.size + yes.size + no.size + 1
  | binary lhs _ rhs => lhs.size + rhs.size + 1
  | tuple a b => a.size + b.size + 1
  | print a | first a | second a => a.size + 1
where
  sizes : List Expression → Nat
    | [] => 0
    | e :: rest => e.size + sizes rest

theorem size_eq (e : Expression) : e.size = size.sizes e.parts + e.names.length + 1 := by
  cases e <;>
    simp only [size, size.sizes, parts, names, List.length_nil, List.length_cons] <;>
    omega

theorem sizeOf_lt_of_mem_parts {e p : Expression} (h : p ∈ e.parts) : sizeOf p < sizeOf e := by
  cases e with
  | int | str | bool | var => cases h
  | call callee arguments =>
    rcases List.mem_cons.1 h with rfl | h
    · simp +arith
    · have := List.sizeOf_lt_of_mem h
      simp only [call.sizeOf_spec]
      omega
  | function | letIn | cond | binary | tuple | print | first | second =>
    simp only [parts, List.mem_cons, List.not_mem_nil, or_false] at h
    rcases h with rfl | rfl | rfl <;> simp +arith

/-- What holds of an expression if it holds of its parts holds of every expression. -/
theorem parts_induction {P : Expression → Prop} (h : ∀ e, (∀ p ∈ e.parts, P p) → P e)
    (e : Expression) : P e :=
  h e fun p _ => parts_induction h p
termination_by sizeOf e
decreasing_by exact sizeOf_lt_of_mem_parts ‹_›

end Expression

namespace Term

/-- The names that a term binds, without those that its parts bind. -/
def names : Term → List Parameter
  | function parameters _ _ => parameters
  | letIn name _ _ _ => [name]
  | _ => []

/-- The locations that making a term takes once its parts are made: those of the names that it
binds, then its own. -/
def places (t : Term) : List Location := t.names.map Parameter.location ++ [t.location]

theorem location_mem_places (t : Term) : t.location ∈ t.places :=
  List.mem_append_right _ (List.mem_singleton_self _)

/-- All terms in a term, parts from left to right before the whole. -/
def nodes : Term → List Term
  | t@(int ..) | t@(str ..) | t@(bool ..) | t@(var ..) => [t]
  | t@(function _ body _) => body.nodes ++ [t]
  | t@(call callee arguments _) => callee.nodes ++ nodesAll arguments ++ [t]
  | t@(letIn _ value next _) => value.nodes ++ next.nodes ++ [t]
  | t@(cond condition yes no _) => condition.nodes ++ yes.nodes ++ no.nodes ++ [t]
  | t@(binary lhs _ rhs _) => lhs.nodes ++ rhs.nodes ++ [t]
  | t@(tuple a b _) => a.nodes ++ b.nodes ++ [t]
  | t@(print a _) | t@(first a _) | t@(second a _) => a.nodes ++ [t]
where
  nodesAll : List Term → List Term
    | [] => []
    | t :: rest => t.nodes ++ nodesAll rest

theorem nodesAll_eq (ts : List Term) : nodes.nodesAll ts = ts.flatMap nodes := by
  induction ts with
  | nil => rfl
  | cons t ts ih => rw [nodes.nodesAll, ih, List.flatMap_cons]

theorem nodes_eq (t : Term) : t.nodes = t.parts.flatMap nodes ++ [t] := by
  cases t <;> simp [nodes, parts, nodesAll_eq]

theorem self_mem_nodes (t : Term) : t ∈ t.nodes := by
  rw [nodes_eq]
  exact List.mem_append_right _ (List.mem_singleton_self t)

/-- The terms in a subterm stand among those in the term, in the same order. -/
theorem OccursIn.nodes_sublist {u t : Term} (h : u.OccursIn t) : u.nodes.Sublist t.nodes := by
  induction h with
  | self => exact .refl _
  | @part w t hw _ ih =>
    have hpart : w.nodes.Sublist (t.parts.flatMap nodes) := by
      rw [List.flatMap_def]
      exact List.sublist_flatten_of_mem (List.mem_map_of_mem hw)
    rw [t.nodes_eq]
    exact ih.trans (hpart.trans (List.sublist_append_left _ _))

/-- The term without its locations. -/
def expression : Term → Expression
  | int v _ => .int v
  | str v _ => .str v
  | bool v _ => .bool v
  | var name _ => .var name
  | function parameters body _ => .function (parameters.map Parameter.name) body.expression
  | call callee arguments _ => .call callee.expression (expressions arguments)
  | letIn name value next _ => .letIn name.name value.expression next.expression
  | cond condition yes no _ => .cond condition.expression yes.expression no.expression
  | binary lhs op rhs _ => .binary lhs.expression op rhs.expression
  | tuple a b _ => .tuple a.expression b.expression
  | print a _ => .print a.expression
  | first a _ => .first a.expression
  | second a _ => .second a.expression
where
  expressions : List Term → List Expression
    | [] => []
    | t :: rest => t.expression :: expressions rest

end Term

/-! ## What placing does -/

namespace Expression

variable {file : String}

theorem placeNames_eq (file : String) (names : List String) (n : Nat) :
    (placeNames file names n).1.map Parameter.name = names ∧
      (placeNames file names n).1.map Parameter.location =
        (List.range' n names.length).map (unit file) ∧
      (placeNames file names n).2 = n + names.length := by
  induction names generalizing n with
  | nil => exact ⟨rfl, rfl, rfl⟩
  | cons name rest ih =>
    obtain ⟨hnames, hlocations, hnext⟩ := ih (n + 1)
    refine ⟨?_, ?_, ?_⟩
    · simp [placeNames, hnames]
    · simp [placeNames, hlocations, List.range'_succ]
    · simp only [placeNames, hnext, List.length_cons]
      omega

/-- Every kind of expression is placed in the same way: its parts from left to right, then the names
that it binds, then itself. -/
theorem place_eq (file : String) (e : Expression) (n : Nat) :
    (e.place file n).1.parts = (place.placeAll file e.parts n).1 ∧
      (e.place file n).1.names = (placeNames file e.names (place.placeAll file e.parts n).2).1 ∧
      (e.place file n).1.location =
        unit file (placeNames file e.names (place.placeAll file e.parts n).2).2 ∧
      (e.place file n).2 = (placeNames file e.names (place.placeAll file e.parts n).2).2 + 1 := by
  cases e <;> simp [place, place.placeAll, parts, names, placeNames, Term.parts, Term.names,
    Term.location]

/-- What is made for the terms is numbered from `n` on, without a gap, and ends before `m`. -/
structure Numbered (file : String) (n : Nat) (ts : List Term) (size m : Nat) : Prop where
  places : ts.flatMap Term.places = (List.range' n size).map (unit file)
  next : m = n + size

theorem Numbered.append {n m k size size' : Nat} {ts us : List Term}
    (h : Numbered file n ts size m) (h' : Numbered file m us size' k) :
    Numbered file n (ts ++ us) (size + size') k := by
  obtain ⟨hplaces, rfl⟩ := h
  obtain ⟨hplaces', rfl⟩ := h'
  refine ⟨?_, Nat.add_assoc n size size'⟩
  rw [List.flatMap_append, hplaces, hplaces', ← List.map_append, List.range'_append_1]

theorem numbered_placeAll {es : List Expression}
    (h : ∀ e ∈ es, ∀ n, Numbered file n (e.place file n).1.nodes e.size (e.place file n).2)
    (n : Nat) :
    Numbered file n ((place.placeAll file es n).1.flatMap Term.nodes) (size.sizes es)
      (place.placeAll file es n).2 := by
  induction es generalizing n with
  | nil => exact ⟨rfl, rfl⟩
  | cons e es ih =>
    have hrest := ih (fun e' he' => h e' (List.mem_cons_of_mem _ he')) (e.place file n).2
    exact (h e List.mem_cons_self n).append hrest

/-- A term that takes the numbers from `n` on for the names that it binds, and the next one for
itself. -/
theorem numbered_singleton {t : Term} {names : List String} {n : Nat}
    (hnames : t.names = (placeNames file names n).1)
    (hlocation : t.location = unit file (placeNames file names n).2) :
    Numbered file n [t] (names.length + 1) ((placeNames file names n).2 + 1) := by
  obtain ⟨-, hlocations, hnext⟩ := placeNames_eq file names n
  refine ⟨?_, by rw [hnext, Nat.add_assoc]⟩
  rw [List.flatMap_singleton, Term.places, hnames, hlocations, hlocation, hnext,
    List.range'_1_concat, List.map_append, List.map_singleton]

/-- The terms of a placed expression and the names they bind are numbered in the order in which they
are made. -/
theorem numbered_place (file : String) (e : Expression) (n : Nat) :
    Numbered file n (e.place file n).1.nodes e.size (e.place file n).2 := by
  induction e using parts_induction generalizing n with
  | h e ih =>
    obtain ⟨hparts, hnames, hlocation, hnext⟩ := place_eq file e n
    rw [Term.nodes_eq, hparts, size_eq, hnext, Nat.add_assoc]
    exact (numbered_placeAll ih n).append (numbered_singleton hnames hlocation)

theorem expressions_placeAll {es : List Expression}
    (h : ∀ e ∈ es, ∀ n, (e.place file n).1.expression = e) (n : Nat) :
    Term.expression.expressions (place.placeAll file es n).1 = es := by
  induction es generalizing n with
  | nil => rfl
  | cons e es ih =>
    have hrest := ih (fun e' he' => h e' (List.mem_cons_of_mem _ he')) (e.place file n).2
    rw [place.placeAll, Term.expression.expressions, h e List.mem_cons_self, hrest]

/-- Placing changes nothing but locations. -/
theorem expression_place (file : String) (e : Expression) (n : Nat) :
    (e.place file n).1.expression = e := by
  induction e using parts_induction generalizing n with
  | h e ih =>
    cases e with
    | int | str | bool | var => rfl
    | function names body =>
      obtain ⟨hnames, -, -⟩ := placeNames_eq file names (body.place file n).2
      simp [place, Term.expression, hnames, ih body List.mem_cons_self]
    | call callee arguments =>
      obtain ⟨hcallee, harguments⟩ := List.forall_mem_cons.1 ih
      simp [place, Term.expression, hcallee, expressions_placeAll harguments]
    | letIn | cond | binary | tuple | print | first | second =>
      simp only [parts, List.forall_mem_cons] at ih
      simp [place, Term.expression, ih]

/-! ## The order of terms -/

/-- In a numbered term, everything that a term is made of starts before it. -/
theorem Numbered.start_lt {t u : Term} {n size m : Nat} (h : Numbered file n t.nodes size m)
    (hu : u.OccursIn t) :
    (∀ p ∈ u.parts, p.location.start < u.location.start) ∧
      ∀ x ∈ u.names, x.location.start < u.location.start := by
  have hall : (t.nodes.flatMap Term.places).Pairwise fun l l' => l.start < l'.start := by
    rw [h.places]
    exact List.pairwise_map.2 (List.pairwise_lt_range' 1)
  have hascending := hall.sublist (hu.nodes_sublist.flatMap Term.places)
  rw [u.nodes_eq, List.flatMap_append, List.flatMap_singleton, Term.places, ← List.append_assoc]
    at hascending
  obtain ⟨-, -, hbefore⟩ := List.pairwise_append.1 hascending
  refine ⟨fun p hp => ?_, fun x hx => ?_⟩
  · have hnode : p ∈ u.parts.flatMap Term.nodes := List.mem_flatMap.2 ⟨p, hp, p.self_mem_nodes⟩
    have hplace : p.location ∈ (u.parts.flatMap Term.nodes).flatMap Term.places :=
      List.mem_flatMap.2 ⟨p, hnode, p.location_mem_places⟩
    exact hbefore _ (List.mem_append_left _ hplace) _ (List.mem_singleton_self _)
  · have hname : x.location ∈ u.names.map Parameter.location := List.mem_map_of_mem hx
    exact hbefore _ (List.mem_append_right _ hname) _ (List.mem_singleton_self _)

/-! ## One builder -/

/-- What a builder of `file` has made, in order, and the number it stands at. To make a term it
places the names that the term binds and then the term; the parts may come from anywhere. A number
may also be taken by what is no term, as a program is. -/
inductive Made (file : String) : List Term → Nat → Prop
  | start (n : Nat) : Made file [] n
  | term {made : List Term} {n : Nat} {t : Term} {names : List String} (h : Made file made n)
      (hnames : t.names = (placeNames file names n).1)
      (hlocation : t.location = unit file (placeNames file names n).2) :
      Made file (made ++ [t]) ((placeNames file names n).2 + 1)
  | other {made : List Term} {n : Nat} (h : Made file made n) : Made file made (n + 1)

theorem Made.placeAll {es : List Expression} {made : List Term} {n : Nat} (hmade : Made file made n)
    (h : ∀ e ∈ es, ∀ {made : List Term} {n : Nat}, Made file made n →
      Made file (made ++ (e.place file n).1.nodes) (e.place file n).2) :
    Made file (made ++ (place.placeAll file es n).1.flatMap Term.nodes)
      (place.placeAll file es n).2 := by
  induction es generalizing made n with
  | nil => simpa [place.placeAll] using hmade
  | cons e es ih =>
    have hrest := ih (h e List.mem_cons_self hmade) fun e' he' => h e' (List.mem_cons_of_mem _ he')
    rwa [List.append_assoc] at hrest

/-- Placing an expression makes the terms in it, one after another. -/
theorem Made.place {made : List Term} {n : Nat} (h : Made file made n) (e : Expression) :
    Made file (made ++ (e.place file n).1.nodes) (e.place file n).2 := by
  induction e using parts_induction generalizing made n with
  | h e ih =>
    obtain ⟨hparts, hnames, hlocation, hnext⟩ := place_eq file e n
    rw [Term.nodes_eq, hparts, hnext, ← List.append_assoc]
    exact (h.placeAll fun p hp _ _ hmade => ih p hp hmade).term hnames hlocation

/-- What one builder has made starts at ascending numbers, all below the one it stands at. -/
theorem Made.starts_sublist {made : List Term} {n : Nat} (h : Made file made n) :
    (made.map fun t => t.location.start).Sublist (List.range' 0 n) := by
  induction h with
  | start n => exact List.nil_sublist _
  | @term made n t names _ hnames hlocation ih =>
    obtain ⟨-, -, hnext⟩ := placeNames_eq file names n
    have hstart : t.location.start ∈ List.range' n (names.length + 1) := by
      rw [hlocation, hnext]
      exact List.mem_range'_1.2 ⟨Nat.le_add_right _ _, Nat.lt_succ_self _⟩
    have hrange : List.range' 0 n ++ List.range' n (names.length + 1) =
        List.range' 0 (n + names.length + 1) := by
      simpa [Nat.add_assoc] using List.range'_append_1 (s := 0) (m := n) (n := names.length + 1)
    rw [List.map_append, hnext, ← hrange]
    exact ih.append (List.singleton_sublist.2 hstart)
  | @other made n _ ih =>
    rw [List.range'_1_concat]
    exact ih.trans (List.sublist_append_left _ _)

end Expression

namespace Signature

/-- Calls of functions that are defined at the two places have different signatures, as long as
neither gives its function by a name. -/
def Apart (closure closure' : Location) : Prop :=
  ∀ (callee callee' : Term) (vs ws : List Value), callee.kind ≠ .var → callee'.kind ≠ .var →
    (∀ v ∈ vs, v.isPrimitive = true) → (∀ w ∈ ws, w.isPrimitive = true) →
    ∃ key key', signature? callee closure vs = some key ∧
      signature? callee' closure' ws = some key' ∧ key ≠ key'

/-- The start of the definition is the first thing in a signature, and it ends at the first comma
whatever the arguments are. -/
theorem start_eq_of_key_eq {callee callee' : Term} (hcallee : callee.kind ≠ .var)
    (hcallee' : callee'.kind ≠ .var) {closure closure' : Location} {vs ws : List Value}
    {key : String} (hkey : signature? callee closure vs = some key)
    (hkey' : signature? callee' closure' ws = some key) : closure.start = closure'.start := by
  obtain ⟨xs, -, hxs⟩ := signature?_eq_some_iff.1 hkey
  obtain ⟨ys, -, hys⟩ := signature?_eq_some_iff.1 hkey'
  rw [hxs, calleeTexts_of_kind_ne hcallee, calleeTexts_of_kind_ne hcallee'] at hys
  have hclosed : closure.start.repr.toList ++ ',' :: closed (closure.stop.repr :: xs) =
      closure'.start.repr.toList ++ ',' :: closed (closure'.stop.repr :: ys) := by
    simpa [closed] using hys
  obtain ⟨hstart, -⟩ := append_comma_inj (comma_notMem_repr _) (comma_notMem_repr _) hclosed
  exact Nat.repr_inj.1 (String.toList_inj.1 hstart)

theorem apart_of_start_ne {closure closure' : Location} (h : closure.start ≠ closure'.start) :
    Apart closure closure' := by
  intro callee callee' vs ws hcallee hcallee' hvs hws
  obtain ⟨key, hkey⟩ := exists_signature? hvs callee closure
  obtain ⟨key', hkey'⟩ := exists_signature? hws callee' closure'
  refine ⟨key, key', hkey, hkey', ?_⟩
  rintro rfl
  exact h (start_eq_of_key_eq hcallee hcallee' hkey hkey')

end Signature

/-- Every term gets an identity. Let a builder of `file` have made some terms and stand at `n`. An
expression that it places becomes a term which is that expression but for locations. The terms in it
and the names that they bind are at the locations `k` to `k + 1` of the file, for each `k` from `n`
on in the order in which they are made, and the builder then stands just behind the last of them.
Parts and bound names start before the whole. Of all the functions that the builder has made, in the
new term or before, no two share the signature of a call, unless the function is given by a name. -/
theorem Expression.place_identifies {file : String} {made : List Term} {n : Nat}
    (hmade : Made file made n) (e : Expression) :
    ∃ t, e.place file n = (t, n + e.size) ∧ t.expression = e ∧
      t.nodes.flatMap Term.places = (List.range' n e.size).map (fun k => ⟨k, k + 1, file⟩) ∧
      (∀ u : Term, u.OccursIn t → (∀ p ∈ u.parts, p.location.start < u.location.start) ∧
        ∀ x ∈ u.names, x.location.start < u.location.start) ∧
      (made ++ t.nodes).Pairwise fun f g => f.kind = .function → g.kind = .function →
        Signature.Apart f.location g.location := by
  have hnumbered := numbered_place file e n
  refine ⟨(e.place file n).1, Prod.ext rfl hnumbered.next, expression_place file e n,
    hnumbered.places, fun u hu => hnumbered.start_lt hu, ?_⟩
  have hascending := (List.pairwise_lt_range' 1).sublist (hmade.place e).starts_sublist
  refine (List.pairwise_map.1 hascending).imp ?_
  intro f g hlt _ _
  exact Signature.apart_of_start_ne (Nat.ne_of_lt hlt)

/-- `fn (x) => x + k` -/
def Expression.increment (k : Int32) : Expression :=
  .function ["x"] (.binary (.var "x") .add (.int k))

/-- A program, and then a function of the same builder. -/
theorem Expression.place_identifies_increments :
    Made "s" ((increment 1).program "s" "p" 0).1.expression.nodes 6 ∧
      ((increment 1).program "s" "p" 0).1.expression.location = ⟨4, 5, "s"⟩ ∧
      (increment 2).place "s" 6 =
        (.function [⟨"x", ⟨9, 10, "s"⟩⟩]
          (.binary (.var "x" ⟨6, 7, "s"⟩) .add (.int 2 ⟨7, 8, "s"⟩) ⟨8, 9, "s"⟩)
          ⟨10, 11, "s"⟩, 11) ∧
      Signature.Apart ⟨4, 5, "s"⟩ ⟨10, 11, "s"⟩ := by
  have hmade : Made "s" ((increment 1).program "s" "p" 0).1.expression.nodes 6 :=
    ((Made.start 0).place (increment 1)).other
  refine ⟨hmade, rfl, rfl, ?_⟩
  obtain ⟨t, ht, -, -, -, hfunctions⟩ := place_identifies hmade (increment 2)
  obtain ⟨rfl, -⟩ := Prod.mk.inj ht
  obtain ⟨-, -, hacross⟩ := List.pairwise_append.1 hfunctions
  exact hacross ((increment 1).place "s" 0).1 (Term.self_mem_nodes _) ((increment 2).place "s" 6).1
    (Term.self_mem_nodes _) rfl rfl

end Treewalk
