import Mathlib
import Treewalk.Proofs.Evaluation.Simulation

/-!
# Locations do not matter

Terms carry the locations they have in the source text, and so do closures, tuples and failures.
Nothing that a program comes to or writes depends on them, with one exception: the signature of a
call whose function has no name is made of the place of its definition. Programs that are the same
but for locations therefore come to the same but for locations (`Session.run?_of_unlocated_eq`),
without memoization or if all calls are by name.
-/

namespace Treewalk

/-! ## Leaving locations out -/

def Parameter.unlocated (p : Parameter) : Parameter := { p with location := default }

@[simp] theorem Parameter.name_unlocated (p : Parameter) : p.unlocated.name = p.name := rfl

namespace Term

/-- The term with one and the same location everywhere. -/
def unlocated : Term → Term
  | int n _ => int n default
  | str s _ => str s default
  | bool b _ => bool b default
  | var x _ => var x default
  | function ps t _ => function (ps.map Parameter.unlocated) t.unlocated default
  | call c as _ => call c.unlocated (unlocatedAll as) default
  | letIn x t u _ => letIn x.unlocated t.unlocated u.unlocated default
  | cond t u w _ => cond t.unlocated u.unlocated w.unlocated default
  | binary t op u _ => binary t.unlocated op u.unlocated default
  | tuple t u _ => tuple t.unlocated u.unlocated default
  | print t _ => print t.unlocated default
  | first t _ => first t.unlocated default
  | second t _ => second t.unlocated default
where
  unlocatedAll : List Term → List Term
    | [] => []
    | t :: rest => t.unlocated :: unlocatedAll rest

/-- In every call the function is given by its name. -/
def callsByName : Term → Bool
  | int .. | str .. | bool .. | var .. => true
  | function _ t _ => t.callsByName
  | call c as _ => decide (c.kind = .var) && allByName as
  | letIn _ t u _ => t.callsByName && u.callsByName
  | cond t u w _ => t.callsByName && u.callsByName && w.callsByName
  | binary t _ u _ => t.callsByName && u.callsByName
  | tuple t u _ => t.callsByName && u.callsByName
  | print t _ | first t _ | second t _ => t.callsByName
where
  allByName : List Term → Bool
    | [] => true
    | t :: rest => t.callsByName && allByName rest

theorem callsByName_of_mem {ts : List Term} (h : callsByName.allByName ts = true) {t : Term}
    (ht : t ∈ ts) : t.callsByName = true := by
  induction ts with
  | nil => cases ht
  | cons u ts ih =>
    simp only [callsByName.allByName, Bool.and_eq_true] at h
    rcases List.mem_cons.1 ht with rfl | ht
    · exact h.1
    · exact ih h.2 ht

theorem callsByName_of_mem_parts {t u : Term} (h : t.callsByName = true) (hu : u ∈ t.parts) :
    u.callsByName = true := by
  cases t with
  | int | str | bool | var => cases hu
  | call c as l =>
    simp only [callsByName, Bool.and_eq_true, decide_eq_true_eq] at h
    rcases List.mem_cons.1 hu with rfl | hu
    · obtain ⟨x, l, rfl⟩ := exists_var_of_kind h.1
      rfl
    · exact callsByName_of_mem h.2 hu
  | function | letIn | cond | binary | tuple | print | first | second =>
    simp only [callsByName, Bool.and_eq_true] at h
    simp only [parts, List.mem_cons, List.not_mem_nil, or_false] at hu
    grind

theorem kind_unlocated (t : Term) : t.unlocated.kind = t.kind := by
  cases t <;> rfl

section Unlocated

variable {T : Term → Term → Prop}

theorem forall₂_of_unlocatedAll_eq {ts us : List Term}
    (h : unlocated.unlocatedAll ts = unlocated.unlocatedAll us)
    (hT : ∀ t ∈ ts, ∀ u ∈ us, t.unlocated = u.unlocated → T t u) : List.Forall₂ T ts us := by
  induction ts generalizing us with
  | nil =>
    cases us with
    | nil => exact .nil
    | cons => cases h
  | cons t ts ih =>
    cases us with
    | nil => cases h
    | cons u us =>
      obtain ⟨hhead, htail⟩ := List.cons.inj h
      refine .cons (hT t List.mem_cons_self u List.mem_cons_self hhead) (ih htail ?_)
      intro t ht u hu
      exact hT t (List.mem_cons_of_mem _ ht) u (List.mem_cons_of_mem _ hu)

/-- Terms that are the same but for locations match, and so do their parts. -/
theorem matches_of_unlocated_eq {t u : Term} (h : t.unlocated = u.unlocated)
    (hT : ∀ a ∈ t.parts, ∀ b ∈ u.parts, a.unlocated = b.unlocated → T a b) : t.Matches T u := by
  have hkind : t.kind = u.kind := by rw [← t.kind_unlocated, h, u.kind_unlocated]
  cases t <;> cases u <;> cases hkind
  all_goals
    simp only [unlocated, int.injEq, str.injEq, bool.injEq, var.injEq, function.injEq, call.injEq,
      letIn.injEq, cond.injEq, binary.injEq, tuple.injEq, print.injEq, first.injEq, second.injEq,
      and_true] at h
    simp only [parts, List.mem_cons, List.not_mem_nil, or_false, forall_eq_or_imp, forall_eq] at hT
  case int.int => exact h ▸ .int ..
  case str.str => exact h ▸ .str ..
  case bool.bool => exact h ▸ .bool ..
  case var.var => exact h ▸ .var ..
  case function.function ps body l ps' body' l' =>
    have hnames : ps.map (·.name) = ps'.map (·.name) := by
      simpa [Function.comp_def] using congrArg (List.map (·.name)) h.1
    exact .function l l' hnames (hT h.2)
  case call.call callee arguments l callee' arguments' l' =>
    refine .call l l' (hT.1.1 h.1) (forall₂_of_unlocatedAll_eq h.2 ?_)
    intro t ht u hu
    exact (hT.2 t ht).2 u hu
  case letIn.letIn x _ _ l x' _ _ l' =>
    have hname : x.name = x'.name := by
      rw [← x.name_unlocated, h.1, x'.name_unlocated]
    exact .letIn l l' hname (hT.1.1 h.2.1) (hT.2.2 h.2.2)
  case cond.cond => exact .cond _ _ (hT.1.1 h.1) (hT.2.1.2.1 h.2.1) (hT.2.2.2.2 h.2.2)
  case binary.binary =>
    obtain ⟨hlhs, rfl, hrhs⟩ := h
    exact .binary _ _ _ (hT.1.1 hlhs) (hT.2.2 hrhs)
  case tuple.tuple => exact .tuple _ _ (hT.1.1 h.1) (hT.2.2 h.2)
  case print.print => exact .print _ _ (hT h)
  case first.first => exact .first _ _ (hT h)
  case second.second => exact .second _ _ (hT h)

end Unlocated

/-- The terms are the same but for locations. If results are remembered, all calls in them have to
be by name. -/
structure Relocated (memoize : Bool) (t u : Term) : Prop where
  unlocated_eq : t.unlocated = u.unlocated
  byName : memoize = true → t.callsByName = true ∧ u.callsByName = true

namespace Relocated

variable {memoize : Bool} {t u : Term}

theorem symm (h : t.Relocated memoize u) : u.Relocated memoize t :=
  ⟨h.unlocated_eq.symm, fun hm => (h.byName hm).symm⟩

theorem parts (h : t.Relocated memoize u) : t.Matches (Relocated memoize) u := by
  refine matches_of_unlocated_eq h.unlocated_eq fun a ha b hb hab => ⟨hab, fun hm => ?_⟩
  obtain ⟨ht, hu⟩ := h.byName hm
  exact ⟨callsByName_of_mem_parts ht ha, callsByName_of_mem_parts hu hb⟩

/-- Where calls are by name, locations are no part of their signatures. -/
theorem signature?_eq {c c' : Term} {as as' : List Term} {l l' : Location} {vs vs' : List Value}
    (h : (call c as l).Relocated true (call c' as' l'))
    (hvs : List.Forall₂ (Value.Like (Relocated true)) vs vs') (place place' : Location) :
    signature? c place vs = signature? c' place' vs' := by
  obtain ⟨hname, hname'⟩ := h.byName rfl
  simp only [callsByName, Bool.and_eq_true, decide_eq_true_eq] at hname hname'
  obtain ⟨x, _, rfl⟩ := exists_var_of_kind hname.1
  obtain ⟨x', _, rfl⟩ := exists_var_of_kind hname'.1
  obtain rfl : x = x' := (var.inj (call.inj h.unlocated_eq).1).1
  exact signature?_eq_of_like rfl hvs

end Relocated

end Term

/-- The value with one and the same location everywhere. -/
def Value.unlocated : Value → Value
  | .closure ps t _ => .closure (ps.map Parameter.unlocated) t.unlocated default
  | .tuple t u _ => .tuple t.unlocated u.unlocated default
  | v => v

theorem Value.Like.unlocated_eq {memoize : Bool} {v w : Value}
    (h : v.Like (Term.Relocated memoize) w) : v.unlocated = w.unlocated := by
  cases h with
  | closure h =>
    obtain ⟨hparameters, hbody, -⟩ := Term.function.inj h.unlocated_eq
    simp only [Value.unlocated, hparameters, hbody]
  | tuple h =>
    obtain ⟨hfirst, hsecond, -⟩ := Term.tuple.inj h.unlocated_eq
    simp only [Value.unlocated, hfirst, hsecond]
  | int | str | bool | nil => rfl

/-! ## Caches -/

/-- Caches that remember values under the same signatures, values that are alike, and with the same
counts. -/
structure Cache.Like (T : Term → Term → Prop) (c c' : Cache) : Prop where
  entries (key : String) : Option.Rel (Value.Like T) c.entries[key]? c'.entries[key]?
  size_eq : c.entries.size = c'.entries.size
  hits_eq : c.hits = c'.hits
  misses_eq : c.misses = c'.misses

namespace Cache

variable {T : Term → Term → Prop} {c c' : Cache}

theorem like_empty : (∅ : Cache).Like T ∅ where
  entries key := by
    rw [entries_empty, Std.HashMap.getElem?_empty]
    exact .none
  size_eq := rfl
  hits_eq := rfl
  misses_eq := rfl

namespace Like

theorem counts_eq (h : c.Like T c') : c.counts = c'.counts := by
  simp only [counts, size, h.size_eq, h.hits_eq, h.misses_eq]

/-- To ask for a result is a miss on both sides, or a hit on both. -/
theorem miss_or_hit (h : c.Like T c') (key : String) :
    (c.entries[key]? = none ∧ c'.entries[key]? = none) ∨
      ∃ v w, c.entries[key]? = some v ∧ c'.entries[key]? = some w ∧ v.Like T w := by
  have hentry := h.entries key
  generalize c.entries[key]? = found at hentry ⊢
  generalize c'.entries[key]? = found' at hentry ⊢
  cases hentry with
  | none => exact .inl ⟨rfl, rfl⟩
  | some hvw => exact .inr ⟨_, _, rfl, rfl, hvw⟩

theorem get? (h : c.Like T c') (key : String) : (c.get? key).2.Like T (c'.get? key).2 := by
  unfold Cache.get?
  obtain ⟨hc, hc'⟩ | ⟨v, w, hc, hc', -⟩ := h.miss_or_hit key
  · rw [hc, hc']
    exact ⟨h.entries, h.size_eq, h.hits_eq, congrArg (· + 1) h.misses_eq⟩
  · rw [hc, hc']
    exact ⟨h.entries, h.size_eq, congrArg (· + 1) h.hits_eq, h.misses_eq⟩

theorem mem_iff (h : c.Like T c') (key : String) : key ∈ c.entries ↔ key ∈ c'.entries := by
  rw [Std.HashMap.mem_iff_isSome_getElem?, Std.HashMap.mem_iff_isSome_getElem?]
  obtain ⟨hc, hc'⟩ | ⟨v, w, hc, hc', -⟩ := h.miss_or_hit key
  · rw [hc, hc']
  · rw [hc, hc']
    exact Iff.rfl

theorem insert (h : c.Like T c') (key : String) {v v' : Value} (hv : v.Like T v') :
    (c.insert key v).Like T (c'.insert key v') where
  entries key' := by
    rw [entries_insert, entries_insert, Std.HashMap.getElem?_insert, Std.HashMap.getElem?_insert]
    split
    · exact .some hv
    · exact h.entries key'
  size_eq := by
    rw [entries_insert, entries_insert, Std.HashMap.size_insert, Std.HashMap.size_insert,
      h.size_eq]
    simp only [h.mem_iff key]
  hits_eq := h.hits_eq
  misses_eq := h.misses_eq

end Like

end Cache

/-! ## Evaluation -/

namespace Evaluator

/-- Evaluations of terms of which one is the other relocated. -/
def relocating (memoize : Bool) : Simulation where
  term := Term.Relocated memoize
  cache := Cache.Like (Term.Relocated memoize)
  followed _ := True

variable {memoize : Bool}

section Enter

variable {o₁ o₂ : (job : Job) → Option job.Answer} {body body' : Term}
  {frame frame' : Scope}

/-- Under one key a body is found in both caches, or it is evaluated and remembered on both
sides. -/
theorem relocating_enter
    (hbody : (relocating memoize).Simulates o₁ o₂ (Value.Like (Term.Relocated memoize))
      (evaluateIn frame body) (evaluateIn frame' body')) (key? : Option String) :
    (relocating memoize).Simulates o₁ o₂ (Value.Like (Term.Relocated memoize))
      (enter key? frame body) (enter key? frame' body') := by
  obtain _ | key := key?
  · exact hbody
  refine ⟨fun {s₁ s₂ s₁' r₁} hs hx _ => ?_, fun _ _ => trivial⟩
  have hasked : (relocating memoize).Coupled { s₁ with cache := (s₁.cache.get? key).2 }
      { s₂ with cache := (s₂.cache.get? key).2 } :=
    ⟨hs.scope, hs.cache.get? key, hs.sink_eq, hs.prints_eq, hs.depth_eq⟩
  obtain ⟨hentry, hentry'⟩ | ⟨v, w, hentry, hentry', hvw⟩ := hs.cache.miss_or_hit key
  · rw [exec_enter_of_miss hentry] at hx
    rw [exec_enter_of_miss hentry']
    obtain ⟨⟨r, s₁''⟩, hr, hx⟩ := Option.map_eq_some_iff.1 hx
    obtain ⟨r', s₂'', hr', hagree, hs''⟩ := hbody.follow hasked hr trivial
    rw [hr']
    cases hagree with
    | error hfg =>
      cases hx
      exact ⟨_, _, rfl, .error hfg, hs''⟩
    | ok hvw =>
      simp only [Option.map_some] at hx ⊢
      -- lines are counted alike, so the value is remembered on both sides or on neither
      have hprints : s₂''.prints = s₂.prints ↔ s₁''.prints = s₁.prints := by
        rw [hs''.prints_eq, hs.prints_eq]
      by_cases hp : s₁''.prints = s₁.prints
      · rw [if_pos hp] at hx
        rw [if_pos (hprints.2 hp)]
        cases hx
        exact ⟨_, _, rfl, .ok hvw, hs''.scope, hs''.cache.insert key hvw, hs''.sink_eq,
          hs''.prints_eq, hs''.depth_eq⟩
      · rw [if_neg hp] at hx
        rw [if_neg (mt hprints.1 hp)]
        cases hx
        exact ⟨_, _, rfl, .ok hvw, hs''⟩
  · rw [exec_enter_of_hit hentry] at hx
    cases hx
    exact ⟨_, _, exec_enter_of_hit hentry' .., .ok hvw, hasked⟩

end Enter

theorem relocating_lawful (limit : Nat) (memoize : Bool) :
    (relocating memoize).Lawful ⟨limit, memoize⟩ ⟨limit, memoize⟩ where
  limit_eq := rfl
  parts := Term.Relocated.parts
  alone := .inl fun _ => trivial
  enter h hvs hbody := by
    cases memoize with
    | false => exact hbody
    | true =>
      simp only [↓reduceIte]
      rw [h.signature?_eq hvs]
      exact relocating_enter hbody _

/-- Values that are the same but for locations, or failures that have the same cause. -/
inductive SameButForLocations : Except Failure Value → Except Failure Value → Prop
  | ok {v w : Value} (h : v.unlocated = w.unlocated) : SameButForLocations (.ok v) (.ok w)
  | error {f g : Failure} (h : f.cause = g.cause) : SameButForLocations (.error f) (.error g)

/-- What a run comes to, a run of the relocated program comes to as well. -/
theorem exists_run_of_relocated {p q : Program}
    (h : p.expression.Relocated memoize q.expression) {limit levels : Nat} {sink : Sink}
    {x : Except Failure Value × Session}
    (hx : Session.run? ⟨limit, memoize⟩ levels p (.new sink) = some x) :
    ∃ y, Session.run? ⟨limit, memoize⟩ levels q (.new sink) = some y ∧
      SameButForLocations x.1 y.1 ∧ x.2.sink = y.2.sink ∧ x.2.cache.counts = y.2.cache.counts := by
  obtain ⟨r, s, hy, hs, hagree⟩ :=
    (relocating_lawful limit memoize).follow_run h Cache.like_empty hx trivial
  refine ⟨(r, s), hy, ?_, hs.sink_eq, hs.cache.counts_eq⟩
  rcases hagree with hagree | ⟨e, hp, rfl⟩
  · generalize x.1 = r' at hagree ⊢
    cases hagree with
    | ok hvw => exact .ok hvw.unlocated_eq
    | error hfg => exact .error hfg.cause_eq
  · rw [hp]
    exact .error rfl

end Evaluator

open Evaluator in
/-- Locations do not matter. Let two programs be the same but for the locations of terms, of
parameters and of names that are bound by `let`, and let results not be remembered, or all calls be
by name. Then, with every limit on depth and every sink, runs of both write the same, come to values
that are the same but for locations or to failures with the same cause, and count the same results,
hits and misses. -/
theorem Session.run?_of_unlocated_eq {p q : Program}
    (h : p.expression.unlocated = q.expression.unlocated) {memoize : Bool}
    (hcalls : memoize = true →
      p.expression.callsByName = true ∧ q.expression.callsByName = true)
    (limit levels : Nat) (sink : Sink) :
    Option.Rel (fun x y => SameButForLocations x.1 y.1 ∧ x.2.sink = y.2.sink ∧
        x.2.cache.counts = y.2.cache.counts)
      (Session.run? ⟨limit, memoize⟩ levels p (.new sink))
      (Session.run? ⟨limit, memoize⟩ levels q (.new sink)) := by
  have hpq : p.expression.Relocated memoize q.expression := ⟨h, hcalls⟩
  cases hp : Session.run? ⟨limit, memoize⟩ levels p (.new sink) with
  | some x =>
    obtain ⟨y, hy, hxy⟩ := exists_run_of_relocated hpq hp
    rw [hy]
    exact .some hxy
  | none =>
    cases hq : Session.run? ⟨limit, memoize⟩ levels q (.new sink) with
    | none => exact .none
    | some y =>
      obtain ⟨x, hx, -⟩ := exists_run_of_relocated hpq.symm hq
      rw [hp] at hx
      cases hx

/-- `let f = fn (g) => let _ = print(g); g; f(f)`, with everything at `l`. The call is by name, and
what it comes to is a closure that shows where it was made. -/
def Program.selfCall (l : Location) : Program where
  name := "self call"
  location := l
  expression :=
    let body := .letIn ⟨"_", l⟩ (.print (.var "g" l) l) (.var "g" l) l
    .letIn ⟨"f", l⟩ (.function [⟨"g", l⟩] body l) (.call (.var "f" l) [.var "f" l] l) l

open Evaluator in
theorem Session.run?_selfCall_of_unlocated_eq :
    (Program.selfCall ⟨4, 9, "here"⟩).expression.callsByName = true ∧
    (Session.run? ⟨5, true⟩ 6 (Program.selfCall ⟨4, 9, "here"⟩) (.new .unlimited)).map
        (·.2.sink.contents) = some "<#closure>\n".toUTF8 ∧
    Option.Rel (fun x y => SameButForLocations x.1 y.1 ∧ x.2.sink = y.2.sink ∧
        x.2.cache.counts = y.2.cache.counts)
      (Session.run? ⟨5, true⟩ 6 (Program.selfCall ⟨4, 9, "here"⟩) (.new .unlimited))
      (Session.run? ⟨5, true⟩ 6 (Program.selfCall ⟨0, 1, "there"⟩) (.new .unlimited)) := by
  have h : (Program.selfCall ⟨4, 9, "here"⟩).expression.unlocated =
      (Program.selfCall ⟨0, 1, "there"⟩).expression.unlocated := rfl
  have hwritten : (Session.run? ⟨5, true⟩ 6 (Program.selfCall ⟨4, 9, "here"⟩)
      (.new .unlimited)).map (·.2.sink.contents) = some "<#closure>\n".toUTF8 := by cbv
  exact ⟨rfl, hwritten, Session.run?_of_unlocated_eq h (fun _ => ⟨rfl, rfl⟩) 5 6 .unlimited⟩

end Treewalk
