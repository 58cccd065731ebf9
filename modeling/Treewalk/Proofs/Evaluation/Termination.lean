import Mathlib
import Treewalk.Proofs.Evaluation.Depth

/-!
# Evaluation comes to an end

Since depth is limited, every evaluation that prints no tuple comes to an end, and takes at most one
level of recursion more than the limit (`Session.evaluate?_ends`). No measure of the term would
show this: closures, components of tuples and cached values lead to code that is no part of it.

No tuple is printed if there is none, or if nothing is ever printed. A program that recurses forever
(`Session.RecursesForever`) then ends in an overflow, and in nothing else.
-/

namespace Treewalk

/-- No term of the kind occurs in the term, be it in a body or not. -/
def Term.Lacks (kind : Term.Kind) (t : Term) : Prop := ∀ u : Term, u.OccursIn t → u.kind ≠ kind

/-- The same of the function or the tuple that a value comes from. -/
def Value.Lacks (kind : Term.Kind) : Value → Prop
  | closure parameters body l => (Term.function parameters body l).Lacks kind
  | tuple a b l => (Term.tuple a b l).Lacks kind
  | int _ | str _ | bool _ | nil => True

theorem Term.Lacks.part {kind : Term.Kind} {t u : Term} (h : t.Lacks kind) (hu : u ∈ t.parts) :
    u.Lacks kind :=
  fun w hw => h w (.part hu hw)

namespace Evaluator

/-- What is no tuple is written at once. -/
theorem isSome_render_leaf {options : EvalOptions} {n : Nat} {v : Value} {text : String}
    {s : Session} (h : ∀ a b l, v ≠ .tuple a b l) :
    (Walk.answerWithin (body options) (n + 1) (.render v text s)).isSome = true := by
  rw [answer_render_leaf h]
  rfl

/-- Evaluations come to an end if they satisfy conditions by which no tuple is written out. The
induction is on the depth that is left. -/
theorem Invariant.ends {ι : Type} {inv : Invariant ι} {options : EvalOptions}
    (hl : ∀ o, inv.Lawful options o)
    (hwritten : ∀ v, inv.written v → ∀ a b l, v ≠ .tuple a b l) {n : Nat} {job : Job}
    (hjob : ∃ i, inv.Asked i job) (hn : options.depthLimit ≤ job.session.depth + n) :
    (Walk.answerWithin (body options) (n + 1) job).isSome = true := by
  induction n generalizing job with
  | zero =>
    cases job with
    | evaluate t s =>
      have hlimit : options.depthLimit ≤ s.depth := hn
      rw [answer_of_limit_le hlimit]
      rfl
    | render v text s =>
      obtain ⟨i, hv, -⟩ := hjob
      exact isSome_render_leaf (hwritten v hv)
  | succ n ih =>
    cases job with
    | evaluate t s =>
      obtain ⟨i, hi⟩ := hjob
      rw [Walk.answerWithin_succ]
      have hkeeps : ∀ q x, Walk.answerWithin (body options) (n + 1) q = some x →
          inv.Keeps q x := fun q x hx => of_answer (fun _ o _ _ => hl o) .start hx
      refine (meets_body hkeeps (hl _) hi).isSome fun q hq => ih hq.1 ?_
      have hdepth : q.session.depth = s.depth + 1 := hq.2
      have hn : options.depthLimit ≤ s.depth + (n + 1) := hn
      omega
    | render v text s =>
      obtain ⟨i, hv, -⟩ := hjob
      exact isSome_render_leaf (hwritten v hv)

/-- Nothing that comes up has a term of the kind in it, and no tuple is written out. -/
def lacking (kind : Term.Kind) : Invariant Unit where
  term _ _ t := t.Lacks kind
  value v := v.Lacks kind
  written v := v.Lacks kind ∧ ∀ a b l, v ≠ .tuple a b l
  session _ s := s.Holds (Value.Lacks kind)
  failed _ _ _ := True

theorem lacking_lawful {kind : Term.Kind} (hkind : kind = .tuple ∨ kind = .print)
    (options : EvalOptions) (o : (job : Job) → Option job.Answer) :
    (lacking kind).Lawful options o where
  primitive {v} h := by
    cases v with
    | int | str | bool => trivial
    | closure | tuple | nil => cases h
  nil := trivial
  closure h := h
  tuple h := h
  part h _ _ hu := h.part hu
  component hv hu _ := Term.Lacks.part hv hu
  printed {_ _ operand l v} ht hv := by
    refine ⟨hv, ?_⟩
    rintro a b place rfl
    -- the tuple is of the kind that is lacking, or else the print is
    rcases hkind with rfl | rfl
    · exact hv _ .self rfl
    · exact ht _ .self rfl
  written h := h.1
  nested h _ := absurd rfl (h.2 _ _ _)
  deeper hs _ := ⟨hs.scope, hs.cache⟩
  shallower hs := ⟨hs.scope, hs.cache⟩
  failed_shallower _ := trivial
  lookup hs hv := hs.scope _ _ hv
  fail _ _ _ := trivial
  overflow _ _ _ := trivial
  letIn h _ := ⟨h.part (by simp [Term.parts]), (), h.part (by simp [Term.parts]),
    fun _ _ hs hv => hs.bind _ hv, fun _ hs => hs, fun _ _ _ => trivial⟩
  line hs _ _ := ⟨hs.scope, hs.cache⟩
  refused _ _ _ := trivial
  enter _ hclosure _ hvs hs₁ hs := ⟨(), Term.Lacks.part hclosure List.mem_cons_self,
    hs.withScope (hs₁.bindAll _ hvs), fun _ hs' => hs'.withScope hs, fun _ _ _ => trivial⟩
  ask _ hs := hs.ask _
  cached _ _ hs hv := hs.cache _ _ hv
  remember _ _ _ hv _ _ hs := hs.remember _ hv

end Evaluator

namespace Session

open Evaluator

/-- No number of levels of recursion is enough to evaluate the term, if the limit on depth is out of
reach. -/
def RecursesForever (memoize : Bool) (t : Term) (s : Session) : Prop :=
  ∀ levels limit, s.depth + levels ≤ limit → evaluate? ⟨limit, memoize⟩ levels t s = none

/-- An evaluation that recurses forever can only end at the limit: with a larger one, it would have
come to the same. -/
theorem RecursesForever.stackOverflow {memoize : Bool} {t : Term} {s s' : Session}
    (h : RecursesForever memoize t s) {limit levels : Nat} (hd : s.depth ≤ limit)
    {r : Except Failure Value} (hr : evaluate? ⟨limit, memoize⟩ levels t s = some (r, s')) :
    ∃ f, r = .error f ∧ f.cause = .stackOverflow limit limit := by
  have hsim := sim_deepening memoize (Nat.le_max_left limit (s.depth + levels)) hd levels t
  have hnone : evaluate? ⟨max limit (s.depth + levels), memoize⟩ levels t s = none :=
    h levels _ (Nat.le_max_right limit _)
  unfold evaluate? at hr hnone
  rw [hr, hnone] at hsim
  cases hsim with
  | halted hf _ => exact ⟨_, rfl, hf⟩

/-- Evaluation ends for every limit on depth, with a value or with a failure, if no tuple or no
print occurs in the term and in the values of scope and cache. It takes at most one level of
recursion more than the limit. What recurses forever ends in an overflow. -/
theorem evaluate?_ends (options : EvalOptions) {kind : Term.Kind}
    (hkind : kind = .tuple ∨ kind = .print) {t : Term} {s : Session} (ht : t.Lacks kind)
    (hs : s.Holds (Value.Lacks kind)) :
    ∃ r s', (∀ levels, options.depthLimit < levels → evaluate? options levels t s = some (r, s')) ∧
      (RecursesForever options.memoize t s → s.depth ≤ options.depthLimit → ∃ f, r = .error f ∧
        f.cause = .stackOverflow options.depthLimit options.depthLimit) := by
  have hjob : (lacking kind).Asked () (.evaluate t s) := ⟨ht, hs⟩
  have hends := Invariant.ends (lacking_lawful hkind options) (fun _ hv => hv.2)
    ⟨(), hjob⟩ (Nat.le_add_left options.depthLimit s.depth)
  obtain ⟨⟨r, s'⟩, hr⟩ := Option.isSome_iff_exists.1 hends
  refine ⟨r, s', fun levels hlevels => Walk.answerWithin_mono hlevels hr, fun h hd => ?_⟩
  exact h.stackOverflow hd hr

end Session

/-- A call of `f` without arguments. -/
def Term.callOfF : Term := .call (.var "f" default) [] default

/-- `let f = fn () => f(); f()` -/
def Term.endlessCall : Term :=
  .letIn ⟨"f", default⟩ (.function [] .callOfF default) .callOfF default

theorem Term.lacks_endlessCall : Term.endlessCall.Lacks .tuple := by
  have hcall : Term.callOfF.Lacks .tuple := by
    rintro u (_ | ⟨hu, h⟩)
    · decide
    · obtain rfl := List.mem_singleton.1 hu
      cases h with
      | self => decide
      | part hu _ => cases hu
  rintro u (_ | ⟨hu, h⟩)
  · decide
  · rcases List.mem_cons.1 hu with rfl | hu
    · cases h with
      | self => decide
      | part hu h =>
        obtain rfl := List.mem_singleton.1 hu
        exact hcall u h
    · obtain rfl := List.mem_singleton.1 hu
      exact hcall u h

namespace Session

open Evaluator

/-- As long as `f` calls itself and nothing is cached, no number of levels is enough for a call. -/
theorem answer_callOfF {limit n : Nat} {memoize : Bool} {s : Session} (hn : s.depth + n ≤ limit)
    (hf : s.scope.lookup? "f" = some (.closure [] .callOfF default))
    (hmiss : s.cache.entries["f,"]? = none) :
    Walk.answerWithin (body ⟨limit, memoize⟩) n (.evaluate .callOfF s) = none := by
  induction n generalizing s with
  | zero => exact Walk.answerWithin_zero _ _
  | succ n ih =>
    rw [answer_of_lt_limit (show s.depth < limit by omega), Option.map_eq_none_iff, Term.callOfF,
      step]
    cases n with
    | zero =>
      rw [call, exec_bind, exec_evaluate, Walk.answerWithin_zero]
      rfl
    | succ n =>
      have hcallee : Walk.answerWithin (body ⟨limit, memoize⟩) (n + 1)
          (.evaluate (.var "f" default) s.deeper) =
            some (.ok (.closure [] .callOfF default), s.deeper) :=
        answer_of_var (show s.depth + 1 < limit by omega) hf
      have hbody (cache : Cache) (hcache : cache.entries["f,"]? = none) :
          Walk.answerWithin (body ⟨limit, memoize⟩) (n + 1) (.evaluate .callOfF
            { s.deeper with scope := s.scope.bindAll [] [], cache := cache }) = none :=
        ih (show s.depth + 1 + (n + 1) ≤ limit by omega) hf hcache
      have hkey : signature? (.var "f" default) default [] = some "f," := by decide
      have hmiss : s.deeper.cache.entries["f,"]? = none := hmiss
      rw [exec_call_of_threads hcallee rfl .nil, hkey]
      cases memoize with
      | false =>
        rw [if_neg Bool.false_ne_true, enter, exec_evaluateIn]
        exact Option.map_eq_none_iff.2 (hbody _ hmiss)
      | true =>
        have hasked : (s.deeper.cache.get? "f,").2.entries["f,"]? = none := by simpa using hmiss
        rw [if_pos rfl, exec_enter_of_miss hmiss, exec_evaluateIn]
        exact Option.map_eq_none_iff.2 (Option.map_eq_none_iff.2 (hbody _ hasked))

theorem recursesForever_endlessCall (memoize : Bool) (sink : Sink) :
    RecursesForever memoize .endlessCall (.new sink) := by
  intro levels limit hlevels
  have hlevels : 0 + levels ≤ limit := hlevels
  unfold evaluate?
  cases levels with
  | zero => exact Walk.answerWithin_zero _ _
  | succ n =>
    rw [answer_of_lt_limit (show 0 < limit by omega), Option.map_eq_none_iff, Term.endlessCall,
      step]
    cases n with
    | zero =>
      rw [exec_bind, exec_evaluate, Walk.answerWithin_zero]
      rfl
    | succ n =>
      have hfunction : exec (Walk.answerWithin (body ⟨limit, memoize⟩) (n + 1))
          (evaluate (.function [] .callOfF default)) (Session.new sink).deeper =
            some (.ok (.closure [] .callOfF default), (Session.new sink).deeper) :=
        (exec_evaluate _).trans (Succeeds.answer_eq (show 0 + 1 < limit by omega) .function)
      rw [exec_bind_of_ok hfunction, exec_bind_of_ok (exec_bindName _ _), exec_evaluate]
      exact answer_callOfF (show 0 + 1 + (n + 1) ≤ limit by omega) (Scope.lookup?_bind_self ..)
        (by simp [Session.new, deeper])

/-- A function that calls itself forever overflows, with the limit that is set by default. -/
theorem evaluate?_endlessCall_ends :
    RecursesForever true .endlessCall (.new .unlimited) ∧
      ∃ f s', evaluate? .default 200001 .endlessCall (.new .unlimited) = some (.error f, s') ∧
        f.cause = .stackOverflow 200000 200000 := by
  have hforever := recursesForever_endlessCall true .unlimited
  obtain ⟨r, s', hr, hoverflow⟩ :=
    evaluate?_ends .default (.inl rfl) Term.lacks_endlessCall (.new _ .unlimited)
  obtain ⟨f, rfl, hf⟩ := hoverflow hforever (Nat.zero_le _)
  exact ⟨hforever, f, s', hr 200001 (by decide), hf⟩

end Session

end Treewalk
