import Mathlib
import Treewalk.Proofs.Evaluation.Lines
import Treewalk.Proofs.Signature

/-!
# Calls made again

A call by name on primitive arguments that printed nothing is in the cache when it returns, and to
make it once more is a hit and nothing else (`Session.evaluate_again`). Nothing is asked of the
body. It may call itself with the same arguments, and as scoping is dynamic the inner call may come
to another value and be remembered under the same signature. But the outer call comes back later,
and what is remembered last stays.

The arguments are elementary terms. These look at the scope and change nothing.
-/

namespace Treewalk

/-- A term that is made of literals and variables by conditions and operators. -/
inductive Term.Elementary : Term → Prop
  | int {n : Int32} {l : Location} : Elementary (.int n l)
  | str {text : String} {l : Location} : Elementary (.str text l)
  | bool {b : Bool} {l : Location} : Elementary (.bool b l)
  | var {x : String} {l : Location} : Elementary (.var x l)
  | cond {condition yes no : Term} {l : Location} (hcondition : condition.Elementary)
      (hyes : yes.Elementary) (hno : no.Elementary) : Elementary (.cond condition yes no l)
  | binary {lhs rhs : Term} {op : Operator} {l : Location} (hlhs : lhs.Elementary)
      (hrhs : rhs.Elementary) : Elementary (.binary lhs op rhs l)

namespace Evaluator

variable {options : EvalOptions} {n : Nat} {s s' : Session}

/-! ## Elementary terms -/

/-- The value of an elementary term is a matter of scope and depth, and the session stays as it
is. -/
theorem answer_of_elementary {t : Term} (ht : t.Elementary) {v : Value}
    (h : Walk.answerWithin (body options) n (.evaluate t s) = some (.ok v, s')) :
    s' = s ∧ ∀ s₁ : Session, s₁.scope = s.scope → s₁.depth = s.depth →
      Walk.answerWithin (body options) n (.evaluate t s₁) = some (.ok v, s₁) := by
  induction ht generalizing n v s s' with
  | int | str | bool =>
    obtain ⟨k, after, rfl, hlt, hstep, rfl⟩ := succeeds_of_answer h
    cases hstep
    exact ⟨rfl, fun s₁ _ hdepth => answer_of_lt_limit (hdepth ▸ hlt)⟩
  | @var x l =>
    obtain ⟨k, after, rfl, hlt, hstep, rfl⟩ := succeeds_of_answer h
    cases hstep with
    | var hx => exact ⟨rfl, fun s₁ hscope hdepth => answer_of_var (hdepth ▸ hlt) (hscope ▸ hx)⟩
  | @cond condition yes no l _ _ _ ihcondition ihyes ihno =>
    obtain ⟨k, after, rfl, hlt, hstep, rfl⟩ := succeeds_of_answer h
    cases hstep with
    | @cond _ _ _ _ _ b _ _ hcondition hbranch =>
      obtain ⟨rfl, hcondition'⟩ := ihcondition hcondition
      have ihbranch : after = s.deeper ∧ ∀ s₁ : Session, s₁.scope = s.scope →
          s₁.depth = s.depth + 1 →
          Walk.answerWithin (body options) k (.evaluate (if b then yes else no) s₁) =
            some (.ok v, s₁) := by
        cases b with
        | true => exact ihyes hbranch
        | false => exact ihno hbranch
      obtain ⟨rfl, hbranch'⟩ := ihbranch
      refine ⟨rfl, fun s₁ hscope hdepth => ?_⟩
      have hdeeper : s₁.deeper.depth = s.depth + 1 := congrArg (· + 1) hdepth
      have hstep : Succeeds options (Walk.answerWithin (body options) k) s₁.deeper
          (.cond condition yes no l) v s₁.deeper :=
        .cond (hcondition' s₁.deeper hscope hdeeper) (hbranch' s₁.deeper hscope hdeeper)
      exact hstep.answer_eq (hdepth ▸ hlt)
  | @binary lhs rhs op l _ _ ihlhs ihrhs =>
    obtain ⟨k, after, rfl, hlt, hstep, rfl⟩ := succeeds_of_answer h
    cases hstep with
    | binary hlhs hrhs hop =>
      obtain ⟨rfl, hlhs'⟩ := ihlhs hlhs
      obtain ⟨rfl, hrhs'⟩ := ihrhs hrhs
      refine ⟨rfl, fun s₁ hscope hdepth => ?_⟩
      have hdeeper : s₁.deeper.depth = s.depth + 1 := congrArg (· + 1) hdepth
      have hstep : Succeeds options (Walk.answerWithin (body options) k) s₁.deeper
          (.binary lhs op rhs l) v s₁.deeper :=
        .binary (hlhs' s₁.deeper hscope hdeeper) (hrhs' s₁.deeper hscope hdeeper) hop
      exact hstep.answer_eq (hdepth ▸ hlt)

theorem threads_of_elementary {ts : List Term} (hts : ∀ t ∈ ts, t.Elementary) {vs : List Value}
    (h : Threads (Walk.answerWithin (body options) n) s ts vs s') :
    s' = s ∧ ∀ s₁ : Session, s₁.scope = s.scope → s₁.depth = s.depth →
      Threads (Walk.answerWithin (body options) n) s₁ ts vs s₁ := by
  induction h with
  | nil => exact ⟨rfl, fun _ _ _ => .nil⟩
  | cons ht _ ih =>
    obtain ⟨rfl, ht⟩ := answer_of_elementary (hts _ List.mem_cons_self) ht
    obtain ⟨rfl, hrest⟩ := ih fun t ht => hts t (List.mem_cons_of_mem _ ht)
    exact ⟨rfl, fun s₁ hscope hdepth => .cons (ht s₁ hscope hdepth) (hrest s₁ hscope hdepth)⟩

/-! ## What is remembered -/

/-- A call that counted no line is in the cache when it returns, whatever its body put there. -/
theorem remembered_of_enter {o : (job : Job) → Option job.Answer} {key : String} {frame : Scope}
    {t : Term} {v : Value} (h : exec o (enter (some key) frame t) s = some (.ok v, s'))
    (hprints : s'.prints = s.prints) :
    s'.cache.entries[key]? = some v ∧ s'.scope = s.scope := by
  cases hentry : s.cache.entries[key]? with
  | some w =>
    rw [exec_enter_of_hit hentry] at h
    cases h
    exact ⟨by rw [Cache.entries_get?_snd, hentry], rfl⟩
  | none =>
    rw [exec_enter_of_miss hentry] at h
    obtain ⟨⟨r, s₁⟩, hr, h⟩ := Option.map_eq_some_iff.1 h
    obtain ⟨s₂, -, rfl⟩ := exec_evaluateIn_eq_some hr
    cases r with
    | error f => cases h
    | ok w =>
      simp only at h
      split at h
      next =>
        cases h
        exact ⟨by rw [Cache.entries_insert, Std.HashMap.getElem?_insert_self], rfl⟩
      next hne =>
        cases h
        exact absurd hprints hne

end Evaluator

open Evaluator

/-- To repeat a call is one hit. A call by name on elementary arguments, all of which were
primitive, came to a value and wrote nothing. Then the same call in the session it left comes to the
same value, and nothing has changed but the number of hits, which is greater by one. -/
theorem Session.evaluate_again {limit levels : Nat} {f : String} {arguments : List Term}
    {l l' : Location} {s s' : Session} {v : Value} (harguments : ∀ a ∈ arguments, a.Elementary)
    (h : Walk.answerWithin (body ⟨limit, true⟩) levels
      (.evaluate (.call (.var f l) arguments l') s) = some (.ok v, s'))
    (hprimitive : ∀ vs s₁, Threads (Walk.answerWithin (body ⟨limit, true⟩) levels) s.deeper
      arguments vs s₁ → ∀ w ∈ vs, w.isPrimitive = true)
    (hsink : s'.sink = s.sink) :
    Walk.answerWithin (body ⟨limit, true⟩) levels
        (.evaluate (.call (.var f l) arguments l') s') =
      some (.ok v, { s' with cache := { s'.cache with hits := s'.cache.hits + 1 } }) := by
  obtain ⟨texts, hprinted⟩ := exists_printed_of_ok h
  have hprints : s'.prints = s.prints := hprinted.sink_eq_iff.1 hsink
  have hdepth : s'.depth = s.depth := depth_eq_of_answer h
  have hdeeper : s'.deeper.depth = s.deeper.depth := congrArg (· + 1) hdepth
  obtain ⟨k, after, rfl, hlt, hstep, rfl⟩ := succeeds_of_answer h
  cases hstep with
  | call hcallee hlen hvs hbody =>
    obtain ⟨rfl, hcallee'⟩ := answer_of_elementary .var hcallee
    have hlevels : ∀ q x, Walk.answerWithin (body ⟨limit, true⟩) k q = some x →
        Walk.answerWithin (body ⟨limit, true⟩) (k + 1) q = some x := fun _ _ hq =>
      Walk.answerWithin_mono (Nat.le_succ k) hq
    have hvalues := hprimitive _ _ (hvs.mono hlevels)
    obtain ⟨rfl, hvs'⟩ := threads_of_elementary harguments hvs
    obtain ⟨key, hkey⟩ := exists_signature? hvalues (.var f l) _
    rw [if_pos rfl, hkey] at hbody
    obtain ⟨hentry, hscope⟩ := remembered_of_enter hbody hprints
    -- the call found its own entry, one level deeper than the session it is made in
    generalize hs : after.shallower = s' at hdepth hdeeper ⊢
    have hentry : s'.deeper.cache.entries[key]? = some v := by rw [← hs]; exact hentry
    have hscope : s'.deeper.scope = s.deeper.scope := by rw [← hs]; exact hscope
    have hhit : Succeeds ⟨limit, true⟩ (Walk.answerWithin (body ⟨limit, true⟩) k) s'.deeper
        (.call (.var f l) arguments l') v
        { s'.deeper with cache := { s'.cache with hits := s'.cache.hits + 1 } } := by
      apply Succeeds.call (hcallee' _ hscope hdeeper) hlen (hvs' _ hscope hdeeper)
      rw [if_pos rfl, hkey, exec_enter_of_hit hentry, Cache.get?_of_some hentry]
      rfl
    exact hhit.answer_eq (hdepth ▸ hlt)

/-- The body of `fn (n) => if (again) { let again = false; f(n) + 10 } else { n }`, in which `f` is
the function itself. -/
def Term.secondThought : Term :=
  let inner := Term.call (.var "f" default) [.var "n" default] default
  let sum := Term.binary inner .add (.int 10 default) default
  .cond (.var "again" default) (.letIn ⟨"again", default⟩ (.bool false default) sum default)
    (.var "n" default) default

/-- A session in which this function is bound to `f`, and `again` is true. -/
def Session.thinkingTwice : Session where
  scope := ((∅ : Scope).bind "f" (.closure [⟨"n", default⟩] .secondThought default)).bind "again"
    (.bool true)
  cache := ∅
  sink := .unlimited
  prints := 0
  depth := 0

namespace Evaluator

variable {n : Nat} {s : Session}

/-- A call of `f` on an argument that comes to `3` evaluates the body, if it is not in the cache. -/
theorem answer_secondThought {a : Term} {v : Value} {after : Session} (hd : s.depth + 1 < 8)
    (hf : s.scope.lookup? "f" = some (.closure [⟨"n", default⟩] .secondThought default))
    (ha : Walk.answerWithin (body ⟨8, true⟩) (n + 1) (.evaluate a s.deeper) =
      some (.ok (.int 3), s.deeper)) (hmiss : s.cache.entries["f,3,"]? = none)
    (hbody : Walk.answerWithin (body ⟨8, true⟩) (n + 1) (.evaluate .secondThought { s.deeper with
      scope := s.scope.bind "n" (.int 3)
      cache := { s.cache with misses := s.cache.misses + 1 } }) = some (.ok v, after))
    (hprints : after.prints = s.prints) :
    Walk.answerWithin (body ⟨8, true⟩) (n + 2)
        (.evaluate (.call (.var "f" default) [a] default) s) =
      some (.ok v, Session.shallower
        { after with scope := s.scope, cache := after.cache.insert "f,3," v }) := by
  have hkey : signature? (.var "f" default) default [.int 3] = some "f,3," := by cbv
  refine Succeeds.answer_eq (Nat.lt_of_succ_lt hd) ?_
  refine .call (answer_of_var hd hf) rfl (.cons ha .nil) ?_
  rw [if_pos rfl, hkey]
  exact exec_enter_of_miss_of_ok (s := s.deeper) hmiss hbody hprints

/-- With `again` false the call comes to `3`, which is remembered. -/
theorem answer_secondThought_inner (hd : s.depth + 2 < 8)
    (hf : s.scope.lookup? "f" = some (.closure [⟨"n", default⟩] .secondThought default))
    (hn : s.scope.lookup? "n" = some (.int 3))
    (hagain : s.scope.lookup? "again" = some (.bool false))
    (hmiss : s.cache.entries["f,3,"]? = none) :
    Walk.answerWithin (body ⟨8, true⟩) (n + 3)
        (.evaluate (.call (.var "f" default) [.var "n" default] default) s) =
      some (.ok (.int 3), { s with cache := { s.cache with
        misses := s.cache.misses + 1, entries := s.cache.entries.insert "f,3," (.int 3) } }) := by
  have hlt : s.depth + 1 < 8 := Nat.lt_of_succ_lt hd
  have hbody (s : Session) (hd : s.deeper.depth < 8) (hn : s.scope.lookup? "n" = some (.int 3))
      (hagain : s.scope.lookup? "again" = some (.bool false)) :
      Walk.answerWithin (body ⟨8, true⟩) (n + 2) (.evaluate .secondThought s) =
        some (.ok (.int 3), s) :=
    Succeeds.answer_eq (Nat.lt_of_succ_lt (show s.depth + 1 < 8 from hd))
      (.cond (answer_of_var hd hagain) (answer_of_var hd hn))
  have hagain : (s.scope.bind "n" (.int 3)).lookup? "again" = some (.bool false) := by
    simpa [Scope.lookup?_bind] using hagain
  exact answer_secondThought hlt hf (answer_of_var hlt hn) hmiss
    (hbody _ hd (Scope.lookup?_bind_self ..) hagain) rfl

/-- With `again` true the body comes to `13`, after the inner call has left its own value in the
cache. -/
theorem answer_secondThought_outer (hd : s.depth = 1)
    (hf : s.scope.lookup? "f" = some (.closure [⟨"n", default⟩] .secondThought default))
    (hn : s.scope.lookup? "n" = some (.int 3))
    (hagain : s.scope.lookup? "again" = some (.bool true))
    (hmiss : s.cache.entries["f,3,"]? = none) :
    Walk.answerWithin (body ⟨8, true⟩) 7 (.evaluate .secondThought s) =
      some (.ok (.int 13), { s with
        scope := s.scope.bind "again" (.bool false)
        cache := { s.cache with
          misses := s.cache.misses + 1, entries := s.cache.entries.insert "f,3," (.int 3) } }) := by
  obtain ⟨scope, cache, sink, prints, depth⟩ := s
  obtain rfl : depth = 1 := hd
  let cache' : Cache :=
    { cache with misses := cache.misses + 1, entries := cache.entries.insert "f,3," (.int 3) }
  let inner : Scope := scope.bind "again" (.bool false)
  have hinner : Walk.answerWithin (body ⟨8, true⟩) 4 (.evaluate
      (.call (.var "f" default) [.var "n" default] default) ⟨inner, cache, sink, prints, 4⟩) =
        some (.ok (.int 3), ⟨inner, cache', sink, prints, 4⟩) := by
    apply answer_secondThought_inner (show 4 + 2 < 8 by decide)
    · simpa [inner, Scope.lookup?_bind] using hf
    · simpa [inner, Scope.lookup?_bind] using hn
    · simp [inner]
    · exact hmiss
  have hten : Walk.answerWithin (body ⟨8, true⟩) 4 (.evaluate (.int 10 default)
      ⟨inner, cache', sink, prints, 4⟩) = some (.ok (.int 10), ⟨inner, cache', sink, prints, 4⟩) :=
    answer_of_int (show 4 < 8 by decide)
  have hsum : Operator.add.apply (.int 3) (.int 10) = .ok (.int 13) := rfl
  have hnext : Walk.answerWithin (body ⟨8, true⟩) 5 (.evaluate (.binary
      (.call (.var "f" default) [.var "n" default] default) .add (.int 10 default) default)
      ⟨inner, cache, sink, prints, 3⟩) = some (.ok (.int 13), ⟨inner, cache', sink, prints, 3⟩) :=
    Succeeds.answer_eq (show 3 < 8 by decide) (.binary hinner hten hsum)
  have hfalse : Walk.answerWithin (body ⟨8, true⟩) 5
      (.evaluate (.bool false default) ⟨scope, cache, sink, prints, 3⟩) =
        some (.ok (.bool false), ⟨scope, cache, sink, prints, 3⟩) :=
    Succeeds.answer_eq (show 3 < 8 by decide) .bool
  have hletIn : Succeeds ⟨8, true⟩ (Walk.answerWithin (body ⟨8, true⟩) 5)
      ⟨scope, cache, sink, prints, 3⟩ (.letIn ⟨"again", default⟩ (.bool false default) _ default)
      (.int 13) ⟨inner, cache', sink, prints, 3⟩ := .letIn hfalse hnext
  have hbranch := hletIn.answer_eq (s := ⟨scope, cache, sink, prints, 2⟩) (show 2 < 8 by decide)
  have hcondition : Walk.answerWithin (body ⟨8, true⟩) 6 (.evaluate (.var "again" default)
      ⟨scope, cache, sink, prints, 2⟩) = some (.ok (.bool true), ⟨scope, cache, sink, prints, 2⟩) :=
    answer_of_var (show 2 < 8 by decide) hagain
  have hbody : Succeeds ⟨8, true⟩ (Walk.answerWithin (body ⟨8, true⟩) 6)
      ⟨scope, cache, sink, prints, 2⟩ .secondThought (.int 13) ⟨inner, cache', sink, prints, 2⟩ :=
    .cond hcondition hbranch
  exact hbody.answer_eq (s := ⟨scope, cache, sink, prints, 1⟩) (show 1 < 8 by decide)

end Evaluator

/-- The inner call comes to `3` and the outer one to `13`. To make the outer call again comes to
`13`, and it is a hit. -/
theorem Session.evaluate_secondThought_again : ∃ s' s'',
    Walk.answerWithin (body ⟨8, true⟩) 8 (.evaluate
      (.call (.var "f" default) [.int 3 default] default) .thinkingTwice) =
      some (.ok (.int 13), s') ∧ s'.cache.hits = 0 ∧ s'.cache.misses = 2 ∧
    Walk.answerWithin (body ⟨8, true⟩) 8 (.evaluate
      (.call (.var "f" default) [.int 3 default] default) s') =
      some (.ok (.int 13), s'') ∧ s''.cache.hits = 1 ∧ s''.cache.misses = 2 := by
  have hthree (n : Nat) : Walk.answerWithin (body ⟨8, true⟩) (n + 1) (.evaluate
      (.int 3 default) thinkingTwice.deeper) = some (.ok (.int 3), thinkingTwice.deeper) :=
    answer_of_int (by decide)
  have hmiss : Session.thinkingTwice.cache.entries["f,3,"]? = none := by simp [thinkingTwice]
  have hf : Session.thinkingTwice.scope.lookup? "f" =
      some (.closure [⟨"n", default⟩] .secondThought default) := by
    simp [thinkingTwice, Scope.lookup?_bind]
  have hbody := answer_secondThought_outer (s := { thinkingTwice.deeper with
    scope := thinkingTwice.scope.bind "n" (.int 3), cache := { (∅ : Cache) with misses := 1 } })
    rfl (by simpa [Scope.lookup?_bind] using hf) (by simp)
    (by simp [thinkingTwice, Scope.lookup?_bind]) hmiss
  have hfirst := answer_secondThought (by decide) hf (hthree 6) hmiss hbody rfl
  have hprimitive : ∀ vs s₁, Threads (Walk.answerWithin (body ⟨8, true⟩) 8) thinkingTwice.deeper
      [.int 3 default] vs s₁ → ∀ w ∈ vs, w.isPrimitive = true := by
    intro vs s₁ h
    cases h with
    | cons ht hrest =>
      cases hrest
      rw [hthree] at ht
      cases ht
      simp [Value.isPrimitive]
  have hagain := Session.evaluate_again (by simp [Term.Elementary.int]) hfirst hprimitive rfl
  exact ⟨_, _, hfirst, rfl, rfl, hagain, rfl, rfl⟩

end Treewalk
