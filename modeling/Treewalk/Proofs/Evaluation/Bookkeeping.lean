import Mathlib
import Treewalk.Proofs.Evaluation.History

/-!
# The books of the cache

The cache counts how often it was asked with and without success. Its counts never go down and no
key is ever dropped, whatever happens in a session, and there are never more entries than misses
(`Session.History.cache_accounts`).

The last of these is not kept up by single steps: between its miss and its entry a call may make
other calls, even of the same signature, or fail and leave no entry. What is kept up is a relation
of two caches (`Cache.Precedes`), in which new entries are charged to new misses. While a body is
evaluated, the comparison is with the cache as it was just after the miss, so that one miss is left
over for the entry of the call itself.
-/

namespace Treewalk

/-- The second cache may have become of the first one: no key is lost, no count has gone down, and
there are no more new entries than new misses. -/
structure Cache.Precedes (c c' : Cache) : Prop where
  keys (key : String) : key ∈ c.entries → key ∈ c'.entries
  hits_le : c.hits ≤ c'.hits
  misses_le : c.misses ≤ c'.misses
  charged : c'.size + c.misses ≤ c.size + c'.misses

namespace Cache

variable {c c' c'' : Cache}

theorem Precedes.refl (c : Cache) : c.Precedes c :=
  ⟨fun _ h => h, Nat.le_refl _, Nat.le_refl _, Nat.le_refl _⟩

theorem Precedes.trans (h : c.Precedes c') (h' : c'.Precedes c'') : c.Precedes c'' where
  keys key hkey := h'.keys key (h.keys key hkey)
  hits_le := Nat.le_trans h.hits_le h'.hits_le
  misses_le := Nat.le_trans h.misses_le h'.misses_le
  charged := by
    have := h.charged
    have := h'.charged
    omega

theorem precedes_get? (c : Cache) (key : String) : c.Precedes (c.get? key).2 := by
  unfold get?
  split
  · exact ⟨fun _ h => h, Nat.le_succ _, Nat.le_refl _, Nat.le_refl _⟩
  · exact ⟨fun _ h => h, Nat.le_refl _, Nat.le_succ _, Nat.le_succ _⟩

/-- A new entry is charged to the miss that came before it, whatever happened in between. -/
theorem Precedes.insert {key : String} (hmiss : c.entries[key]? = none)
    (h : (c.get? key).2.Precedes c') (v : Value) : c.Precedes (c'.insert key v) := by
  rw [get?_of_none hmiss] at h
  obtain ⟨hkeys, hhits, hmisses, hcharged⟩ := h
  have hsize : (c'.entries.insert key v).size ≤ c'.entries.size + 1 := Std.HashMap.size_insert_le
  refine ⟨fun k hk => ?_, hhits, Nat.le_of_succ_le hmisses, ?_⟩
  · rw [entries_insert, Std.HashMap.mem_insert]
    exact .inr (hkeys k hk)
  · show (c'.entries.insert key v).size + c.misses ≤ c.entries.size + c'.misses
    have hcharged : c'.entries.size + (c.misses + 1) ≤ c.entries.size + c'.misses := hcharged
    omega

end Cache

namespace Evaluator

/-- The cache has become of the one it is compared with. -/
def bookkeeping : Invariant Cache := .ofCaches Cache.Precedes

theorem bookkeeping_lawful (options : EvalOptions) {o : (job : Job) → Option job.Answer}
    (ho : ∀ q x, o q = some x → bookkeeping.Keeps q x) : bookkeeping.Lawful options o := by
  refine Invariant.ofCaches_lawful ?_ ?_
  · exact fun _ _ c key hc => hc.trans (c.precedes_get? key)
  · intro _ c s s' key v hs hmiss hearned _ _
    obtain ⟨_, _, _, _, hbody⟩ := hearned
    -- the body is compared with the cache after the miss, and not with the cache `c` of its caller
    have hafter : (s.cache.get? key).2.Precedes s'.cache :=
      cache_of_keeps (ho _ _ hbody) (.refl _)
    exact hs.trans (hafter.insert hmiss v)

/-- However a job is answered, the cache has become of the one before. -/
theorem precedes_of_answer {options : EvalOptions} {n : Nat} {job : Job} {x : job.Answer}
    (h : Walk.answerWithin (body options) n job = some x) :
    job.session.cache.Precedes (job.after x).cache := by
  have hkeeps : bookkeeping.Keeps job x :=
    Invariant.of_answer (fun _ _ _ ho => bookkeeping_lawful options ho) .start h
  exact cache_of_keeps hkeeps (.refl _)

end Evaluator

namespace Session

open Evaluator

/-- One operation leads from a session to another one, whether it succeeds or fails. As in a
history, scope and sink are chosen by whoever asks for it. -/
inductive Operates (options : EvalOptions) (s : Session) : Session → Prop
  | evaluate {levels : Nat} {t : Term} {scope : Scope} {sink : Sink} {r : Except Failure Value}
      {s' : Session}
      (hr : evaluate? options levels t { s with scope := scope, sink := sink } = some (r, s')) :
      Operates options s s'
  | render {levels : Nat} {v : Value} {scope : Scope} {sink : Sink} {r : Except Failure String}
      {s' : Session}
      (hr : render? options levels v { s with scope := scope, sink := sink } = some (r, s')) :
      Operates options s s'
  | run {levels : Nat} {p : Program} {sink : Sink} {r : Except Failure Value} {s' : Session}
      (hr : run? options levels p { s with sink := sink } = some (r, s')) : Operates options s s'

variable {options : EvalOptions} {s s' : Session}

/-- What every answer does to the cache, every operation does. -/
theorem Operates.of_answers {R : Cache → Cache → Prop}
    (answer : ∀ {job : Job} {n : Nat} {x : job.Answer},
      Walk.answerWithin (body options) n job = some x → R job.session.cache (job.after x).cache)
    (h : Operates options s s') : R s.cache s'.cache := by
  cases h with
  | evaluate hr => exact answer hr
  | render hr => exact answer hr
  | run hr =>
    obtain ⟨r', after, hafter, rfl, -⟩ := run?_eq_some hr
    exact answer hafter

theorem History.precedes {jobs : List Job} (h : History options jobs s) :
    (∅ : Cache).Precedes s.cache :=
  h.of_answers (P := fun _ c _ => (∅ : Cache).Precedes c) (.refl _) fun hx ih =>
    ih.trans (precedes_of_answer hx)

/-- Whatever operations led to a session, its cache has no more entries than misses. A further
operation keeps all keys, no count goes down, and without memoization nothing changes at all. -/
theorem History.cache_accounts {jobs : List Job} (h : History options jobs s) :
    s.cache.size ≤ s.cache.misses ∧ ∀ s', Operates options s s' →
      (∀ key, key ∈ s.cache.entries → key ∈ s'.cache.entries) ∧
      s.cache.hits ≤ s'.cache.hits ∧ s.cache.misses ≤ s'.cache.misses ∧
      (options.memoize = false → s'.cache = s.cache) := by
  have hsize : s.cache.size + 0 ≤ (∅ : Cache).size + s.cache.misses := h.precedes.charged
  have hempty : (∅ : Cache).size = 0 := Std.HashMap.size_empty
  refine ⟨by omega, fun s' h' => ?_⟩
  obtain ⟨hkeys, hhits, hmisses, -⟩ := h'.of_answers (R := Cache.Precedes) precedes_of_answer
  exact ⟨hkeys, hhits, hmisses, fun hmemoize =>
    h'.of_answers (R := fun c c' => c' = c) (cache_eq_of_answer hmemoize)⟩

/-- A call that is abandoned between its miss and its entry counts as a miss, and a later call of
the same signature may have the entry: `fn (n) => x` fails on `3`, and then `fn (n) => n`, with the
same location, does not. -/
theorem cache_accounts_of_callOfThree :
    ∃ jobs s s', History ⟨2, true⟩ jobs s ∧ s.cache.size = 0 ∧ s.cache.misses = 1 ∧
      Operates ⟨2, true⟩ s s' ∧ s'.cache.entries["0,0,3,"]? = some (.int 3) ∧
      s.cache.size ≤ s.cache.misses ∧ s.cache.misses ≤ s'.cache.misses := by
  let s : Session := { Session.new .unlimited with
    scope := ∅, cache := { (∅ : Cache) with misses := 1 } }
  have habandoned : evaluate? ⟨2, true⟩ 3 (.callOfThree (.var "x" default)) (.new .unlimited) =
      some (.error ⟨.undefinedVariable "x", default⟩, s) := by
    have hunbound : ((∅ : Scope).bind "n" (.int 3)).lookup? "x" = none := by
      rw [Scope.lookup?_bind_of_ne _ (by decide : "n" ≠ "x"), Scope.lookup?_empty]
    have hmiss : (Session.new .unlimited).deeper.cache.entries["0,0,3,"]? = none := by
      simp [Session.new, deeper]
    rw [evaluate?_callOfThree _ rfl, exec_enter_of_miss hmiss, exec_evaluateIn,
      answer_of_unbound (by decide) hunbound, Cache.get?_of_none hmiss]
    rfl
  obtain ⟨s', hs', hentry⟩ := exists_entry_of_callOfThree (s := s) rfl (by simp [s])
  have hhistory : History ⟨2, true⟩ _ s := (History.new .unlimited).evaluate habandoned
  have hoperates : Operates ⟨2, true⟩ s s' := .evaluate hs'
  obtain ⟨hsize, hnext⟩ := hhistory.cache_accounts
  exact ⟨_, s, s', hhistory, Std.HashMap.size_empty, rfl, hoperates, hentry, hsize,
    (hnext s' hoperates).2.2.1⟩

end Session

end Treewalk
