import Treewalk.Proofs.Evaluation.Triple

/-!
# What evaluation steps come to

`exec o m s` is the reply of the step `m` in the session `s`, with jobs answered by `o`, or `none`
if a job it asks for has no answer. A sequence of steps is taken apart by `exec_bind_eq_some`, and
put together by `exec_bind_of_ok` and `exec_bind_of_error`.

`Mirrors` compares two steps whose jobs are answered in different ways: what the first comes to, the
second comes to as well, while the sessions stay related. Failures of the first one that are set
apart by `skip` are not followed.
-/

namespace Treewalk

/-- The text that is written for a value, unless it is a tuple. -/
def Value.leafText : Value → String
  | closure .. => "<#closure>"
  | nil => "nil"
  | v => v.primitiveText?.getD ""

namespace Evaluator

variable {α β : Type}

/-- The reply of a step, with jobs answered by `o`. -/
def exec (o : (job : Job) → Option job.Answer) (m : EvalM α) (s : Session) : Option (Reply α) :=
  (m.run.run s).eval? o

section Equations

variable {o : (job : Job) → Option job.Answer} {s s' s'' : Session} {m : EvalM α}
  {f : α → EvalM β}

@[simp] theorem exec_evaluate (t : Term) : exec o (evaluate t) s = o (.evaluate t s) :=
  Walk.eval?_ask o _

@[simp] theorem exec_render (v : Value) (text : String) :
    exec o (render v text) s = o (.render v text s) := Walk.eval?_ask o _

@[simp] theorem exec_get : exec o (get : EvalM Session) s = some (.ok s, s) := rfl

@[simp] theorem exec_bindName (name : String) (v : Value) :
    exec o (bindName name v) s = some (.ok (), { s with scope := s.scope.bind name v }) := rfl

@[simp] theorem exec_askCache (key : String) : exec o (askCache key) s =
    some (.ok (s.cache.get? key).1, { s with cache := (s.cache.get? key).2 }) := rfl

theorem exec_printLine (location : Location) (text : String) : exec o (printLine location text) s =
    some (match s.sink.writeLine text with
      | (.ok (), sink) => (.ok .nil, { s with sink := sink, prints := s.prints + 1 })
      | (.error e, sink) => (.error ⟨.output e, location⟩, { s with sink := sink })) := by
  show Walk.eval? o (match s.sink.writeLine text with
    | (.ok (), sink) => _
    | (.error e, sink) => _) = _
  rcases s.sink.writeLine text with ⟨e | u, sink⟩ <;> rfl

theorem exec_evaluateIn (frame : Scope) (t : Term) : exec o (evaluateIn frame t) s =
    (o (.evaluate t { s with scope := frame })).map
      fun x => (x.1, { x.2 with scope := s.scope }) := by
  show (o (.evaluate t { s with scope := frame })).bind _ = _
  cases o (.evaluate t { s with scope := frame }) <;> rfl

theorem exec_evaluateIn_eq_some {frame : Scope} {t : Term} {r : Except Failure Value}
    (h : exec o (evaluateIn frame t) s = some (r, s')) :
    ∃ s'', o (.evaluate t { s with scope := frame }) = some (r, s'') ∧
      s' = { s'' with scope := s.scope } := by
  rw [exec_evaluateIn] at h
  obtain ⟨⟨r', s''⟩, hr, he⟩ := Option.map_eq_some_iff.1 h
  cases he
  exact ⟨s'', hr, rfl⟩

theorem exec_bind : exec o (m >>= f) s = (exec o m s).bind fun
    | (.ok a, s') => exec o (f a) s'
    | (.error e, s') => some (.error e, s') := by
  refine (Walk.eval?_bind o (m.run.run s) _).trans ?_
  unfold exec
  congr 1
  funext x
  rcases x with ⟨e | a, s'⟩ <;> rfl

theorem exec_bind_of_ok {a : α} (h : exec o m s = some (.ok a, s')) :
    exec o (m >>= f) s = exec o (f a) s' := by
  rw [exec_bind, h]; rfl

theorem exec_bind_of_error {e : Failure} (h : exec o m s = some (.error e, s')) :
    exec o (m >>= f) s = some (.error e, s') := by
  rw [exec_bind, h]; rfl

/-- A sequence that comes to a reply does so in its second step, unless the first one fails. -/
theorem exec_bind_eq_some {r : Except Failure β} (h : exec o (m >>= f) s = some (r, s'')) :
    (∃ a s', exec o m s = some (.ok a, s') ∧ exec o (f a) s' = some (r, s'')) ∨
      ∃ e, exec o m s = some (.error e, s'') ∧ r = .error e := by
  rw [exec_bind] at h
  obtain ⟨⟨r', s'⟩, hm, hf⟩ := Option.bind_eq_some_iff.1 h
  cases r' with
  | ok a => exact .inl ⟨a, s', hm, hf⟩
  | error e => cases hf; exact .inr ⟨e, hm, rfl⟩

theorem exec_bind_eq_ok {b : β} (h : exec o (m >>= f) s = some (.ok b, s'')) :
    ∃ a s', exec o m s = some (.ok a, s') ∧ exec o (f a) s' = some (.ok b, s'') := by
  obtain h | ⟨e, -, he⟩ := exec_bind_eq_some h
  · exact h
  · cases he

/-- A call found in the cache is not evaluated. -/
theorem exec_enter_of_hit {key : String} {v : Value} (h : s.cache.entries[key]? = some v)
    (frame : Scope) (t : Term) : exec o (enter (some key) frame t) s =
      some (.ok v, { s with cache := (s.cache.get? key).2 }) := by
  unfold enter
  rw [exec_bind_of_ok (exec_askCache key), Cache.get?_fst, h]
  rfl

/-- A call that is not in the cache is evaluated, and remembered if nothing was printed. -/
theorem exec_enter_of_miss {key : String} (h : s.cache.entries[key]? = none) (frame : Scope)
    (t : Term) : exec o (enter (some key) frame t) s =
      (exec o (evaluateIn frame t) { s with cache := (s.cache.get? key).2 }).map fun
        | (.ok v, s') => (.ok v, if s'.prints = s.prints then
            { s' with cache := s'.cache.insert key v } else s')
        | (.error e, s') => (.error e, s') := by
  unfold enter
  rw [exec_bind_of_ok (exec_askCache key), Cache.get?_fst, h]
  simp only
  rw [exec_bind_of_ok exec_get, exec_bind]
  rcases exec o (evaluateIn frame t) { s with cache := (s.cache.get? key).2 } with _ | ⟨e | v, s'⟩
  · rfl
  · rfl
  · simp only [Option.bind_some, Option.map_some]
    rw [exec_bind_of_ok exec_get]
    by_cases hp : s'.prints = s.prints
    · rw [if_pos hp, if_pos hp]
      rfl
    · rw [if_neg hp, if_neg hp]
      rfl

/-- A body that comes to a value and counts no line leaves an entry, after one miss. -/
theorem exec_enter_of_miss_of_ok {key : String} {frame : Scope} {t : Term} {v : Value}
    (h : s.cache.entries[key]? = none)
    (ht : o (.evaluate t { s with
      scope := frame, cache := { s.cache with misses := s.cache.misses + 1 } }) = some (.ok v, s'))
    (hp : s'.prints = s.prints) : exec o (enter (some key) frame t) s =
      some (.ok v, { s' with scope := s.scope, cache := s'.cache.insert key v }) := by
  rw [exec_enter_of_miss h, Cache.get?_of_none h, exec_evaluateIn, ht]
  simp only [Option.map_some, hp, ↓reduceIte]

end Equations

theorem Triple.settles {o : (job : Job) → Option job.Answer} {pre : Job → Prop}
    {P : Session → Prop} {m : EvalM α} {Q : α → Session → Prop} {E : Failure → Session → Prop}
    (h : Triple o pre P m Q E) {s : Session} (hs : P s) {x : Reply α} (hx : exec o m s = some x) :
    Settles Q E x :=
  (h s hs).result hx

/-! ## Answers -/

section Answers

variable {options : EvalOptions} {n : Nat} {t : Term} {s s' : Session}

theorem answer_of_limit_le (h : options.depthLimit ≤ s.depth) :
    Walk.answerWithin (body options) (n + 1) (.evaluate t s) =
      some (.error ⟨.stackOverflow s.depth options.depthLimit, t.location⟩, s) := by
  rw [Walk.answerWithin_succ, body_of_limit_le h]
  rfl

theorem answer_of_lt_limit (h : s.depth < options.depthLimit) :
    Walk.answerWithin (body options) (n + 1) (.evaluate t s) =
      (exec (Walk.answerWithin (body options) n) (step options t) s.deeper).map
        (Prod.map id Session.shallower) := by
  rw [Walk.answerWithin_succ, body_of_lt_limit h]
  refine (Walk.eval?_bind _ _ _).trans ?_
  unfold exec
  cases Walk.eval? (Walk.answerWithin (body options) n) ((step options t).run.run s.deeper) <;> rfl

/-- The level is left again, whatever the step comes to. -/
theorem answer_of_exec {r : Except Failure Value} (h : s.depth < options.depthLimit)
    (hstep : exec (Walk.answerWithin (body options) n) (step options t) s.deeper = some (r, s')) :
    Walk.answerWithin (body options) (n + 1) (.evaluate t s) = some (r, s'.shallower) := by
  rw [answer_of_lt_limit h, hstep]
  rfl

theorem answer_render (v : Value) (text : String) :
    Walk.answerWithin (body options) (n + 1) (.render v text s) =
      exec (Walk.answerWithin (body options) n) (renderStep v text) s := by
  rw [Walk.answerWithin_succ]
  rfl

/-- The text of a value without components is there at once, and the session stays as it is. -/
theorem answer_render_leaf {v : Value} (hv : ∀ a b l, v ≠ .tuple a b l) (text : String) :
    Walk.answerWithin (body options) (n + 1) (.render v text s) =
      some (.ok (text ++ v.leafText), s) := by
  rw [answer_render]
  cases v with
  | tuple a b l => exact absurd rfl (hv a b l)
  | int | str | bool | closure | nil => rfl

/-- An answer takes a level of recursion, and either the limit is reached or it is that of a
step. -/
theorem answer_eq_some {r : Except Failure Value}
    (h : Walk.answerWithin (body options) n (.evaluate t s) = some (r, s')) :
    ∃ k, n = k + 1 ∧
      (r = .error ⟨.stackOverflow s.depth options.depthLimit, t.location⟩ ∧ s' = s ∨
        s.depth < options.depthLimit ∧ ∃ after,
          exec (Walk.answerWithin (body options) k) (step options t) s.deeper = some (r, after) ∧
            s' = after.shallower) := by
  cases n with
  | zero => rw [Walk.answerWithin_zero] at h; cases h
  | succ k =>
    refine ⟨k, rfl, ?_⟩
    by_cases hd : options.depthLimit ≤ s.depth
    · rw [answer_of_limit_le hd] at h
      cases h
      exact .inl ⟨rfl, rfl⟩
    · rw [answer_of_lt_limit (Nat.lt_of_not_le hd)] at h
      obtain ⟨⟨r', after⟩, hstep, heq⟩ := Option.map_eq_some_iff.1 h
      cases heq
      exact .inr ⟨Nat.lt_of_not_le hd, after, hstep, rfl⟩

end Answers

/-! ## Mirrored steps -/

/-- From sessions related by `R`, the first of which satisfies `P`: whatever `m₁` comes to, unless
it is a failure to `skip`, `m₂` comes to the same, and sessions are related again. -/
def Mirrors (o₁ o₂ : (job : Job) → Option job.Answer) (R : Session → Session → Prop)
    (skip : Failure → Prop) (P : Session → Prop) (m₁ m₂ : EvalM α) : Prop :=
  ∀ s₁ s₂, P s₁ → R s₁ s₂ → ∀ r s₁', exec o₁ m₁ s₁ = some (r, s₁') →
    (∀ f, r = .error f → ¬ skip f) → ∃ s₂', exec o₂ m₂ s₂ = some (r, s₂') ∧ R s₁' s₂'

namespace Mirrors

variable {o₁ o₂ : (job : Job) → Option job.Answer} {R : Session → Session → Prop}
  {skip : Failure → Prop} {P : Session → Prop} {m₁ m₂ : EvalM α} {f₁ f₂ : α → EvalM β}

theorem pure {a : α} : Mirrors o₁ o₂ R skip P (pure a) (pure a) := by
  intro s₁ s₂ _ hR r s₁' h _
  cases h
  exact ⟨s₂, rfl, hR⟩

theorem fail {location : Location} {cause : Cause} :
    Mirrors o₁ o₂ R skip P (fail location cause : EvalM α) (fail location cause) := by
  intro s₁ s₂ _ hR r s₁' h _
  cases h
  exact ⟨s₂, rfl, hR⟩

theorem weaken {P' : Session → Prop} (h : Mirrors o₁ o₂ R skip P m₁ m₂) (hP : ∀ s, P' s → P s) :
    Mirrors o₁ o₂ R skip P' m₁ m₂ :=
  fun s₁ s₂ hs => h s₁ s₂ (hP s₁ hs)

theorem assume {p : Prop} (h : p → Mirrors o₁ o₂ R skip P m₁ m₂) :
    Mirrors o₁ o₂ R skip (fun s => p ∧ P s) m₁ m₂ :=
  fun s₁ s₂ hs => h hs.1 s₁ s₂ hs.2

/-- What is known of a value that the first step came to may be used of the second steps. -/
theorem bind {Q : α → Session → Prop} (hm : Mirrors o₁ o₂ R skip P m₁ m₂)
    (hQ : ∀ s a s', P s → exec o₁ m₁ s = some (.ok a, s') → Q a s')
    (hf : ∀ a, Mirrors o₁ o₂ R skip (Q a) (f₁ a) (f₂ a)) :
    Mirrors o₁ o₂ R skip P (m₁ >>= f₁) (m₂ >>= f₂) := by
  intro s₁ s₂ hs hR r s₁'' h hskip
  obtain ⟨a, s₁', ha, h⟩ | ⟨e, he, rfl⟩ := exec_bind_eq_some h
  · obtain ⟨s₂', ha₂, hR'⟩ := hm s₁ s₂ hs hR (.ok a) s₁' ha (fun _ hf => by cases hf)
    rw [exec_bind_of_ok ha₂]
    exact hf a s₁' s₂' (hQ s₁ a s₁' hs ha) hR' r s₁'' h hskip
  · have hskip' : ∀ f, Except.error (α := α) e = .error f → ¬ skip f := by
      intro f hf
      cases hf
      exact hskip e rfl
    obtain ⟨s₂', he₂, hR'⟩ := hm s₁ s₂ hs hR (.error e) s₁'' he hskip'
    exact ⟨s₂', exec_bind_of_error he₂, hR'⟩

/-- Steps that look at their sessions are mirrored if they are for any two related ones. -/
theorem get {f₁ f₂ : Session → EvalM α}
    (hf : ∀ s₁ s₂, P s₁ → R s₁ s₂ → Mirrors o₁ o₂ R skip (· = s₁) (f₁ s₁) (f₂ s₂)) :
    Mirrors o₁ o₂ R skip P (get >>= f₁) (get >>= f₂) := by
  intro s₁ s₂ hs hR r s₁' h hskip
  rw [exec_bind_of_ok exec_get] at h ⊢
  exact hf s₁ s₂ hs hR s₁ s₂ rfl hR r s₁' h hskip

end Mirrors

end Evaluator

/-- A run is an evaluation in an empty scope, after which the scope is what it was. Flushing puts a
failure only in place of a value. -/
theorem Session.run?_eq_some {options : EvalOptions} {levels : Nat} {p : Program} {s s' : Session}
    {r : Except Failure Value} (h : run? options levels p s = some (r, s')) :
    ∃ r' after, evaluate? options levels p.expression { s with scope := ∅ } = some (r', after) ∧
      s' = { after with scope := s.scope } ∧
      (r = r' ∨ ∃ e, r = .error ⟨.output e, p.location⟩) := by
  obtain ⟨⟨r', after⟩, hr, hs⟩ := Option.bind_eq_some_iff.1 h
  simp only [pure, Option.some.injEq, Prod.mk.injEq] at hs
  obtain ⟨rfl, rfl⟩ := hs
  refine ⟨r', after, hr, rfl, ?_⟩
  cases r' with
  | error f => exact .inl rfl
  | ok v =>
    cases after.sink.flush with
    | ok u => exact .inl rfl
    | error e => exact .inr ⟨e, rfl⟩

end Treewalk
