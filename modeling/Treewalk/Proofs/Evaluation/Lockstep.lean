import Treewalk.Proofs.Evaluation.Output

/-!
# Two evaluations in lockstep

A `Pairing` compares two evaluations of the same term that start from sessions which are told apart
by nothing that evaluation looks at. They take the same steps and come to the same, until the first
one halts, with a failure that is its own. From then on only the second one goes on, and its sink
grows. `Pairing.Lawful` lists what has to be shown of a pairing, and `Pairing.Lawful.pairs_answers`
is the result: whole evaluations, within the same number of levels, are in lockstep.

The depth limits of the two may differ. A first evaluation with the smaller limit halts where the
second one goes deeper.
-/

namespace Treewalk.Evaluator

variable {α β : Type}

/-- What keeps two evaluations together, and what sets them apart. -/
structure Pairing where
  /-- The sessions of evaluations that took the same steps so far. -/
  together : Session → Session → Prop
  /-- Failures of the first evaluation that the second one need not share. -/
  halts : Failure → Prop
  /-- The sink of the first evaluation when it halted, and that of the second one later on. -/
  behind : Sink → Sink → Prop

namespace Pairing

variable {p : Pairing} {o₁ o₂ : (job : Job) → Option job.Answer}

/-- Replies of two evaluations in lockstep. -/
inductive Sim (p : Pairing) : Option (Reply α) → Option (Reply α) → Prop
  | none : Sim p none none
  | alike {r : Except Failure α} {s₁ s₂ : Session} (h : p.together s₁ s₂) :
      Sim p (some (r, s₁)) (some (r, s₂))
  | halted {f : Failure} {s₁ : Session} {y : Option (Reply α)} (hf : p.halts f)
      (h : ∀ r s₂, y = some (r, s₂) → p.behind s₁.sink s₂.sink) : Sim p (some (.error f, s₁)) y

/-- Both sessions may be changed as long as they stay together and the sinks are left alone. -/
theorem Sim.map {x y : Option (Reply α)} (h : p.Sim x y) {g₁ g₂ : Session → Session}
    (htogether : ∀ s₁ s₂, p.together s₁ s₂ → p.together (g₁ s₁) (g₂ s₂))
    (hsink₁ : ∀ s, (g₁ s).sink = s.sink) (hsink₂ : ∀ s, (g₂ s).sink = s.sink) :
    p.Sim (x.map (Prod.map id g₁)) (y.map (Prod.map id g₂)) := by
  cases h with
  | none => exact .none
  | alike h => exact .alike (htogether _ _ h)
  | @halted f s₁ y hf hbehind =>
    refine .halted hf fun r s₂ hr => ?_
    obtain ⟨⟨r', s₂'⟩, hy, hr⟩ := Option.map_eq_some_iff.1 hr
    cases hr
    rw [hsink₁, hsink₂]
    exact hbehind _ _ hy

/-- What keeps evaluations in lockstep that use the cache only if `memoize`, down to `limit`. -/
structure Lawful (p : Pairing) (limit : Nat) (memoize : Bool) : Prop where
  scope_eq {s₁ s₂ : Session} : p.together s₁ s₂ → s₁.scope = s₂.scope
  withScope {s₁ s₂ : Session} (scope : Scope) :
    p.together s₁ s₂ → p.together { s₁ with scope := scope } { s₂ with scope := scope }
  depth_eq {s₁ s₂ : Session} : p.together s₁ s₂ → s₁.depth = s₂.depth
  deeper {s₁ s₂ : Session} : p.together s₁ s₂ → s₁.depth < limit → p.together s₁.deeper s₂.deeper
  shallower {s₁ s₂ : Session} : p.together s₁ s₂ → p.together s₁.shallower s₂.shallower
  cache_eq {s₁ s₂ : Session} : memoize = true → p.together s₁ s₂ → s₁.cache = s₂.cache
  prints_eq {s₁ s₂ : Session} : memoize = true → p.together s₁ s₂ → s₁.prints = s₂.prints
  withCache {s₁ s₂ : Session} (cache : Cache) : memoize = true → p.together s₁ s₂ →
    p.together { s₁ with cache := cache } { s₂ with cache := cache }
  line {o₁ o₂ : (job : Job) → Option job.Answer} {s₁ s₂ : Session} (location : Location)
    (text : String) : p.together s₁ s₂ →
    p.Sim (exec o₁ (printLine location text) s₁) (exec o₂ (printLine location text) s₂)
  behind_grows {a b c : Sink} : p.behind a b → b.Grows c → p.behind a c

/-- The step is taken in lockstep, with jobs answered by `o₁` and by `o₂`. Its sink grows in any
case, so that the second evaluation can go on alone. -/
structure Pairs (p : Pairing) (o₁ o₂ : (job : Job) → Option job.Answer) (m : EvalM α) : Prop where
  sim {s₁ s₂ : Session} : p.together s₁ s₂ → p.Sim (exec o₁ m s₁) (exec o₂ m s₂)
  grows {s s' : Session} {r : Except Failure α} :
    exec o₂ m s = some (r, s') → s.sink.Grows s'.sink

/-! ## Rules for the operations -/

theorem Pairs.pure (a : α) : p.Pairs o₁ o₂ (pure a) where
  sim h := .alike h
  grows h := by cases h; exact .refl _

theorem Pairs.fail (location : Location) (cause : Cause) :
    p.Pairs o₁ o₂ (fail location cause : EvalM α) where
  sim h := .alike h
  grows h := by cases h; exact .refl _

/-- A step may look at its session if it sees the same in both. -/
theorem Pairs.get {f : Session → EvalM α}
    (heq : ∀ s₁ s₂, p.together s₁ s₂ → f s₁ = f s₂) (hf : ∀ s, p.Pairs o₁ o₂ (f s)) :
    p.Pairs o₁ o₂ (get >>= f) where
  sim {s₁ s₂} h := by
    rw [exec_bind_of_ok exec_get, exec_bind_of_ok exec_get, heq s₁ s₂ h]
    exact (hf s₂).sim h
  grows {s _ _} h := by
    rw [exec_bind_of_ok exec_get] at h
    exact (hf s).grows h

theorem Pairs.modify {f : Session → Session}
    (hf : ∀ s₁ s₂, p.together s₁ s₂ → p.together (f s₁) (f s₂))
    (hsink : ∀ s, (f s).sink = s.sink) : p.Pairs o₁ o₂ (modify f : EvalM Unit) where
  sim h := .alike (hf _ _ h)
  grows {s _ _} h := by
    cases h
    exact (hsink s).symm ▸ .refl _

namespace Lawful

variable {memoize : Bool} {limit : Nat}

theorem pairs_bind (hl : p.Lawful limit memoize) {m : EvalM α} {f : α → EvalM β}
    (hm : p.Pairs o₁ o₂ m) (hf : ∀ a, p.Pairs o₁ o₂ (f a)) : p.Pairs o₁ o₂ (m >>= f) := by
  refine ⟨fun {s₁ s₂} h => ?_, fun {s s'' r} h => ?_⟩
  · have hsim := hm.sim h
    rw [exec_bind, exec_bind]
    generalize exec o₁ m s₁ = x at hsim ⊢
    generalize exec o₂ m s₂ = y at hsim ⊢
    cases hsim with
    | none => exact .none
    | @alike r s₁' s₂' h' =>
      cases r with
      | ok a => exact (hf a).sim h'
      | error e => exact .alike h'
    | @halted e s₁' _ he hbehind =>
      refine .halted he fun r s₂'' hr => ?_
      -- the second evaluation goes on from where it was when the first one halted
      obtain ⟨⟨r', s₂'⟩, hy, hr⟩ := Option.bind_eq_some_iff.1 hr
      cases r' with
      | ok a => exact hl.behind_grows (hbehind _ _ hy) ((hf a).grows hr)
      | error e' => cases hr; exact hbehind _ _ hy
  · obtain ⟨a, s', ha, h⟩ | ⟨e, he, rfl⟩ := exec_bind_eq_some h
    · exact (hm.grows ha).trans ((hf a).grows h)
    · exact hm.grows he

theorem pairs_bindName (hl : p.Lawful limit memoize) (name : String) (v : Value) :
    p.Pairs o₁ o₂ (bindName name v) := by
  refine Pairs.modify (fun s₁ s₂ h => ?_) fun _ => rfl
  rw [hl.scope_eq h]
  exact hl.withScope _ h

theorem pairs_printLine (hl : p.Lawful limit memoize) (location : Location) (text : String) :
    p.Pairs o₁ o₂ (printLine location text) := by
  refine ⟨hl.line location text, fun {s s' r} h => ?_⟩
  rw [exec_printLine] at h
  rcases hw : s.sink.writeLine text with ⟨e | u, sink⟩
  · rw [hw] at h
    cases h
    exact Sink.grows_writeLine hw
  · rw [hw] at h
    cases h
    exact Sink.grows_writeLine hw

theorem pairs_askCache (hl : p.Lawful limit memoize) (hmemoize : memoize = true) (key : String) :
    p.Pairs o₁ o₂ (askCache key) := by
  refine ⟨fun {s₁ s₂} h => ?_, fun h => by cases h; exact .refl _⟩
  rw [exec_askCache, exec_askCache, hl.cache_eq hmemoize h]
  exact .alike (hl.withCache _ hmemoize h)

theorem pairs_remember (hl : p.Lawful limit memoize) (hmemoize : memoize = true) (key : String)
    (v : Value) :
    p.Pairs o₁ o₂ (modify fun s => { s with cache := s.cache.insert key v } : EvalM Unit) := by
  refine Pairs.modify (fun s₁ s₂ h => ?_) fun _ => rfl
  rw [hl.cache_eq hmemoize h]
  exact hl.withCache _ hmemoize h

variable (hl : p.Lawful limit memoize) (he : ∀ t, p.Pairs o₁ o₂ (evaluate t))

include hl he

theorem pairs_evaluateIn (frame : Scope) (t : Term) : p.Pairs o₁ o₂ (evaluateIn frame t) := by
  refine ⟨fun {s₁ s₂} h => ?_, fun {s s' r} h => ?_⟩
  · have hsim := (he t).sim (hl.withScope frame h)
    rw [exec_evaluate, exec_evaluate] at hsim
    rw [exec_evaluateIn, exec_evaluateIn, hl.scope_eq h]
    exact hsim.map (fun _ _ => hl.withScope s₂.scope) (fun _ => rfl) fun _ => rfl
  · obtain ⟨s'', hr, rfl⟩ := exec_evaluateIn_eq_some h
    have hsink := (he t).grows ((exec_evaluate t).trans hr)
    exact hsink

theorem pairs_bindArguments (pairs : List (Parameter × Term)) (frame : Scope)
    (values : List Value) : p.Pairs o₁ o₂ (bindArguments pairs frame values) := by
  induction pairs generalizing frame values with
  | nil => exact .pure _
  | cons q pairs ih => exact hl.pairs_bind (he q.2) fun v => ih _ _

theorem pairs_enter {key? : Option String} (hkey : ∀ key, key? = some key → memoize = true)
    (frame : Scope) (t : Term) : p.Pairs o₁ o₂ (enter key? frame t) := by
  cases key? with
  | none => exact hl.pairs_evaluateIn he frame t
  | some key =>
    have hmemoize := hkey key rfl
    have hprints : ∀ s₁ s₂, p.together s₁ s₂ → s₁.prints = s₂.prints := fun _ _ =>
      hl.prints_eq hmemoize
    refine hl.pairs_bind (hl.pairs_askCache hmemoize key) fun found => ?_
    cases found with
    | some v => exact .pure v
    | none =>
      refine .get (fun s₁ s₂ h => by simp only [hprints s₁ s₂ h]) fun before => ?_
      refine hl.pairs_bind (hl.pairs_evaluateIn he frame t) fun v => ?_
      refine .get (fun s₁ s₂ h => by simp only [hprints s₁ s₂ h]) fun after => ?_
      by_cases hp : after.prints = before.prints
      · simp only [hp, ↓reduceIte]
        exact hl.pairs_bind (hl.pairs_remember hmemoize key v) fun _ => .pure v
      · simp only [hp, ↓reduceIte]
        exact .pure v

theorem pairs_call (callee : Term) (arguments : List Term) (location : Location) :
    p.Pairs o₁ o₂ (call ⟨limit, memoize⟩ callee arguments location) := by
  refine hl.pairs_bind (he callee) fun v => ?_
  cases v with
  | closure parameters body definition =>
    by_cases hlen : parameters.length = arguments.length
    · simp only [hlen, ne_eq, not_true_eq_false, ↓reduceIte]
      refine .get (fun s₁ s₂ h => by rw [hl.scope_eq h]) fun s => ?_
      refine hl.pairs_bind (hl.pairs_bindArguments he _ _ _) fun x => ?_
      refine hl.pairs_enter he (fun key hkey => ?_) _ _
      split at hkey
      · assumption
      · cases hkey
    · simp only [hlen, ne_eq, not_false_eq_true, ↓reduceIte]
      exact .fail _ _
  | int | str | bool | tuple | nil => exact .fail _ _

theorem pairs_project (operand : Term) (location : Location) (part : Term × Term → Term) :
    p.Pairs o₁ o₂ (do
      let v ← evaluate operand
      let x ← components location v
      evaluate (part x)) := by
  refine hl.pairs_bind (he operand) fun v => ?_
  cases v with
  | tuple a b l => exact he (part (a, b))
  | int | str | bool | closure | nil => exact .fail _ _

variable (hr : ∀ v text, p.Pairs o₁ o₂ (render v text))

include hr

/-- One level of evaluation is in lockstep if what it asks for is. -/
theorem pairs_step (t : Term) :
    p.Pairs o₁ o₂ (step ⟨limit, memoize⟩ t) := by
  cases t with
  | int | str | bool | function | tuple => exact .pure _
  | var name location =>
    refine .get (fun s₁ s₂ h => by rw [hl.scope_eq h]) fun s => ?_
    cases s.scope.lookup? name with
    | some v => exact .pure v
    | none => exact .fail _ _
  | call callee arguments location => exact hl.pairs_call he callee arguments location
  | letIn name value next location =>
    refine hl.pairs_bind (he value) fun v => ?_
    exact hl.pairs_bind (hl.pairs_bindName _ _) fun _ => he next
  | cond condition yes no location =>
    refine hl.pairs_bind (he condition) fun v => ?_
    cases v with
    | bool b =>
      cases b with
      | true => exact he yes
      | false => exact he no
    | int | str | closure | tuple | nil => exact .fail _ _
  | binary lhs op rhs location =>
    refine hl.pairs_bind (he lhs) fun a => hl.pairs_bind (he rhs) fun b => ?_
    cases op.apply a b with
    | ok v => exact .pure v
    | error cause => exact .fail _ _
  | print operand location =>
    refine hl.pairs_bind (he operand) fun v => ?_
    exact hl.pairs_bind (hr v "") fun _ => hl.pairs_printLine _ _
  | first operand location => exact hl.pairs_project he operand location Prod.fst
  | second operand location => exact hl.pairs_project he operand location Prod.snd

theorem pairs_renderStep (v : Value) (text : String) : p.Pairs o₁ o₂ (renderStep v text) := by
  cases v with
  | tuple a b location =>
    refine hl.pairs_bind (he a) fun first => hl.pairs_bind (he b) fun second => ?_
    exact hl.pairs_bind (hr first _) fun _ => hl.pairs_bind (hr second _) fun _ => .pure _
  | int | str | bool | closure | nil => exact .pure _

omit hl he hr

/-! ## Whole evaluations -/

/-- Evaluations with the limits `limit` and `limit'` are in lockstep. Where the first one reaches
its limit and the second one has a larger limit, the first one halts. -/
theorem pairs_answers (hl : p.Lawful limit memoize) {limit' : Nat} (hle : limit ≤ limit')
    (hhalts : limit < limit' → ∀ s₁ s₂ l, p.together s₁ s₂ → limit ≤ s₁.depth →
      p.halts ⟨.stackOverflow s₁.depth limit, l⟩)
    (hbehind : limit < limit' → ∀ s₁ s₂, p.together s₁ s₂ → p.behind s₁.sink s₂.sink) (n : Nat) :
    (∀ t, p.Pairs (Walk.answerWithin (body ⟨limit, memoize⟩) n)
      (Walk.answerWithin (body ⟨limit', memoize⟩) n) (evaluate t)) ∧
    ∀ v text, p.Pairs (Walk.answerWithin (body ⟨limit, memoize⟩) n)
      (Walk.answerWithin (body ⟨limit', memoize⟩) n) (render v text) := by
  induction n with
  | zero =>
    refine ⟨fun t => ⟨fun _ => ?_, fun h => ?_⟩, fun v text => ⟨fun _ => ?_, fun h => ?_⟩⟩
    · rw [exec_evaluate, exec_evaluate, Walk.answerWithin_zero, Walk.answerWithin_zero]
      exact .none
    · rw [exec_evaluate, Walk.answerWithin_zero] at h
      cases h
    · rw [exec_render, exec_render, Walk.answerWithin_zero, Walk.answerWithin_zero]
      exact .none
    · rw [exec_render, Walk.answerWithin_zero] at h
      cases h
  | succ n ih =>
    obtain ⟨he, hr⟩ := ih
    refine ⟨fun t => ⟨fun {s₁ s₂} h => ?_, fun h => ?_⟩,
      fun v text => ⟨fun {s₁ s₂} h => ?_, fun h => ?_⟩⟩
    · rw [exec_evaluate, exec_evaluate]
      by_cases hlt : s₁.depth < limit
      · have hlt₂ : s₂.depth < limit := hl.depth_eq h ▸ hlt
        rw [answer_of_lt_limit hlt, answer_of_lt_limit (Nat.lt_of_lt_of_le hlt₂ hle)]
        -- a step does not look at the limit, so both take the same one
        exact ((hl.pairs_step he hr t).sim (hl.deeper h hlt)).map (fun _ _ => hl.shallower)
          (fun _ => rfl) fun _ => rfl
      · have hreached : limit ≤ s₁.depth := Nat.le_of_not_lt hlt
        rw [answer_of_limit_le hreached]
        by_cases hlt' : limit < limit'
        · exact .halted (hhalts hlt' _ _ _ h hreached) fun r s₂' hr =>
            hl.behind_grows (hbehind hlt' _ _ h) (sink_grows hr)
        · obtain rfl : limit' = limit := Nat.le_antisymm (Nat.le_of_not_lt hlt') hle
          rw [answer_of_limit_le (hl.depth_eq h ▸ hreached), hl.depth_eq h]
          exact .alike h
    · exact sink_grows ((exec_evaluate ..).symm.trans h)
    · rw [exec_render, exec_render, answer_render, answer_render]
      exact (hl.pairs_renderStep he hr v text).sim h
    · exact sink_grows ((exec_render ..).symm.trans h)

end Lawful

end Pairing

end Treewalk.Evaluator
