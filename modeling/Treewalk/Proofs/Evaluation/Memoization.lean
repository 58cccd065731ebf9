import Mathlib
import Treewalk.Proofs.Evaluation.Invariant
import Treewalk.Proofs.Evaluation.Quiet

/-!
# Memoization is transparent

A first-order program comes to the same value or failure, and prints the same, whether calls are
answered from the cache or not, as long as it does not run into the limit on depth. The two
evaluations are compared step by step (`Mirrors`), in sessions that differ in their caches only
(`Tracks`). The invariant of the cache is that every result in it is that of a quiet evaluation of
the call whose signature it stands under (`Cache.Justified`). Since bodies are closed, such a result
does not depend on the scope the call was made in, and a call of the same signature either comes to
it again or runs into the limit.

With the cache a program needs less depth, so the limit is the one thing that is not mirrored.
-/

namespace Treewalk

open Definition

/-- Every result in the cache is that of a quiet evaluation of the calls with its signature. -/
def Cache.Justified (defs : List Definition) (c : Cache) : Prop :=
  ∀ d ∈ defs, ∀ (l : Location) (vs : List Value) (key : String) (v : Value),
    (∀ w ∈ vs, w.IsScalar) → signature? (.var d.name.name l) d.place vs = some key →
      c.entries[key]? = some v →
        ∃ sc frame : Scope, sc.Defines defs ∧ Quiet (sc.bindAll d.parameters vs) d.body v frame

theorem Cache.justified_empty (defs : List Definition) : (∅ : Cache).Justified defs := by
  intro d _ l vs key v _ _ h
  simp at h

/-- To ask the cache changes its counts only. -/
theorem Cache.Justified.get? {defs : List Definition} {c : Cache} (hc : c.Justified defs)
    (key : String) : (c.get? key).2.Justified defs := by
  unfold Justified
  rwa [entries_get?_snd]

/-- A quiet evaluation may be remembered under its signature, which no other call has. -/
theorem Cache.Justified.insert {defs : List Definition} {c : Cache} (hc : c.Justified defs)
    (hlib : FirstOrderLibrary defs) {d : Definition} (hd : d ∈ defs) {l : Location}
    {vs : List Value} {key : String} {v : Value} (hvs : ∀ w ∈ vs, w.IsScalar)
    (hkey : signature? (.var d.name.name l) d.place vs = some key) {sc frame : Scope}
    (hsc : sc.Defines defs) (hq : Quiet (sc.bindAll d.parameters vs) d.body v frame) :
    (c.insert key v).Justified defs := by
  intro d' hd' l' vs' key' v' hvs' hkey' hv'
  rw [Cache.entries_insert, Std.HashMap.getElem?_insert] at hv'
  split at hv'
  · next heq =>
    obtain rfl : key = key' := eq_of_beq heq
    obtain ⟨hname, rfl⟩ := signature?_injective (hlib.no_comma _ (List.mem_map_of_mem hd))
      (hlib.no_comma _ (List.mem_map_of_mem hd')) hvs hvs' hkey hkey'
    obtain rfl := List.inj_on_of_nodup_map hlib.distinct hd hd' hname
    cases hv'
    exact ⟨sc, frame, hsc, hq⟩
  · exact hc d' hd' l' vs' key' v' hvs' hkey' hv'

namespace Evaluator

variable {limit : Nat} {defs : List Definition}

/-- Answers of an evaluation that asks the cache, within `n` levels. -/
def memoizing (limit n : Nat) : (job : Job) → Option job.Answer :=
  Walk.answerWithin (body ⟨limit, true⟩) n

/-- Sessions that differ in their caches only, the second of which is justified. -/
structure Tracks (defs : List Definition) (s₁ s₂ : Session) : Prop where
  scope_eq : s₂.scope = s₁.scope
  sink_eq : s₂.sink = s₁.sink
  prints_eq : s₂.prints = s₁.prints
  depth_eq : s₂.depth = s₁.depth
  justified : s₂.cache.Justified defs

theorem Tracks.deeper {s₁ s₂ : Session} (h : Tracks defs s₁ s₂) :
    Tracks defs s₁.deeper s₂.deeper :=
  ⟨h.scope_eq, h.sink_eq, h.prints_eq, congrArg (· + 1) h.depth_eq, h.justified⟩

theorem Tracks.shallower {s₁ s₂ : Session} (h : Tracks defs s₁ s₂) :
    Tracks defs s₁.shallower s₂.shallower :=
  ⟨h.scope_eq, h.sink_eq, h.prints_eq, congrArg (· - 1) h.depth_eq, h.justified⟩

/-- What the first step comes to without the cache, the second comes to with it. -/
abbrev Tracked {α : Type} (limit n : Nat) (defs : List Definition) (P : Session → Prop)
    (m₁ m₂ : EvalM α) : Prop :=
  Mirrors (plainly limit n) (memoizing limit n) (Tracks defs) (fun f => f.cause.isResource = true)
    P m₁ m₂

/-- Terms are evaluated alike within `n` levels. -/
abbrev TrackedTerms (limit n : Nat) (defs : List Definition) : Prop :=
  ∀ {t : Term} {bound : String → Prop}, t.FirstOrder (names defs) bound →
    Tracked limit n defs (fun s => s.scope.Provides defs) (evaluate t) (evaluate t)

section Steps

variable {n : Nat} {P : Session → Prop}

/-- Evaluation is tracked if steps are, one level deeper. -/
theorem tracked_evaluate {t : Term} (hP : ∀ s, P s → P s.deeper)
    (h : ∀ k, n = k + 1 → Tracked limit k defs P (step ⟨limit, false⟩ t) (step ⟨limit, true⟩ t)) :
    Tracked limit n defs P (evaluate t) (evaluate t) := by
  intro s₁ s₂ hs hR r s₁' hr hskip
  rw [exec_evaluate] at hr ⊢
  cases n with
  | zero => cases (Walk.answerWithin_zero _ _).symm.trans hr
  | succ n =>
    unfold plainly at hr
    unfold memoizing
    by_cases hd : limit ≤ s₁.depth
    · rw [answer_of_limit_le hd] at hr
      rw [answer_of_limit_le (hR.depth_eq ▸ hd), hR.depth_eq]
      cases hr
      exact ⟨s₂, rfl, hR⟩
    · have hd : s₁.depth < limit := Nat.lt_of_not_le hd
      rw [answer_of_lt_limit hd] at hr
      obtain ⟨⟨r, after⟩, hafter, hr⟩ := Option.map_eq_some_iff.1 hr
      cases hr
      obtain ⟨after₂, hafter₂, hR'⟩ := h n rfl _ _ (hP s₁ hs) hR.deeper r after hafter hskip
      have hafter₂ : exec (Walk.answerWithin (body ⟨limit, true⟩) n) (step ⟨limit, true⟩ t)
          s₂.deeper = some (r, after₂) := hafter₂
      exact ⟨after₂.shallower, answer_of_exec (hR.depth_eq ▸ hd) hafter₂, hR'.shallower⟩

theorem tracked_bindName {x : String} {v : Value} :
    Tracked limit n defs P (bindName x v) (bindName x v) := by
  intro s₁ s₂ _ hR r s₁' hr _
  rw [exec_bindName] at hr ⊢
  cases hr
  exact ⟨_, rfl, congrArg (·.bind x v) hR.scope_eq, hR.sink_eq, hR.prints_eq, hR.depth_eq,
    hR.justified⟩

theorem tracked_printLine {l : Location} {text : String} :
    Tracked limit n defs P (printLine l text) (printLine l text) := by
  intro s₁ s₂ _ hR r s₁' hr _
  rw [exec_printLine] at hr ⊢
  rw [hR.sink_eq]
  rcases hw : s₁.sink.writeLine text with ⟨e | u, sink⟩
  · rw [hw] at hr
    cases hr
    exact ⟨_, rfl, hR.scope_eq, rfl, hR.prints_eq, hR.depth_eq, hR.justified⟩
  · rw [hw] at hr
    cases hr
    exact ⟨_, rfl, hR.scope_eq, rfl, congrArg (· + 1) hR.prints_eq, hR.depth_eq, hR.justified⟩

theorem tracked_render {v : Value} (hv : v.IsPlain defs) {text : String} :
    Tracked limit n defs P (render v text) (render v text) := by
  intro s₁ s₂ _ hR r s₁' hr _
  rw [exec_render] at hr ⊢
  cases n with
  | zero => cases (Walk.answerWithin_zero _ _).symm.trans hr
  | succ n =>
    have hr := (answer_render_leaf hv.ne_tuple text).symm.trans hr
    cases hr
    exact ⟨s₂, answer_render_leaf hv.ne_tuple text, hR⟩

/-- Of the value of a first-order term it may be assumed that it is plain. -/
theorem tracked_evaluate_bind {α : Type} (hlib : FirstOrderLibrary defs)
    (ih : TrackedTerms limit n defs) {t : Term} {bound : String → Prop}
    (ht : t.FirstOrder (names defs) bound) {f₁ f₂ : Value → EvalM α}
    (hf : ∀ v, v.IsPlain defs →
      Tracked limit n defs (fun s => s.scope.Provides defs) (f₁ v) (f₂ v)) :
    Tracked limit n defs (fun s => s.scope.Provides defs) (evaluate t >>= f₁)
      (evaluate t >>= f₂) := by
  refine .bind (ih ht) (fun s v s' hs hv => ?_) fun v => .assume (hf v)
  rw [exec_evaluate] at hv
  have := leads_of_answer hlib ht hs hv
  exact ⟨this.plain, this.provides⟩

theorem tracked_bindArguments (hlib : FirstOrderLibrary defs) (ih : TrackedTerms limit n defs)
    {bound : String → Prop} {pairs : List (Parameter × Term)}
    (hp : ∀ p ∈ pairs, p.2.FirstOrder (names defs) bound) (frame : Scope) (values : List Value) :
    Tracked limit n defs (fun s => s.scope.Provides defs) (bindArguments pairs frame values)
      (bindArguments pairs frame values) := by
  induction pairs generalizing frame values with
  | nil => exact .pure
  | cons p pairs ihp =>
    exact tracked_evaluate_bind hlib ih (hp p List.mem_cons_self) fun v _ =>
      ihp (fun q hq => hp q (List.mem_cons_of_mem _ hq)) _ _

theorem tracked_evaluateIn (hlib : FirstOrderLibrary defs) (ih : TrackedTerms limit n defs)
    {d : Definition} (hd : d ∈ defs) {frame : Scope} (hframe : frame.Provides defs) :
    Tracked limit n defs P (evaluateIn frame d.body) (evaluateIn frame d.body) := by
  intro s₁ s₂ _ hR r s₁' hr hskip
  obtain ⟨s, hs, rfl⟩ := exec_evaluateIn_eq_some hr
  have hframes : Tracks defs { s₁ with scope := frame } { s₂ with scope := frame } :=
    ⟨rfl, hR.sink_eq, hR.prints_eq, hR.depth_eq, hR.justified⟩
  obtain ⟨s', hs', hR'⟩ := ih (hlib.bodies d hd) _ _ hframe hframes r s
    ((exec_evaluate ..).trans hs) hskip
  rw [exec_evaluate] at hs'
  rw [exec_evaluateIn, hs']
  exact ⟨_, rfl, hR.scope_eq, hR'.sink_eq, hR'.prints_eq, hR'.depth_eq, hR'.justified⟩

/-- What is in the cache is what the body comes to, if it is evaluated all the same. -/
theorem eq_of_quiet (hlib : FirstOrderLibrary defs) {d : Definition} (hd : d ∈ defs)
    {scope sc frame : Scope} (hscope : scope.Defines defs) (hsc : sc.Defines defs)
    {vs : List Value} (hlen : d.parameters.length = vs.length) {v : Value}
    (hq : Quiet (sc.bindAll d.parameters vs) d.body v frame) {s s' : Session}
    (hs : s.scope.Defines defs) {r : Except Failure Value}
    (hr : exec (plainly limit n) (evaluateIn (scope.bindAll d.parameters vs) d.body) s =
      some (r, s')) (hskip : ∀ f, r = .error f → ¬ f.cause.isResource = true) :
    r = .ok v ∧ s'.scope = s.scope ∧ s'.sink = s.sink ∧ s'.prints = s.prints ∧
      s'.depth = s.depth := by
  have hbody : Determines limit defs (sc.bindAll d.parameters vs) d.body v frame :=
    determines_of_quiet hlib hq
  have hrepeats : Repeats limit n defs (· ∈ names defs) s.scope
      (evaluateIn (scope.bindAll d.parameters vs) d.body) v s.scope :=
    repeats_evaluateIn hlib hd (fun _ h => h) hlen hscope (hsc.agree hscope)
      (hbody (fun _ => .inl) (hlib.bodies d hd) n)
  have hsettles := (hrepeats s.sink s.prints).settles ⟨hs, fun _ _ => rfl, rfl, rfl⟩ hr
  obtain ⟨s'', hbody, rfl⟩ := exec_evaluateIn_eq_some hr
  unfold plainly at hbody
  have hdepth := depth_eq_of_answer hbody
  cases r with
  | error f => exact absurd hsettles (hskip f rfl)
  | ok w =>
    exact ⟨congrArg _ hsettles.1, rfl, hsettles.2.sink_eq, hsettles.2.prints_eq, hdepth⟩

/-- A body is entered alike, whether its value is in the cache, or remembered, or neither. -/
theorem tracked_enter (hlib : FirstOrderLibrary defs) (ih : TrackedTerms limit n defs)
    {d : Definition} (hd : d ∈ defs) {scope : Scope} (hscope : scope.Provides defs)
    {vs : List Value} (hlen : d.parameters.length = vs.length) (hvs : ∀ v ∈ vs, v.IsPlain defs)
    (l : Location) :
    Tracked limit n defs (fun s => s.scope.Provides defs)
      (evaluateIn (scope.bindAll d.parameters vs) d.body)
      (enter (signature? (.var d.name.name l) d.place vs) (scope.bindAll d.parameters vs)
        d.body) := by
  have hframe := hscope.bindAll (hlib.parameters d hd) hvs
  have hbody : Tracked limit n defs (fun s => s.scope.Provides defs)
      (evaluateIn _ d.body) (evaluateIn _ d.body) :=
    tracked_evaluateIn hlib ih hd hframe
  intro s₁ s₂ hs hR r s₁' hr hskip
  cases hkey : signature? (.var d.name.name l) d.place vs with
  | none => exact hbody s₁ s₂ hs hR r s₁' hr hskip
  | some key =>
    have hscalar := Value.IsPlain.isScalar_of_signature hvs hkey
    cases hv : s₂.cache.entries[key]? with
    | some v =>
      -- a hit: the body was evaluated on the other side only, and came to what the cache holds
      obtain ⟨sc, frame, hsc, hq⟩ := hR.justified d hd l vs key v hscalar hkey hv
      obtain ⟨rfl, hscope', hsink, hprints, hdepth⟩ :=
        eq_of_quiet hlib hd hscope.defines hsc hlen hq hs.defines hr hskip
      rw [exec_enter_of_hit hv]
      exact ⟨_, rfl, hR.scope_eq.trans hscope'.symm, hR.sink_eq.trans hsink.symm,
        hR.prints_eq.trans hprints.symm, hR.depth_eq.trans hdepth.symm, hR.justified.get? key⟩
    | none =>
      -- a miss: the body is evaluated on both sides, and remembered if it turned out quiet
      have hasked : Tracks defs s₁ { s₂ with cache := (s₂.cache.get? key).2 } :=
        ⟨hR.scope_eq, hR.sink_eq, hR.prints_eq, hR.depth_eq, hR.justified.get? key⟩
      obtain ⟨s₂', hr₂, hR'⟩ := hbody s₁ _ hs hasked r s₁' hr hskip
      rw [exec_enter_of_miss hv, hr₂]
      cases r with
      | error e => exact ⟨s₂', rfl, hR'⟩
      | ok v =>
        simp only [Option.map_some]
        by_cases hp : s₂'.prints = s₂.prints
        · rw [if_pos hp]
          refine ⟨_, rfl, ?_⟩
          obtain ⟨s, hs', rfl⟩ := exec_evaluateIn_eq_some hr
          have hprints : s.prints = s₁.prints := by
            rw [← hR.prints_eq, ← hp]
            exact hR'.prints_eq.symm
          have hq := (leads_of_answer hlib (hlib.bodies d hd) hframe hs').quiet hprints
          exact ⟨hR'.scope_eq, hR'.sink_eq, hR'.prints_eq, hR'.depth_eq,
            hR'.justified.insert hlib hd hscalar hkey hscope.defines hq⟩
        · rw [if_neg hp]
          exact ⟨s₂', rfl, hR'⟩

theorem tracked_call (hlib : FirstOrderLibrary defs) (ih : TrackedTerms limit n defs)
    {bound : String → Prop} {f : String} {arguments : List Term} {l l' : Location}
    (hf : f ∈ names defs) (ha : ∀ a ∈ arguments, a.FirstOrder (names defs) bound) :
    Tracked limit n defs (fun s => s.scope.Provides defs)
      (call ⟨limit, false⟩ (.var f l) arguments l')
      (call ⟨limit, true⟩ (.var f l) arguments l') := by
  obtain ⟨d, hd, rfl⟩ := List.mem_map.1 hf
  have hvar : (Term.var d.name.name l).FirstOrder (names defs) fun _ => True := .var trivial
  have hcallee : ∀ s v s', s.scope.Provides defs →
      exec (plainly limit n) (evaluate (.var d.name.name l)) s = some (.ok v, s') →
        v = d.closure ∧ s'.scope.Provides defs := by
    intro s v s' hs hv
    rw [exec_evaluate] at hv
    obtain ⟨k, after, -, -, hstep, rfl⟩ := succeeds_of_answer hv
    cases hstep with
    | var hx => exact ⟨Option.some.inj (hx.symm.trans (hs.defines d hd)), hs⟩
  refine .bind (ih hvar) hcallee fun v => .assume ?_
  rintro rfl
  by_cases hlen : d.parameters.length = arguments.length
  · simp only [Definition.closure, hlen, ne_eq, not_true_eq_false, ↓reduceIte]
    refine .get fun s₁ s₂ hs hR => ?_
    rw [hR.scope_eq]
    have harguments : ∀ s x s', s = s₁ →
        exec (plainly limit n) (bindArguments (d.parameters.zip arguments) s₁.scope []) s =
          some (.ok x, s') →
        (∃ vs, d.parameters.length = vs.length ∧ (∀ v ∈ vs, v.IsPlain defs) ∧
          x = (s₁.scope.bindAll d.parameters vs, vs)) ∧ s'.scope.Provides defs := by
      rintro s x s' rfl hx
      obtain ⟨vs, hthreads, rfl⟩ := threads_of_bindArguments hlen hx
      have hleads := leadsAll_of_threads hthreads
        (fun a h _ _ _ hs hv => leads_of_answer hlib (ha a h) hs hv) hs
      exact ⟨⟨vs, hlen.trans hthreads.length_eq.symm, hleads.plain, rfl⟩, hleads.provides⟩
    have hbound : ∀ p ∈ d.parameters.zip arguments, p.2.FirstOrder (names defs) bound :=
      fun p hp => ha p.2 (List.of_mem_zip hp).2
    refine .bind ((tracked_bindArguments hlib ih hbound _ _).weaken fun s h => h ▸ hs) harguments
      fun x => .assume ?_
    rintro ⟨vs, hvs, hplain, rfl⟩
    exact tracked_enter hlib ih hd hs hvs hplain l
  · simp only [Definition.closure, hlen, ne_eq, not_false_eq_true, ↓reduceIte]
    exact .fail

theorem tracked_step (hlib : FirstOrderLibrary defs) (ih : TrackedTerms limit n defs) {t : Term}
    {bound : String → Prop} (ht : t.FirstOrder (names defs) bound) :
    Tracked limit n defs (fun s => s.scope.Provides defs) (step ⟨limit, false⟩ t)
      (step ⟨limit, true⟩ t) := by
  cases ht with
  | int | bool => exact .pure
  | @var _ x l _ =>
    refine .get fun s₁ s₂ _ hR => ?_
    rw [hR.scope_eq]
    cases s₁.scope.lookup? x with
    | some v => exact .pure
    | none => exact .fail
  | call hf ha => exact tracked_call hlib ih hf ha
  | letIn hx hvalue hnext =>
    refine tracked_evaluate_bind hlib ih hvalue fun v hv => ?_
    refine .bind tracked_bindName (fun s _ s' hs h => ?_) fun _ => ih hnext
    cases h
    exact hs.bind hx hv
  | cond hcondition hyes hno =>
    refine tracked_evaluate_bind hlib ih hcondition fun v _ => ?_
    cases v with
    | bool b =>
      cases b with
      | true => exact ih hyes
      | false => exact ih hno
    | int | str | closure | tuple | nil => exact .fail
  | @binary _ _ _ op _ hlhs hrhs =>
    refine tracked_evaluate_bind hlib ih hlhs fun a _ => ?_
    refine tracked_evaluate_bind hlib ih hrhs fun b _ => ?_
    cases op.apply a b with
    | ok v => exact .pure
    | error cause => exact .fail
  | print hoperand =>
    refine tracked_evaluate_bind hlib ih hoperand fun v hv => ?_
    exact .bind (Q := fun _ _ => True) (tracked_render hv) (fun _ _ _ _ _ => trivial)
      fun text => tracked_printLine
  | first hoperand =>
    refine tracked_evaluate_bind hlib ih hoperand fun v hv => ?_
    cases v with
    | tuple a b l => exact absurd rfl (hv.ne_tuple a b l)
    | int | str | bool | closure | nil => exact .fail
  | second hoperand =>
    refine tracked_evaluate_bind hlib ih hoperand fun v hv => ?_
    cases v with
    | tuple a b l => exact absurd rfl (hv.ne_tuple a b l)
    | int | str | bool | closure | nil => exact .fail

end Steps

theorem trackedTerms (hlib : FirstOrderLibrary defs) (n : Nat) : TrackedTerms limit n defs := by
  induction n with
  | zero => exact fun _ => tracked_evaluate (fun _ hs => hs) fun k hk => by cases hk
  | succ n ih =>
    refine fun ht => tracked_evaluate (fun _ hs => hs) fun k hk => ?_
    obtain rfl : n = k := Nat.succ.inj hk
    exact tracked_step hlib ih ht

/-- Definitions are made one after another, first those in `before` and then those that are left,
and then the main term is evaluated. -/
theorem tracked_chain (hlib : FirstOrderLibrary defs) {main : Term} {bound : String → Prop}
    (hmain : main.FirstOrder (names defs) bound) {before rest : List Definition}
    (hdefs : before ++ rest = defs) (n : Nat) :
    Tracked limit n defs (fun s => s.scope.Defines before ∧ s.scope.IsPlain defs)
      (evaluate (chain rest main)) (evaluate (chain rest main)) := by
  induction rest generalizing before n with
  | nil =>
    obtain rfl : before = defs := by simpa using hdefs
    exact (trackedTerms hlib n hmain).weaken fun s hs => ⟨hs.1, hs.2⟩
  | cons d rest ih =>
    have hd : d ∈ defs := by simp [← hdefs]
    -- names are distinct, so the new binding hides none that was made before
    have hnew : d.name.name ∉ names before := by
      have := hlib.distinct
      rw [← hdefs, names, List.map_append, List.nodup_append] at this
      exact fun h => this.2.2 _ h _ List.mem_cons_self rfl
    refine tracked_evaluate (fun _ hs => hs) fun k _ => ?_
    have hfunction : ∀ s v s', s.scope.Defines before ∧ s.scope.IsPlain defs →
        exec (plainly limit k) (evaluate (.function d.parameters d.body d.place)) s =
          some (.ok v, s') →
        v = d.closure ∧ s'.scope.Defines before ∧ s'.scope.IsPlain defs := by
      intro s v s' hs hv
      rw [exec_evaluate] at hv
      obtain ⟨_, after, -, -, hstep, rfl⟩ := succeeds_of_answer hv
      cases hstep
      exact ⟨rfl, hs⟩
    refine .bind (tracked_evaluate (fun _ hs => hs) fun _ _ => .pure) hfunction fun v => .assume ?_
    rintro rfl
    have hdefs' : (before ++ [d]) ++ rest = defs := by simpa using hdefs
    refine .bind tracked_bindName (fun s _ s' hs h => ?_) fun _ => ih hdefs' k
    cases h
    refine ⟨fun e he => ?_, hs.2.bind _ (.inr (.inr ⟨d, hd, rfl⟩))⟩
    rcases List.mem_append.1 he with he | he
    · exact hs.1.bind hnew _ e he
    · obtain rfl := List.mem_singleton.1 he
      exact Scope.lookup?_bind_self ..

end Evaluator

open Evaluator in
/-- Whatever a first-order program comes to without the cache, unless it is the limit on depth, it
comes to with the cache as well, and the same is printed. -/
theorem Session.memoize_transparent {p : Program} (hp : p.FirstOrder) {limit levels : Nat}
    {sink : Sink} {r : Except Failure Value} {s : Session}
    (hrun : Session.run? ⟨limit, false⟩ levels p (.new sink) = some (r, s))
    (hr : ∀ f, r = .error f → f.cause.isResource = false) :
    ∃ s', Session.run? ⟨limit, true⟩ levels p (.new sink) = some (r, s') ∧ s'.sink = s.sink := by
  obtain ⟨defs, main, hchain, hlib, hmain⟩ := hp
  obtain ⟨⟨outcome, after⟩, heval, hs⟩ := Option.bind_eq_some_iff.1 hrun
  simp only [pure, Option.some.injEq, Prod.mk.injEq] at hs
  obtain ⟨rfl, rfl⟩ := hs
  -- flushing replaces no failure, so the limit was not reached before it either
  have hskip : ∀ f, outcome = .error f → ¬ f.cause.isResource = true := by
    rintro f rfl
    simpa using hr f rfl
  have hstart : Tracks defs (.new sink) (.new sink) :=
    ⟨rfl, rfl, rfl, rfl, Cache.justified_empty defs⟩
  have hscope : (∅ : Scope).Defines [] ∧ (∅ : Scope).IsPlain defs := by
    simp [Scope.Defines, Scope.IsPlain]
  rw [Session.evaluate?, hchain] at heval
  obtain ⟨after', heval', htracks⟩ := tracked_chain hlib hmain (List.nil_append defs) levels
    (.new sink) (.new sink) hscope hstart outcome after ((exec_evaluate ..).trans heval) hskip
  rw [exec_evaluate, ← hchain] at heval'
  refine ⟨{ after' with scope := ∅ }, ?_, htracks.sink_eq⟩
  refine Option.bind_eq_some_iff.2 ⟨(outcome, after'), heval', ?_⟩
  rw [← htracks.sink_eq]
  rfl

/-- A call that is made twice: `let f = fn (n) => n * n; print(f(3) + f(3))`. -/
def Program.squares : Program where
  name := "squares"
  location := default
  expression :=
    let f := Term.var "f" default
    let n := Term.var "n" default
    let call := Term.call f [.int 3 default] default
    .letIn ⟨"f", default⟩ (.function [⟨"n", default⟩] (.binary n .mul n default) default)
      (.print (.binary call .add call default) default) default

theorem Program.squares_firstOrder : Program.squares.FirstOrder := by
  refine ⟨[⟨⟨"f", default⟩, [⟨"n", default⟩], .binary (.var "n" default) .mul (.var "n" default)
    default, default, default⟩], _, rfl, ⟨by simp [names], ?_, ?_, ?_⟩, ?_⟩
  · simp [names]
  · simp [names]
  · simp only [List.mem_singleton, forall_eq]
    exact .binary (.var (by simp)) (.var (by simp))
  · exact .print (.binary (.call (by simp [names]) (by simp [Term.FirstOrder.int]))
      (.call (by simp [names]) (by simp [Term.FirstOrder.int])))

theorem Session.memoize_transparent_squares :
    Program.squares.FirstOrder ∧
    Session.run? ⟨6, false⟩ 7 Program.squares (.new .unlimited) =
      some (.ok .nil, ⟨∅, ∅, ⟨none, false, "18\n".toUTF8⟩, 1, 0⟩) ∧
    ∃ s', Session.run? ⟨6, true⟩ 7 Program.squares (.new .unlimited) = some (.ok .nil, s') ∧
      s'.sink = ⟨none, false, "18\n".toUTF8⟩ := by
  have hrun : Session.run? ⟨6, false⟩ 7 Program.squares (.new .unlimited) =
      some (.ok .nil, ⟨∅, ∅, ⟨none, false, "18\n".toUTF8⟩, 1, 0⟩) := by cbv
  have hok : ∀ f, (.ok .nil : Except Failure Value) = .error f → f.cause.isResource = false := by
    intro f hf
    cases hf
  exact ⟨Program.squares_firstOrder, hrun,
    Session.memoize_transparent Program.squares_firstOrder hrun hok⟩

end Treewalk
