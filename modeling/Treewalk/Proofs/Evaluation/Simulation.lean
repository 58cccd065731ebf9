import Treewalk.Proofs.Evaluation.Exec
import Treewalk.Proofs.Likeness

/-!
# Evaluations of related terms

A `Simulation` compares evaluations of terms that are related, in sessions that are coupled: scopes
are alike, caches are related, and sink, count of lines and depth are the same. `Simulation.Lawful`
lists what has to be shown. Of the relation of terms it is only that related terms match, and of the
caches that a body is entered alike on both sides. Then whatever the first evaluation comes to, the
second one comes to the like of it (`Simulation.Lawful.simulates_answers`).

Not every first evaluation has to be followed. It is left out of account if it ends with a cache
that is not `followed`. No evaluation may lead back from such a cache to one that is.
-/

namespace Treewalk

namespace Evaluator

variable {α β : Type}

/-- What two evaluations have in common. -/
structure Simulation where
  /-- The terms that are evaluated. -/
  term : Term → Term → Prop
  /-- The caches that are used. -/
  cache : Cache → Cache → Prop
  /-- The caches with which the first evaluation may end. -/
  followed : Cache → Prop

namespace Simulation

variable {sim : Simulation} {o₁ o₂ : (job : Job) → Option job.Answer}

/-- The sessions of two evaluations that are compared. -/
structure Coupled (sim : Simulation) (s₁ s₂ : Session) : Prop where
  scope : s₁.scope.Like sim.term s₂.scope
  cache : sim.cache s₁.cache s₂.cache
  sink_eq : s₁.sink = s₂.sink
  prints_eq : s₁.prints = s₂.prints
  depth_eq : s₁.depth = s₂.depth

/-- Both outcomes are values, related by `V`, or both are failures that are alike. -/
inductive Agree (sim : Simulation) (V : α → α → Prop) :
    Except Failure α → Except Failure α → Prop
  | ok {a b : α} (h : V a b) : Agree sim V (.ok a) (.ok b)
  | error {f g : Failure} (h : f.Like sim.term g) : Agree sim V (.error f) (.error g)

/-- From coupled sessions, and with jobs answered by `o₁` and `o₂`: what `m₁` comes to, the like of
it `m₂` comes to as well, and sessions are coupled again. A step that is followed at its end is
followed from its beginning. -/
structure Simulates (sim : Simulation) (o₁ o₂ : (job : Job) → Option job.Answer)
    (V : α → α → Prop) (m₁ m₂ : EvalM α) : Prop where
  follow {s₁ s₂ s₁' : Session} {r₁ : Except Failure α} : sim.Coupled s₁ s₂ →
    exec o₁ m₁ s₁ = some (r₁, s₁') → sim.followed s₁'.cache →
    ∃ r₂ s₂', exec o₂ m₂ s₂ = some (r₂, s₂') ∧ sim.Agree V r₁ r₂ ∧ sim.Coupled s₁' s₂'
  back {s s' : Session} {r : Except Failure α} : exec o₁ m₁ s = some (r, s') →
    sim.followed s'.cache → sim.followed s.cache

/-- What makes evaluations with the given options simulate one another. -/
structure Lawful (sim : Simulation) (options₁ options₂ : EvalOptions) : Prop where
  limit_eq : options₁.depthLimit = options₂.depthLimit
  parts {t u : Term} : sim.term t u → t.Matches sim.term u
  /-- If not all evaluations are followed, a term is related to itself. -/
  alone : (∀ c, sim.followed c) ∨ ∀ t, sim.term t t
  /-- A body is entered alike, if it is evaluated alike in its frame. -/
  enter {o₁ o₂ : (job : Job) → Option job.Answer} {callee callee' body body' : Term}
    {arguments arguments' : List Term} {l l' place place' : Location} {frame frame' : Scope}
    {vs vs' : List Value} :
    sim.term (.call callee arguments l) (.call callee' arguments' l') →
    List.Forall₂ (Value.Like sim.term) vs vs' →
    sim.Simulates o₁ o₂ (Value.Like sim.term) (evaluateIn frame body)
      (evaluateIn frame' body') →
    sim.Simulates o₁ o₂ (Value.Like sim.term)
      (enter (if options₁.memoize then signature? callee place vs else none) frame body)
      (enter (if options₂.memoize then signature? callee' place' vs' else none) frame' body')

/-- Arguments that were bound alike: the frames are alike, and so are the values. -/
def BoundAlike (T : Term → Term → Prop) (x y : Scope × List Value) : Prop :=
  x.1.Like T y.1 ∧ List.Forall₂ (Value.Like T) x.2 y.2

theorem BoundAlike.refl {T : Term → Term → Prop} (hT : ∀ t, T t t) (x : Scope × List Value) :
    BoundAlike T x x :=
  ⟨.refl hT x.1, List.forall₂_same.2 fun v _ => .refl hT v⟩

/-! ## Rules for the operations -/

theorem Simulates.pure {V : α → α → Prop} {a b : α} (h : V a b) :
    sim.Simulates o₁ o₂ V (pure a) (pure b) where
  follow hs he _ := by
    cases he
    exact ⟨_, _, rfl, .ok h, hs⟩
  back he h := by
    cases he
    exact h

theorem Simulates.fail {V : α → α → Prop} {t u : Term} (h : sim.term t u) (cause : Cause) :
    sim.Simulates o₁ o₂ V (fail t.location cause) (fail u.location cause) where
  follow hs he _ := by
    cases he
    exact ⟨_, _, rfl, .error ⟨rfl, t, u, h, rfl, rfl⟩, hs⟩
  back he h := by
    cases he
    exact h

/-- A step that comes to nothing simulates any other one. -/
theorem Simulates.of_unanswered {V : α → α → Prop} {m₁ m₂ : EvalM α}
    (h : ∀ s, exec o₁ m₁ s = none) : sim.Simulates o₁ o₂ V m₁ m₂ where
  follow {s₁ _ _ _} _ he _ := by
    rw [h s₁] at he
    cases he
  back {s _ _} he _ := by
    rw [h s] at he
    cases he

theorem Simulates.bindName (x : String) {v w : Value} (h : v.Like sim.term w) :
    sim.Simulates o₁ o₂ (fun _ _ => True) (bindName x v) (bindName x w) where
  follow hs he _ := by
    cases he
    exact ⟨_, _, rfl, .ok trivial, hs.scope.bind x h, hs.cache, hs.sink_eq, hs.prints_eq,
      hs.depth_eq⟩
  back he h := by
    cases he
    exact h

/-- A line is written to equal sinks, which accept it or refuse it alike. -/
theorem Simulates.printLine {t u : Term} (h : sim.term t u) (text : String) :
    sim.Simulates o₁ o₂ (Value.Like sim.term) (printLine t.location text)
      (printLine u.location text) where
  follow {s₁ s₂ _ _} hs he _ := by
    rw [exec_printLine] at he ⊢
    rw [← hs.sink_eq]
    rcases hw : s₁.sink.writeLine text with ⟨e | _, sink⟩
    · rw [hw] at he
      cases he
      exact ⟨_, _, rfl, .error ⟨rfl, t, u, h, rfl, rfl⟩, hs.scope, hs.cache, rfl, hs.prints_eq,
        hs.depth_eq⟩
    · rw [hw] at he
      cases he
      exact ⟨_, _, rfl, .ok .nil, hs.scope, hs.cache, rfl, congrArg (· + 1) hs.prints_eq,
        hs.depth_eq⟩
  back {s _ _} he h := by
    rw [exec_printLine] at he
    rcases hw : s.sink.writeLine text with ⟨e | _, sink⟩
    · rw [hw] at he
      cases he
      exact h
    · rw [hw] at he
      cases he
      exact h

namespace Lawful

variable {options₁ options₂ : EvalOptions} (hl : sim.Lawful options₁ options₂)

include hl

/-- In a sequence, the second steps have to be shown alike for related values only. -/
theorem bind {V : α → α → Prop} {W : β → β → Prop} {m₁ m₂ : EvalM α} {f₁ f₂ : α → EvalM β}
    (hrefl : (∀ t, sim.term t t) → ∀ a, V a a) (hm : sim.Simulates o₁ o₂ V m₁ m₂)
    (hf : ∀ a b, V a b → sim.Simulates o₁ o₂ W (f₁ a) (f₂ b)) :
    sim.Simulates o₁ o₂ W (m₁ >>= f₁) (m₂ >>= f₂) := by
  -- what `m₁` comes to need not be related to anything else, but then it is to itself
  have hback : ∀ {a : α} {s s' : Session} {r : Except Failure β},
      exec o₁ (f₁ a) s = some (r, s') → sim.followed s'.cache → sim.followed s.cache := by
    intro a s s' r he h
    rcases hl.alone with hall | hself
    · exact hall s.cache
    · exact (hf a a (hrefl hself a)).back he h
  refine ⟨fun {s₁ s₂ s₁'' r₁} hs hx hfollowed => ?_, fun {s s'' r} hx hfollowed => ?_⟩
  · obtain ⟨a, s₁', ha, hx⟩ | ⟨e, he, rfl⟩ := exec_bind_eq_some hx
    · obtain ⟨r₂, s₂', hb, hagree, hs'⟩ := hm.follow hs ha (hback hx hfollowed)
      cases hagree with
      | ok hab =>
        rw [exec_bind_of_ok hb]
        exact (hf _ _ hab).follow hs' hx hfollowed
    · obtain ⟨r₂, s₂', hb, hagree, hs'⟩ := hm.follow hs he hfollowed
      cases hagree with
      | error hfg => exact ⟨_, s₂', exec_bind_of_error hb, .error hfg, hs'⟩
  · obtain ⟨a, s', ha, hx⟩ | ⟨e, he, rfl⟩ := exec_bind_eq_some hx
    · exact hm.back ha (hback hx hfollowed)
    · exact hm.back he hfollowed

/-- A step may look at its session, as far as the scope goes. -/
theorem getScope {V : α → α → Prop} {f₁ f₂ : Session → EvalM α}
    (hf : ∀ s s', s.scope.Like sim.term s'.scope → sim.Simulates o₁ o₂ V (f₁ s) (f₂ s')) :
    sim.Simulates o₁ o₂ V (get >>= f₁) (get >>= f₂) := by
  refine ⟨fun hs hx hfollowed => ?_, fun {s s' r} hx hfollowed => ?_⟩
  · rw [exec_bind_of_ok exec_get] at hx ⊢
    exact (hf _ _ hs.scope).follow hs hx hfollowed
  · rw [exec_bind_of_ok exec_get] at hx
    rcases hl.alone with hall | hself
    · exact hall s.cache
    · exact (hf s s (.refl hself s.scope)).back hx hfollowed

variable (he : ∀ t u, sim.term t u →
  sim.Simulates o₁ o₂ (Value.Like sim.term) (evaluate t) (evaluate u))

include he

omit hl in
theorem simulates_evaluateIn {frame frame' : Scope} (hframe : frame.Like sim.term frame')
    {t u : Term} (h : sim.term t u) :
    sim.Simulates o₁ o₂ (Value.Like sim.term) (evaluateIn frame t)
      (evaluateIn frame' u) := by
  refine ⟨fun {s₁ s₂ s₁' r₁} hs hx hfollowed => ?_, fun {s s' r} hx hfollowed => ?_⟩
  · obtain ⟨s, hr, rfl⟩ := exec_evaluateIn_eq_some hx
    have hframes : sim.Coupled { s₁ with scope := frame } { s₂ with scope := frame' } :=
      ⟨hframe, hs.cache, hs.sink_eq, hs.prints_eq, hs.depth_eq⟩
    obtain ⟨r₂, s', hr', hagree, hs'⟩ :=
      (he t u h).follow hframes ((exec_evaluate t).trans hr) hfollowed
    rw [exec_evaluate] at hr'
    rw [exec_evaluateIn, hr']
    exact ⟨r₂, _, rfl, hagree, hs.scope, hs'.cache, hs'.sink_eq, hs'.prints_eq, hs'.depth_eq⟩
  · obtain ⟨s'', hr, rfl⟩ := exec_evaluateIn_eq_some hx
    have hfollowed := (he t u h).back ((exec_evaluate t).trans hr) hfollowed
    exact hfollowed

/-- Arguments are evaluated alike and bound to the same names. -/
theorem simulates_bindArguments {ps ps' : List Parameter} {as as' : List Term}
    (hnames : ps.map (·.name) = ps'.map (·.name)) (has : List.Forall₂ sim.term as as')
    {frame frame' : Scope} (hframe : frame.Like sim.term frame') {vs vs' : List Value}
    (hvs : List.Forall₂ (Value.Like sim.term) vs vs') :
    sim.Simulates o₁ o₂ (BoundAlike sim.term) (bindArguments (ps.zip as) frame vs)
      (bindArguments (ps'.zip as') frame' vs') := by
  induction has generalizing ps ps' frame frame' vs vs' with
  | nil =>
    rw [List.zip_nil_right, List.zip_nil_right]
    exact .pure ⟨hframe, List.forall₂_reverse_iff.2 hvs⟩
  | @cons a a' as as' ha _ ih =>
    cases ps with
    | nil =>
      obtain rfl : ps' = [] := List.map_eq_nil_iff.1 hnames.symm
      exact .pure ⟨hframe, List.forall₂_reverse_iff.2 hvs⟩
    | cons p ps =>
      cases ps' with
      | nil => cases hnames
      | cons p' ps' =>
        obtain ⟨hname, hnames⟩ := List.cons.inj hnames
        refine hl.bind Value.Like.refl (he a a' ha) fun v v' hv => ?_
        have hname : p.name = p'.name := hname
        have hbound : (frame.bind p.name v).Like sim.term (frame'.bind p'.name v') :=
          hname ▸ hframe.bind p.name hv
        exact ih hnames hbound (.cons hv hvs)

theorem simulates_call {callee callee' : Term} {arguments arguments' : List Term}
    {l l' : Location} (h : sim.term (.call callee arguments l) (.call callee' arguments' l')) :
    sim.Simulates o₁ o₂ (Value.Like sim.term) (call options₁ callee arguments l)
      (call options₂ callee' arguments' l') := by
  obtain ⟨hcallee, harguments⟩ : sim.term callee callee' ∧
      List.Forall₂ sim.term arguments arguments' := by
    cases hl.parts h with
    | call _ _ hcallee harguments => exact ⟨hcallee, harguments⟩
  refine hl.bind Value.Like.refl (he _ _ hcallee) fun v w hvw => ?_
  cases hvw with
  | @closure ps ps' body body' place place' hclosure =>
    obtain ⟨hnames, hbody⟩ : ps.map (·.name) = ps'.map (·.name) ∧ sim.term body body' := by
      cases hl.parts hclosure with
      | function _ _ hnames hbody => exact ⟨hnames, hbody⟩
    have hps : ps.length = ps'.length := by simpa using congrArg List.length hnames
    have has : arguments.length = arguments'.length := harguments.length_eq
    by_cases hlen : ps.length = arguments.length
    · have hlen' : ps'.length = arguments'.length := by omega
      simp only [hlen, hlen', ne_eq, not_true_eq_false, ↓reduceIte]
      refine hl.getScope fun s s' hs => ?_
      refine hl.bind BoundAlike.refl
        (hl.simulates_bindArguments he hnames harguments hs .nil) fun x y hxy => ?_
      exact hl.enter h hxy.2 (simulates_evaluateIn he hxy.1 hbody)
    · have hlen' : ps'.length ≠ arguments'.length := by omega
      simp only [hlen, hlen', ne_eq, not_false_eq_true, ↓reduceIte]
      rw [hps, has]
      exact .fail h _
  | int | str | bool | tuple | nil => exact .fail hcallee _

/-- Projections ask for corresponding components of tuples that are alike. -/
theorem simulates_project {operand operand' t u : Term} (hoperand : sim.term operand operand')
    (h : sim.term t u) (part : Term × Term → Term)
    (hpart : ∀ {a a' b b' : Term}, sim.term a a' → sim.term b b' →
      sim.term (part (a, b)) (part (a', b'))) :
    sim.Simulates o₁ o₂ (Value.Like sim.term)
      (do
        let v ← evaluate operand
        let x ← components t.location v
        evaluate (part x))
      (do
        let v ← evaluate operand'
        let x ← components u.location v
        evaluate (part x)) := by
  refine hl.bind Value.Like.refl (he _ _ hoperand) fun v w hvw => ?_
  cases hvw with
  | tuple htuple =>
    cases hl.parts htuple with
    | tuple _ _ hfirst hsecond => exact he _ _ (hpart hfirst hsecond)
  | int | str | bool | closure | nil => exact .fail h _

variable (hr : ∀ v w, v.Like sim.term w → ∀ text,
  sim.Simulates o₁ o₂ Eq (render v text) (render w text))

include hr

/-- One level of evaluation is simulated if what it asks for is. -/
theorem simulates_step {t u : Term} (h : sim.term t u) :
    sim.Simulates o₁ o₂ (Value.Like sim.term) (step options₁ t) (step options₂ u) := by
  cases hl.parts h with
  | int n => exact .pure (.int n)
  | str s => exact .pure (.str s)
  | bool b => exact .pure (.bool b)
  | function => exact .pure (.closure h)
  | tuple => exact .pure (.tuple h)
  | var x l l' =>
    refine hl.getScope fun s s' hs => ?_
    have hx := hs x
    generalize s.scope.lookup? x = found at hx ⊢
    generalize s'.scope.lookup? x = found' at hx ⊢
    cases hx with
    | none => exact .fail h _
    | some hv => exact .pure hv
  | call => exact hl.simulates_call he h
  | letIn l l' hname hvalue hnext =>
    refine hl.bind Value.Like.refl (he _ _ hvalue) fun v w hvw => ?_
    rw [← hname]
    exact hl.bind (fun _ _ => trivial) (.bindName _ hvw) fun _ _ _ => he _ _ hnext
  | cond l l' hcondition hyes hno =>
    refine hl.bind Value.Like.refl (he _ _ hcondition) fun v w hvw => ?_
    cases hvw with
    | bool b =>
      cases b with
      | true => exact he _ _ hyes
      | false => exact he _ _ hno
    | int | str | closure | tuple | nil => exact .fail hcondition _
  | binary op l l' hlhs hrhs =>
    refine hl.bind Value.Like.refl (he _ _ hlhs) fun a a' ha => ?_
    refine hl.bind Value.Like.refl (he _ _ hrhs) fun b b' hb => ?_
    rw [op.apply_eq_of_like ha hb]
    cases hv : op.apply a' b' with
    | ok v => exact .pure (Operator.like_self_of_apply hv)
    | error cause => exact .fail h cause
  | print l l' hoperand =>
    refine hl.bind Value.Like.refl (he _ _ hoperand) fun v w hvw => ?_
    refine hl.bind (fun _ _ => rfl) (hr v w hvw "") fun text text' htext => ?_
    subst htext
    exact .printLine h text
  | first l l' hoperand =>
    exact hl.simulates_project he hoperand h Prod.fst fun hfirst _ => hfirst
  | second l l' hoperand =>
    exact hl.simulates_project he hoperand h Prod.snd fun _ hsecond => hsecond

theorem simulates_renderStep {v w : Value} (h : v.Like sim.term w) (text : String) :
    sim.Simulates o₁ o₂ Eq (renderStep v text) (renderStep w text) := by
  cases h with
  | tuple htuple =>
    cases hl.parts htuple with
    | tuple _ _ hfirst hsecond =>
      refine hl.bind Value.Like.refl (he _ _ hfirst) fun a a' ha => ?_
      refine hl.bind Value.Like.refl (he _ _ hsecond) fun b b' hb => ?_
      refine hl.bind (fun _ _ => rfl) (hr a a' ha _) fun text text' htext => ?_
      subst htext
      refine hl.bind (fun _ _ => rfl) (hr b b' hb _) fun text text' htext => ?_
      subst htext
      exact .pure rfl
  | int | str | bool | closure | nil => exact .pure rfl

omit he hr

/-! ## Whole evaluations -/

/-- One level is simulated if its step is. -/
theorem simulates_level {n : Nat} {t u : Term} (h : sim.term t u)
    (hstep : sim.Simulates (Walk.answerWithin (body options₁) n)
      (Walk.answerWithin (body options₂) n) (Value.Like sim.term) (step options₁ t)
      (step options₂ u)) :
    sim.Simulates (Walk.answerWithin (body options₁) (n + 1))
      (Walk.answerWithin (body options₂) (n + 1)) (Value.Like sim.term) (evaluate t)
      (evaluate u) := by
  refine ⟨fun {s₁ s₂ s₁' r₁} hs hx hfollowed => ?_, fun {s s' r} hx hfollowed => ?_⟩
  · rw [exec_evaluate] at hx ⊢
    by_cases hlimit : options₁.depthLimit ≤ s₁.depth
    · have hlimit' : options₂.depthLimit ≤ s₂.depth := hl.limit_eq ▸ hs.depth_eq ▸ hlimit
      rw [answer_of_limit_le hlimit] at hx
      rw [answer_of_limit_le hlimit', ← hl.limit_eq, ← hs.depth_eq]
      cases hx
      exact ⟨_, _, rfl, .error ⟨rfl, t, u, h, rfl, rfl⟩, hs⟩
    · have hlt : s₁.depth < options₁.depthLimit := Nat.lt_of_not_le hlimit
      have hlt' : s₂.depth < options₂.depthLimit := hl.limit_eq ▸ hs.depth_eq ▸ hlt
      rw [answer_of_lt_limit hlt] at hx
      obtain ⟨⟨r, after⟩, hr, hx⟩ := Option.map_eq_some_iff.1 hx
      cases hx
      have hdeeper : sim.Coupled s₁.deeper s₂.deeper :=
        ⟨hs.scope, hs.cache, hs.sink_eq, hs.prints_eq, congrArg (· + 1) hs.depth_eq⟩
      obtain ⟨r₂, s₂', hr₂, hagree, hs'⟩ := hstep.follow hdeeper hr hfollowed
      exact ⟨r₂, _, answer_of_exec hlt' hr₂, hagree, hs'.scope, hs'.cache, hs'.sink_eq,
        hs'.prints_eq, congrArg (· - 1) hs'.depth_eq⟩
  · rw [exec_evaluate] at hx
    obtain ⟨k, hk, ⟨-, rfl⟩ | ⟨-, after, hr, rfl⟩⟩ := answer_eq_some hx
    · exact hfollowed
    · obtain rfl : n = k := Nat.succ.inj hk
      have hback := hstep.back hr hfollowed
      exact hback

theorem simulates_answers (n : Nat) :
    (∀ t u, sim.term t u → sim.Simulates (Walk.answerWithin (body options₁) n)
      (Walk.answerWithin (body options₂) n) (Value.Like sim.term) (evaluate t) (evaluate u)) ∧
    ∀ v w, v.Like sim.term w → ∀ text, sim.Simulates (Walk.answerWithin (body options₁) n)
      (Walk.answerWithin (body options₂) n) Eq (render v text) (render w text) := by
  induction n with
  | zero =>
    refine ⟨fun t u _ => .of_unanswered fun s => ?_, fun v w _ text => .of_unanswered fun s => ?_⟩
    · rw [exec_evaluate, Walk.answerWithin_zero]
    · rw [exec_render, Walk.answerWithin_zero]
  | succ n ih =>
    obtain ⟨he, hr⟩ := ih
    refine ⟨fun t u h => hl.simulates_level h (hl.simulates_step he hr h), fun v w h text => ?_⟩
    have hstep := hl.simulates_renderStep he hr h text
    refine ⟨fun hs hx hfollowed => ?_, fun hx hfollowed => ?_⟩
    · rw [exec_render, answer_render] at hx ⊢
      exact hstep.follow hs hx hfollowed
    · rw [exec_render, answer_render] at hx
      exact hstep.back hx hfollowed

/-- Runs of programs whose expressions are related, in sessions of their own. A sink that refuses to
be flushed refuses both, and each failure names the whole of its program. -/
theorem follow_run {p q : Program} (h : sim.term p.expression q.expression)
    (hcache : sim.cache ∅ ∅) {levels : Nat} {sink : Sink} {r₁ : Except Failure Value}
    {s₁ : Session} (hx : Session.run? options₁ levels p (.new sink) = some (r₁, s₁))
    (hfollowed : sim.followed s₁.cache) :
    ∃ r₂ s₂, Session.run? options₂ levels q (.new sink) = some (r₂, s₂) ∧ sim.Coupled s₁ s₂ ∧
      (sim.Agree (Value.Like sim.term) r₁ r₂ ∨
        ∃ e, r₁ = .error ⟨.output e, p.location⟩ ∧ r₂ = .error ⟨.output e, q.location⟩) := by
  obtain ⟨⟨x₁, after₁⟩, he, hs⟩ := Option.bind_eq_some_iff.1 hx
  simp only [pure, Option.some.injEq, Prod.mk.injEq] at hs
  obtain ⟨rfl, rfl⟩ := hs
  have hstart : sim.Coupled { Session.new sink with scope := ∅ }
      { Session.new sink with scope := ∅ } := ⟨Scope.like_empty, hcache, rfl, rfl, rfl⟩
  obtain ⟨x₂, after₂, he', hagree, hafter⟩ :=
    ((hl.simulates_answers levels).1 _ _ h).follow hstart
      ((exec_evaluate p.expression).trans he) hfollowed
  rw [exec_evaluate] at he'
  refine ⟨_, _, Option.bind_eq_some_iff.2 ⟨_, he', rfl⟩,
    ⟨Scope.like_empty, hafter.cache, hafter.sink_eq, hafter.prints_eq, hafter.depth_eq⟩, ?_⟩
  simp only [hafter.sink_eq]
  cases hagree with
  | error hfg => exact .inl (.error hfg)
  | ok hvw =>
    cases after₂.sink.flush with
    | ok _ => exact .inl (.ok hvw)
    | error e => exact .inr ⟨e, rfl, rfl⟩

end Lawful

end Simulation

end Evaluator

end Treewalk
