import Treewalk.Proofs.Evaluation.Success
import Treewalk.Proofs.Operator.Outcome
import Treewalk.Proofs.Subterm

/-!
# Invariants of evaluation

An `Invariant` is a family of conditions on terms, values, sessions and failures. `Invariant.Lawful`
lists what has to be shown of them, one law for each thing that evaluation does to a session or
takes out of it. The text of `step` and `renderStep` is followed here once for all invariants, and
what comes of it is one lemma about one level (`Invariant.meets_body`): a job that satisfies the
conditions asks only for jobs that do, one level deeper, and its answer satisfies them as well.

Three things follow of whole evaluations. Every answer keeps the invariant up, whether it is a value
or a failure (`Invariant.of_answer`), and so does every job that comes up on the way
(`Invariant.asked_of_reached`). And with no condition at all, every answer leaves as many
evaluations open as it found (`depth_eq_of_answer`).

Why a family: while a name is bound or a body is evaluated in its frame, more may be known than
before and after. Another member of the family is in force then.

The laws speak of one source of answers `o`, which may be taken to hold nothing but answers to jobs
that came up (`Walk.exists_asked`). So a law can tell what was really evaluated from what might have
been.
-/

namespace Treewalk

/-- The parts of a term of such a kind are evaluated where the term stands. -/
def Term.Kind.evaluatesParts : Term.Kind → Bool
  | call | cond | binary | print | first | second => true
  | int | str | bool | var | function | letIn | tuple => false

/-! ## What a session holds -/

/-- The name is bound, to any value. -/
def Scope.Binds (s : Scope) (x : String) : Prop := (s.lookup? x).isSome = true

namespace Scope

theorem Binds.exists {s : Scope} {x : String} (h : s.Binds x) : ∃ v, s.lookup? x = some v :=
  Option.isSome_iff_exists.1 h

theorem binds_bind {s : Scope} {x y : String} {v : Value} :
    (s.bind x v).Binds y ↔ x = y ∨ s.Binds y := by
  unfold Binds
  rw [lookup?_bind]
  split <;> simp [*]

theorem binds_bindAll {s : Scope} {parameters : List Parameter} {vs : List Value}
    (hlen : parameters.length = vs.length) {x : String} :
    (s.bindAll parameters vs).Binds x ↔ s.Binds x ∨ x ∈ parameters.map (·.name) := by
  induction parameters generalizing s vs with
  | nil => simp [bindAll]
  | cons p parameters ih =>
    cases vs with
    | nil => cases hlen
    | cons v vs =>
      rw [bindAll, ih (Nat.succ.inj hlen), binds_bind, List.map_cons, List.mem_cons, or_assoc,
        or_left_comm, eq_comm]

end Scope

/-- All values of the scope and of the cache satisfy `V`. -/
structure Session.Holds (V : Value → Prop) (s : Session) : Prop where
  scope : ∀ x v, s.scope.lookup? x = some v → V v
  cache : ∀ (key : String) (v : Value), s.cache.entries[key]? = some v → V v

namespace Session.Holds

variable {V : Value → Prop} {s s' : Session}

theorem new (V : Value → Prop) (sink : Sink) : (Session.new sink).Holds V where
  scope x v h := by simp [Session.new] at h
  cache key v h := by simp [Session.new] at h

theorem bind (h : s.Holds V) (x : String) {v : Value} (hv : V v) :
    Holds V { s with scope := s.scope.bind x v } := by
  refine ⟨fun y w hw => ?_, h.cache⟩
  rw [Scope.lookup?_bind] at hw
  split at hw
  · cases hw; exact hv
  · exact h.scope y w hw

theorem bindAll (h : s.Holds V) (parameters : List Parameter) {vs : List Value}
    (hvs : ∀ v ∈ vs, V v) : Holds V { s with scope := s.scope.bindAll parameters vs } := by
  induction parameters generalizing s vs with
  | nil => exact h
  | cons p parameters ih =>
    cases vs with
    | nil => exact h
    | cons v vs =>
      exact ih (h.bind p.name (hvs v List.mem_cons_self)) fun w hw =>
        hvs w (List.mem_cons_of_mem _ hw)

/-- The scope of one session and the cache of another. -/
theorem withScope (h : s.Holds V) (h' : s'.Holds V) : Holds V { s with scope := s'.scope } :=
  ⟨h'.scope, h.cache⟩

theorem ask (h : s.Holds V) (key : String) :
    Holds V { s with cache := (s.cache.get? key).2 } :=
  ⟨h.scope, fun k v hv => h.cache k v (by simpa using hv)⟩

theorem remember (h : s.Holds V) (key : String) {v : Value} (hv : V v) :
    Holds V { s with cache := s.cache.insert key v } := by
  refine ⟨h.scope, fun k w hw => ?_⟩
  rw [Cache.entries_insert, Std.HashMap.getElem?_insert] at hw
  split at hw
  · cases hw; exact hv
  · exact h.cache k w hw

end Session.Holds

namespace Evaluator

/-! ## Laws of an invariant -/

/-- The session at the beginning of a job. -/
def Job.session : Job → Session
  | evaluate _ s => s
  | render _ _ s => s

/-- The session that an answer leaves behind. -/
def Job.after : (job : Job) → job.Answer → Session
  | evaluate _ _, x => x.2
  | render _ _ _, x => x.2

/-- The number of evaluations that are open in what a job asks for: one more if it is an evaluation
itself. -/
def Job.innerDepth : Job → Nat
  | evaluate _ s => s.depth + 1
  | render _ _ s => s.depth

/-- A call of the signature `key` that was made: function and arguments were evaluated, which led
to the session `s`, and then the body came to `v` in its frame, which led to `s'`. -/
inductive Earned (o : (job : Job) → Option job.Answer) (key : String) (s : Session) (v : Value)
    (s' : Session) : Prop
  | intro {s₀ s₁ : Session} {callee body : Term} {parameters : List Parameter}
      {arguments : List Term} {place : Location} {vs : List Value}
      (hcallee : o (.evaluate callee s₀) = some (.ok (.closure parameters body place), s₁))
      (hlen : parameters.length = arguments.length) (harguments : Threads o s₁ arguments vs s)
      (hkey : signature? callee place vs = some key)
      (hbody : o (.evaluate body { s with
        scope := s₁.scope.bindAll parameters vs, cache := (s.cache.get? key).2 }) =
          some (.ok v, s'))

/-- A print that came to the text of its line: the operand was evaluated and its value written out,
which led to the session `s`. -/
inductive Composed (o : (job : Job) → Option job.Answer) (text : String) (s : Session) : Prop
  | intro {operand : Term} {v : Value} {s₀ s₁ : Session}
      (hoperand : o (.evaluate operand s₀) = some (.ok v, s₁))
      (htext : o (.render v "" s₁) = some (.ok text, s))

/-- A failure of the term itself, and not of one of its parts, in the session `s`. Closures that
come up satisfy `V`. A line that is refused is not among these, since it changes the sink. -/
inductive FailsAt (V : Value → Prop) (s : Session) : Term → Failure → Prop
  | undefined {x : String} {l : Location} (h : s.scope.lookup? x = none) :
      FailsAt V s (.var x l) ⟨.undefinedVariable x, l⟩
  | argumentCount {callee body : Term} {arguments : List Term} {parameters : List Parameter}
      {l place : Location} (hlen : parameters.length ≠ arguments.length)
      (hclosure : V (.closure parameters body place)) : FailsAt V s (.call callee arguments l)
        ⟨.wrongArgumentCount parameters.length arguments.length, l⟩
  | notAFunction {callee : Term} {arguments : List Term} {l : Location} (kind : Value.Kind) :
      FailsAt V s (.call callee arguments l) ⟨.notAFunction kind, callee.location⟩
  | notABoolean {condition yes no : Term} {l : Location} (kind : Value.Kind) :
      FailsAt V s (.cond condition yes no l) ⟨.notABoolean kind, condition.location⟩
  | operator {lhs rhs : Term} {op : Operator} {l : Location} {cause : Cause}
      (h : op.FailsWith cause) : FailsAt V s (.binary lhs op rhs l) ⟨cause, l⟩
  | first {operand : Term} {l : Location} (kind : Value.Kind) :
      FailsAt V s (.first operand l) ⟨.notATuple kind, l⟩
  | second {operand : Term} {l : Location} (kind : Value.Kind) :
      FailsAt V s (.second operand l) ⟨.notATuple kind, l⟩

theorem FailsAt.isResource_eq_false {V : Value → Prop} {s : Session} {t : Term} {f : Failure}
    (h : FailsAt V s t f) : f.cause.isResource = false := by
  cases h with
  | operator h => cases h <;> rfl
  | _ => rfl

/-- Conditions that evaluation is to keep up. -/
structure Invariant (ι : Type) where
  /-- The terms that may be evaluated while so many evaluations are open. -/
  term : ι → Nat → Term → Prop
  /-- The values that come up. -/
  value : Value → Prop
  /-- The values that may be written out. -/
  written : Value → Prop
  /-- The sessions that evaluation passes through. -/
  session : ι → Session → Prop
  /-- The failures, with the sessions they leave behind. -/
  failed : ι → Failure → Session → Prop

namespace Invariant

variable {ι : Type}

/-- The job satisfies the conditions. -/
def Asked (inv : Invariant ι) (i : ι) : Job → Prop
  | .evaluate t s => inv.term i s.depth t ∧ inv.session i s
  | .render v _ s => inv.written v ∧ inv.session i s

/-- The session satisfies the condition, and `depth` evaluations are open. -/
structure At (inv : Invariant ι) (i : ι) (depth : Nat) (s : Session) : Prop where
  session : inv.session i s
  depth_eq : s.depth = depth

/-- The same of a failure and the session it leaves behind. -/
structure FailedAt (inv : Invariant ι) (i : ι) (depth : Nat) (f : Failure) (s : Session) :
    Prop where
  failed : inv.failed i f s
  depth_eq : s.depth = depth

/-- The answer satisfies the conditions, and the level of the job is given back. -/
def Issues (inv : Invariant ι) (i : ι) : (job : Job) → job.Answer → Prop
  | .evaluate _ s, x =>
    Settles (fun v s' => inv.value v ∧ inv.At i s.depth s') (inv.FailedAt i s.depth) x
  | .render _ _ s, x => Settles (fun _ s' => inv.At i s.depth s') (inv.FailedAt i s.depth) x

/-- Such an answer leaves a session behind that satisfies one of the conditions. In it, as many
evaluations are open as before. -/
theorem Issues.after {inv : Invariant ι} {i : ι} {job : Job} {x : job.Answer}
    (h : inv.Issues i job x) :
    (inv.session i (job.after x) ∨ ∃ f, inv.failed i f (job.after x)) ∧
      (job.after x).depth = job.session.depth := by
  cases job with
  | evaluate t s =>
    obtain ⟨f | v, s'⟩ := x
    · exact ⟨.inr ⟨f, h.failed⟩, h.depth_eq⟩
    · exact ⟨.inl h.2.session, h.2.depth_eq⟩
  | render v text s =>
    obtain ⟨f | u, s'⟩ := x
    · exact ⟨.inr ⟨f, h.failed⟩, h.depth_eq⟩
    · exact ⟨.inl h.session, h.depth_eq⟩

/-- An answer keeps the invariant up. -/
def Keeps (inv : Invariant ι) (job : Job) (x : job.Answer) : Prop :=
  ∀ i, inv.Asked i job → inv.Issues i job x

/-- What makes evaluation with the given options keep the invariant up, if jobs are answered by `o`.
The cache matters only if it is used. -/
structure Lawful (inv : Invariant ι) (options : EvalOptions)
    (o : (job : Job) → Option job.Answer) : Prop where
  primitive {v : Value} : v.isPrimitive = true → inv.value v
  nil : inv.value .nil
  closure {i : ι} {d : Nat} {parameters : List Parameter} {body : Term} {l : Location} :
    inv.term i d (.function parameters body l) → inv.value (.closure parameters body l)
  tuple {i : ι} {d : Nat} {a b : Term} {l : Location} :
    inv.term i d (.tuple a b l) → inv.value (.tuple a b l)
  part {i : ι} {d : Nat} {t u : Term} : inv.term i d t → d < options.depthLimit →
    t.kind.evaluatesParts = true → u ∈ t.parts → inv.term i (d + 1) u
  component {i : ι} {s : Session} {a b u : Term} {l : Location} :
    inv.value (.tuple a b l) → u ∈ [a, b] → inv.session i s → inv.term i s.depth u
  printed {i : ι} {d : Nat} {operand : Term} {l : Location} {v : Value} :
    inv.term i d (.print operand l) → inv.value v → inv.written v
  written {v : Value} : inv.written v → inv.value v
  /-- If a tuple may be written, so may the values of its components. -/
  nested {a b : Term} {l : Location} {v : Value} :
    inv.written (.tuple a b l) → inv.value v → inv.written v
  deeper {i : ι} {s : Session} :
    inv.session i s → s.depth < options.depthLimit → inv.session i s.deeper
  shallower {i : ι} {s : Session} : inv.session i s → inv.session i s.shallower
  failed_shallower {i : ι} {f : Failure} {s : Session} :
    inv.failed i f s → inv.failed i f s.shallower
  lookup {i : ι} {s : Session} {x : String} {v : Value} :
    inv.session i s → s.scope.lookup? x = some v → inv.value v
  fail {i : ι} {d : Nat} {t : Term} {s : Session} {f : Failure} :
    inv.term i d t → inv.session i s → FailsAt inv.value s t f → inv.failed i f s
  overflow {i : ι} {t : Term} {s : Session} : inv.term i s.depth t → inv.session i s →
    options.depthLimit ≤ s.depth →
      inv.failed i ⟨.stackOverflow s.depth options.depthLimit, t.location⟩ s
  /-- Once a name is bound some `j` is in force, which includes what was in force before. -/
  letIn {i : ι} {d : Nat} {x : Parameter} {value next : Term} {l : Location} :
    inv.term i d (.letIn x value next l) → d < options.depthLimit → inv.term i (d + 1) value ∧
      ∃ j, inv.term j (d + 1) next ∧
        (∀ s v, inv.session i s → inv.value v →
          inv.session j { s with scope := s.scope.bind x.name v }) ∧
        (∀ s, inv.session j s → inv.session i s) ∧ ∀ f s, inv.failed j f s → inv.failed i f s
  line {i : ι} {s : Session} {text : String} {sink : Sink} : inv.session i s →
    Composed o text s → s.sink.writeLine text = (.ok (), sink) →
      inv.session i { s with sink := sink, prints := s.prints + 1 }
  refused {i : ι} {d : Nat} {operand : Term} {l : Location} {s : Session} {text : String}
    {sink : Sink} {e : Sink.Error} : inv.term i d (.print operand l) → inv.session i s →
    s.sink.writeLine text = (.error e, sink) → inv.failed i ⟨.output e, l⟩ { s with sink := sink }
  /-- In the frame of a call some `j` is in force, and `i` again when the frame is left. -/
  enter {i : ι} {d : Nat} {callee body : Term} {arguments : List Term} {l place : Location}
    {parameters : List Parameter} {vs : List Value} {s s₁ : Session} :
    inv.term i d (.call callee arguments l) → inv.value (.closure parameters body place) →
    parameters.length = vs.length → (∀ v ∈ vs, inv.value v) → inv.session i s₁ →
    inv.session i s → ∃ j, inv.term j s.depth body ∧
      inv.session j { s with scope := s₁.scope.bindAll parameters vs } ∧
      (∀ s', inv.session j s' → inv.session i { s' with scope := s.scope }) ∧
      ∀ f s', inv.failed j f s' → inv.failed i f { s' with scope := s.scope }
  ask {i : ι} {s : Session} {key : String} : options.memoize = true →
    inv.session i s → inv.session i { s with cache := (s.cache.get? key).2 }
  cached {i : ι} {d : Nat} {callee : Term} {arguments : List Term} {l : Location} {s : Session}
    {key : String} {v : Value} : options.memoize = true → inv.term i d (.call callee arguments l) →
    inv.session i s → s.cache.entries[key]? = some v → inv.value v
  remember {i : ι} {s s' : Session} {key : String} {v : Value} : options.memoize = true →
    inv.session i s → s.cache.entries[key]? = none → inv.value v → Earned o key s v s' →
    s'.prints = s.prints → inv.session i { s' with scope := s.scope } →
      inv.session i { s' with scope := s.scope, cache := s'.cache.insert key v }

/-! ## One level of evaluation -/

section Steps

variable {inv : Invariant ι} {o : (job : Job) → Option job.Answer} {options : EvalOptions}
  {depth : Nat} {i : ι} {α β : Type}

/-- The job satisfies the conditions for some member of the family, with `depth` evaluations
open. -/
def AskedAt (inv : Invariant ι) (depth : Nat) (job : Job) : Prop :=
  (∃ j, inv.Asked j job) ∧ job.session.depth = depth

/-- The step keeps the invariant up, with `depth` evaluations open before and after it, and what it
comes to satisfies `V`. -/
def Respects (inv : Invariant ι) (o : (job : Job) → Option job.Answer) (i : ι) (depth : Nat)
    (m : EvalM α) (V : α → Prop) : Prop :=
  Triple o (inv.AskedAt depth) (inv.At i depth) m (fun a s => V a ∧ inv.At i depth s)
    (inv.FailedAt i depth)

theorem Respects.pure {a : α} {V : α → Prop} (ha : V a) : inv.Respects o i depth (pure a) V :=
  Triple.pure fun _ hs => ⟨ha, hs⟩

theorem Respects.bind {m : EvalM α} {f : α → EvalM β} {V : α → Prop} {W : β → Prop}
    (hm : inv.Respects o i depth m V) (hf : ∀ a, V a → inv.Respects o i depth (f a) W) :
    inv.Respects o i depth (m >>= f) W :=
  Triple.bind hm fun a => Triple.assume (hf a)

theorem Lawful.respects_fail (hl : inv.Lawful options o) {d : Nat} {t : Term} (ht : inv.term i d t)
    {location : Location} {cause : Cause} {V : α → Prop}
    (hf : ∀ s, FailsAt inv.value s t ⟨cause, location⟩) :
    inv.Respects o i depth (Evaluator.fail location cause) V :=
  Triple.fail fun s hs => ⟨hl.fail ht hs.session (hf s), hs.depth_eq⟩

/-- Operators make nothing but primitive values. -/
theorem Lawful.value_apply (hl : inv.Lawful options o) {op : Operator} {a b v : Value}
    (h : op.apply a b = .ok v) : inv.value v := by
  obtain ⟨n, rfl⟩ | ⟨b, rfl⟩ | ⟨⟨t, rfl⟩, -⟩ := Operator.apply_eq_ok h
  · exact hl.primitive rfl
  · exact hl.primitive rfl
  · exact hl.primitive rfl

variable (ho : ∀ job x, o job = some x → inv.Keeps job x)

include ho

/-- An evaluation in a given session, and the answer it had. -/
theorem triple_evaluate {s : Session} {t : Term} (ht : inv.term i depth t)
    (hs : inv.At i depth s) :
    Triple o (inv.AskedAt depth) (· = s) (evaluate t)
      (fun v s' => inv.value v ∧ inv.At i depth s' ∧ o (.evaluate t s) = some (.ok v, s'))
      (inv.FailedAt i depth) := by
  obtain ⟨hs, rfl⟩ := hs
  refine .evaluate ?_ ?_
  · rintro _ rfl
    exact ⟨⟨i, ht, hs⟩, rfl⟩
  · rintro _ rfl ⟨f | v, s'⟩ hx
    · exact ho _ _ hx i ⟨ht, hs⟩
    · obtain ⟨hv, hs'⟩ := ho _ _ hx i ⟨ht, hs⟩
      exact ⟨hv, hs', hx⟩

/-- A value is written out in a given session, and the answer to this. -/
theorem triple_render {s : Session} {v : Value} (hv : inv.written v) (hs : inv.At i depth s)
    (text : String) :
    Triple o (inv.AskedAt depth) (· = s) (render v text)
      (fun u s' => inv.At i depth s' ∧ o (.render v text s) = some (.ok u, s'))
      (inv.FailedAt i depth) := by
  obtain ⟨hs, rfl⟩ := hs
  refine .render ?_ ?_
  · rintro _ rfl
    exact ⟨⟨i, hv, hs⟩, rfl⟩
  · rintro _ rfl ⟨f | u, s'⟩ hx
    · exact ho _ _ hx i ⟨hv, hs⟩
    · exact ⟨ho _ _ hx i ⟨hv, hs⟩, hx⟩

theorem respects_evaluate {t : Term} (ht : inv.term i depth t) :
    inv.Respects o i depth (evaluate t) inv.value :=
  .of_forall_eq fun _ hs => (triple_evaluate ho ht hs).weaken (fun _ h => h)
    fun _ _ h => ⟨h.1, h.2.1⟩

theorem respects_render {v : Value} (hv : inv.written v) (text : String) :
    inv.Respects o i depth (render v text) fun _ => True :=
  .of_forall_eq fun _ hs => (triple_render ho hv hs text).weaken (fun _ h => h)
    fun _ _ h => ⟨trivial, h.1⟩

/-- Arguments are evaluated one after another, and bound once they all are. -/
theorem triple_bindArguments {parameters : List Parameter} {arguments : List Term}
    (hlen : parameters.length = arguments.length) (ht : ∀ t ∈ arguments, inv.term i depth t)
    {s : Session} (hs : inv.At i depth s) (frame : Scope) (values : List Value) :
    Triple o (inv.AskedAt depth) (· = s) (bindArguments (parameters.zip arguments) frame values)
      (fun x s' => ∃ vs, Threads o s arguments vs s' ∧ (∀ v ∈ vs, inv.value v) ∧
        inv.At i depth s' ∧ x = (frame.bindAll parameters vs, values.reverse ++ vs))
      (inv.FailedAt i depth) := by
  induction arguments generalizing parameters s frame values with
  | nil =>
    obtain rfl : parameters = [] := List.eq_nil_of_length_eq_zero hlen
    refine .pure ?_
    rintro _ rfl
    exact ⟨[], .nil, by simp, hs, by simp [Scope.bindAll]⟩
  | cons a arguments ih =>
    cases parameters with
    | nil => cases hlen
    | cons p parameters =>
      refine .bind (triple_evaluate ho (ht a List.mem_cons_self) hs) fun v => ?_
      refine .of_forall_eq ?_
      rintro s₁ ⟨hv, hs₁, ha⟩
      have hrest := ih (Nat.succ.inj hlen) (fun t h => ht t (List.mem_cons_of_mem _ h)) hs₁
        (frame.bind p.name v) (v :: values)
      refine hrest.weaken (fun _ h => h) ?_
      rintro x s' ⟨vs, hvs, hvalues, hs', rfl⟩
      exact ⟨v :: vs, .cons ha hvs, List.forall_mem_cons.2 ⟨hv, hvalues⟩, hs',
        by simp [Scope.bindAll]⟩

/-- A body is evaluated in its frame, where some `j` is in force. -/
theorem triple_evaluateIn {s : Session} {frame : Scope} {t : Term} {j : ι}
    (ht : inv.term j s.depth t) (hs : inv.session j { s with scope := frame })
    (hback : ∀ s', inv.session j s' → inv.session i { s' with scope := s.scope })
    (hfailed : ∀ f s', inv.failed j f s' → inv.failed i f { s' with scope := s.scope }) :
    Triple o (inv.AskedAt s.depth) (· = s) (evaluateIn frame t)
      (fun v s' => inv.value v ∧ inv.At i s.depth s' ∧ ∃ after,
        o (.evaluate t { s with scope := frame }) = some (.ok v, after) ∧
          s' = { after with scope := s.scope })
      (inv.FailedAt i s.depth) := by
  have hasked : inv.Asked j (.evaluate t { s with scope := frame }) := ⟨ht, hs⟩
  refine .evaluateIn ?_ ?_
  · rintro _ rfl
    exact ⟨⟨j, hasked⟩, rfl⟩
  · rintro _ rfl ⟨f | v, s'⟩ hx
    · obtain ⟨hf, hd⟩ := ho _ _ hx j hasked
      exact ⟨hfailed f s' hf, hd⟩
    · obtain ⟨hv, hs', hd⟩ := ho _ _ hx j hasked
      exact ⟨hv, ⟨hback s' hs', hd⟩, s', hx, rfl⟩

/-- A body is entered, be it that its value is in the cache, or remembered, or neither. -/
theorem triple_enter (hl : inv.Lawful options o) {d : Nat} {callee body : Term}
    {arguments : List Term} {l place : Location} {parameters : List Parameter} {vs : List Value}
    {s₀ s₁ s : Session} (ht : inv.term i d (.call callee arguments l))
    (hcallee : o (.evaluate callee s₀) = some (.ok (.closure parameters body place), s₁))
    (hclosure : inv.value (.closure parameters body place))
    (hlen : parameters.length = arguments.length) (hvs : Threads o s₁ arguments vs s)
    (hvalues : ∀ v ∈ vs, inv.value v) (hs₁ : inv.session i s₁) (hs : inv.session i s) :
    Triple o (inv.AskedAt s.depth) (· = s)
      (enter (if options.memoize then signature? callee place vs else none)
        (s₁.scope.bindAll parameters vs) body)
      (fun v s' => inv.value v ∧ inv.At i s.depth s') (inv.FailedAt i s.depth) := by
  have hlen' : parameters.length = vs.length := hlen.trans hvs.length_eq.symm
  cases hkey? : (if options.memoize then signature? callee place vs else none) with
  | none =>
    obtain ⟨j, hbody, hframe, hback, hfailed⟩ := hl.enter ht hclosure hlen' hvalues hs₁ hs
    exact (triple_evaluateIn ho hbody hframe hback hfailed).weaken (fun _ h => h)
      fun _ _ h => ⟨h.1, h.2.1⟩
  | some key =>
    obtain ⟨hmemoize, hkey⟩ : options.memoize = true ∧ signature? callee place vs = some key := by
      split at hkey?
      · next h => exact ⟨h, hkey?⟩
      · cases hkey?
    have hasked : inv.session i { s with cache := (s.cache.get? key).2 } := hl.ask hmemoize hs
    have hask : Triple o (inv.AskedAt s.depth) (· = s) (askCache key)
        (fun found s' => found = s.cache.entries[key]? ∧
          s' = { s with cache := (s.cache.get? key).2 }) (inv.FailedAt i s.depth) := by
      refine .askCache ?_
      rintro _ rfl
      exact ⟨Cache.get?_fst .., rfl⟩
    refine .bind hask fun found => .assume fun hfound => ?_
    cases found with
    | some v =>
      refine .pure ?_
      rintro _ rfl
      exact ⟨hl.cached hmemoize ht hs hfound.symm, hasked, rfl⟩
    | none =>
      obtain ⟨j, hbody, hframe, hback, hfailed⟩ := hl.enter ht hclosure hlen' hvalues hs₁ hasked
      refine .get_bind ?_
      rintro _ rfl
      refine .bind (triple_evaluateIn ho hbody hframe hback hfailed) fun v => ?_
      refine .get_bind ?_
      rintro _ ⟨hv, hs', after, hafter, rfl⟩
      by_cases hp : after.prints = s.prints
      · rw [if_pos hp]
        have hearned : Earned o key s v after := .intro hcallee hlen hvs hkey hafter
        have hremember := hl.remember hmemoize hs hfound.symm hv hearned hp hs'.session
        refine .bind (.modify (Q := fun _ s' => inv.At i s.depth s') ?_) fun _ =>
          .pure fun _ h => ⟨hv, h⟩
        rintro _ rfl
        exact ⟨hremember, hs'.depth_eq⟩
      · rw [if_neg hp]
        refine .pure ?_
        rintro _ rfl
        exact ⟨hv, hs'⟩

theorem respects_call (hl : inv.Lawful options o) (hd : depth < options.depthLimit) {callee : Term}
    {arguments : List Term} {l : Location} (ht : inv.term i depth (.call callee arguments l)) :
    inv.Respects o i (depth + 1) (call options callee arguments l) inv.value := by
  have hpart : ∀ u ∈ callee :: arguments, inv.term i (depth + 1) u := fun u hu =>
    hl.part ht hd rfl hu
  have hargument : ∀ u ∈ arguments, inv.term i (depth + 1) u := fun u hu =>
    hpart u (List.mem_cons_of_mem _ hu)
  refine .of_forall_eq fun s₀ hs₀ => ?_
  refine .bind (triple_evaluate ho (hpart _ List.mem_cons_self) hs₀) fun c => ?_
  cases c with
  | closure parameters body place =>
    by_cases hlen : parameters.length = arguments.length
    · simp only [hlen, ne_eq, not_true_eq_false, ↓reduceIte]
      refine .get_bind ?_
      rintro s₁ ⟨hclosure, hs₁, hcallee⟩
      refine .bind (triple_bindArguments ho hlen hargument hs₁ _ _) fun x => .of_forall_eq ?_
      rintro s ⟨vs, hvs, hvalues, hs, rfl⟩
      rw [← hs.depth_eq]
      exact triple_enter ho hl ht hcallee hclosure hlen hvs hvalues hs₁.session hs.session
    · simp only [hlen, ne_eq, not_false_eq_true, ↓reduceIte]
      refine .fail fun s hs => ?_
      exact ⟨hl.fail ht hs.2.1.session (.argumentCount hlen hs.1), hs.2.1.depth_eq⟩
  | int | str | bool | tuple | nil =>
    exact .fail fun s hs => ⟨hl.fail ht hs.2.1.session (.notAFunction _), hs.2.1.depth_eq⟩

theorem respects_letIn (hl : inv.Lawful options o) (hd : depth < options.depthLimit) {x : Parameter}
    {value next : Term} {l : Location} (ht : inv.term i depth (.letIn x value next l)) :
    inv.Respects o i (depth + 1) (step options (.letIn x value next l)) inv.value := by
  obtain ⟨hvalue, j, hnext, hbind, hsession, hfailed⟩ := hl.letIn ht hd
  refine (respects_evaluate ho hvalue).bind fun v hv => ?_
  refine Triple.bind (.bindName (Q := fun _ => inv.At j (depth + 1)) fun s hs => ?_) fun _ => ?_
  · exact ⟨hbind s v hs.session hv, hs.depth_eq⟩
  · intro s hs
    refine (respects_evaluate ho hnext s hs).mono fun _ => Settles.mono ?_ ?_
    · exact fun w s' h => ⟨h.1, hsession s' h.2.session, h.2.depth_eq⟩
    · exact fun f s' h => ⟨hfailed f s' h.failed, h.depth_eq⟩

/-- The operand of a projection is a tuple, of which `part` gives a component. -/
theorem respects_project (hl : inv.Lawful options o) {t operand : Term} {l : Location} {d : Nat}
    (ht : inv.term i d t) (hoperand : inv.term i depth operand)
    (hfail : ∀ s kind, FailsAt inv.value s t ⟨.notATuple kind, l⟩) (part : Term × Term → Term)
    (hpart : ∀ a b, part (a, b) ∈ [a, b]) :
    inv.Respects o i depth (do
      let v ← evaluate operand
      let x ← components l v
      evaluate (part x)) inv.value := by
  refine (respects_evaluate ho hoperand).bind fun v hv => ?_
  cases v with
  | tuple a b place =>
    refine .of_forall_eq fun s hs => ?_
    have hcomponent : inv.term i depth (part (a, b)) :=
      hs.depth_eq ▸ hl.component hv (hpart a b) hs.session
    exact fun _ h => h ▸ respects_evaluate ho hcomponent s hs
  | int | str | bool | closure | nil => exact hl.respects_fail ht fun s => hfail s _

theorem respects_print (hl : inv.Lawful options o) (hd : depth < options.depthLimit)
    {operand : Term} {l : Location} (ht : inv.term i depth (.print operand l)) :
    inv.Respects o i (depth + 1) (step options (.print operand l)) inv.value := by
  have hoperand : inv.term i (depth + 1) operand := hl.part ht hd rfl List.mem_cons_self
  refine .of_forall_eq fun s₀ hs₀ => .bind (triple_evaluate ho hoperand hs₀) fun v => ?_
  refine .of_forall_eq ?_
  rintro s₁ ⟨hv, hs₁, hoperand⟩
  refine .bind (triple_render ho (hl.printed ht hv) hs₁ "") fun text => ?_
  refine .printLine ?_ ?_
  · rintro s ⟨hs, htext⟩ sink hw
    exact ⟨hl.nil, hl.line hs.session (.intro hoperand htext) hw, hs.depth_eq⟩
  · rintro s ⟨hs, -⟩ e sink hw
    exact ⟨hl.refused ht hs.session hw, hs.depth_eq⟩

/-- One level of evaluation keeps the invariant up. -/
theorem respects_step (hl : inv.Lawful options o) (hd : depth < options.depthLimit) {t : Term}
    (ht : inv.term i depth t) :
    inv.Respects o i (depth + 1) (step options t) inv.value := by
  cases t with
  | int | str | bool => exact .pure (hl.primitive rfl)
  | function => exact .pure (hl.closure ht)
  | tuple => exact .pure (hl.tuple ht)
  | var name l =>
    refine .get_bind fun s hs => ?_
    cases hv : s.scope.lookup? name with
    | some v =>
      refine .pure ?_
      rintro _ rfl
      exact ⟨hl.lookup hs.session hv, hs⟩
    | none =>
      refine .fail ?_
      rintro _ rfl
      exact ⟨hl.fail ht hs.session (.undefined hv), hs.depth_eq⟩
  | call callee arguments l => exact respects_call ho hl hd ht
  | letIn x value next l => exact respects_letIn ho hl hd ht
  | cond condition yes no l =>
    have hpart : ∀ u ∈ [condition, yes, no], inv.term i (depth + 1) u := fun u hu =>
      hl.part ht hd rfl hu
    refine (respects_evaluate ho (hpart _ (by simp))).bind fun v _ => ?_
    cases v with
    | bool b =>
      cases b with
      | true => exact respects_evaluate ho (hpart _ (by simp))
      | false => exact respects_evaluate ho (hpart _ (by simp))
    | int | str | closure | tuple | nil => exact hl.respects_fail ht fun s => .notABoolean _
  | binary lhs op rhs l =>
    have hpart : ∀ u ∈ [lhs, rhs], inv.term i (depth + 1) u := fun u hu => hl.part ht hd rfl hu
    refine (respects_evaluate ho (hpart _ (by simp))).bind fun a _ => ?_
    refine (respects_evaluate ho (hpart _ (by simp))).bind fun b _ => ?_
    cases h : op.apply a b with
    | ok v => exact .pure (hl.value_apply h)
    | error cause => exact hl.respects_fail ht fun s => .operator (Operator.apply_eq_error h)
  | print operand l => exact respects_print ho hl hd ht
  | first operand l =>
    exact respects_project ho hl ht (hl.part ht hd rfl List.mem_cons_self) (fun _ => .first)
      Prod.fst (by simp)
  | second operand l =>
    exact respects_project ho hl ht (hl.part ht hd rfl List.mem_cons_self) (fun _ => .second)
      Prod.snd (by simp)

/-- One level of writing keeps the invariant up. -/
theorem respects_renderStep (hl : inv.Lawful options o) {v : Value} (hv : inv.written v)
    (text : String) : inv.Respects o i depth (renderStep v text) fun _ => True := by
  cases v with
  | tuple a b l =>
    refine .of_forall_eq fun s hs => ?_
    have hcomponent : ∀ u ∈ [a, b], inv.term i depth u := fun u hu =>
      hs.depth_eq ▸ hl.component (hl.written hv) hu hs.session
    have hboth : inv.Respects o i depth (renderStep (.tuple a b l) text) fun _ => True := by
      refine (respects_evaluate ho (hcomponent _ (by simp))).bind fun first hfirst => ?_
      refine (respects_evaluate ho (hcomponent _ (by simp))).bind fun second hsecond => ?_
      refine (respects_render ho (hl.nested hv hfirst) _).bind fun _ _ => ?_
      exact (respects_render ho (hl.nested hv hsecond) _).bind fun _ _ => .pure trivial
    exact hboth.weaken (fun _ h => h ▸ hs) fun _ _ h => h
  | int | str | bool | closure | nil => exact .pure trivial

/-- One level, of evaluation or of writing. What it asks for satisfies the conditions and is one
level deeper if it is an evaluation. Its answer satisfies them, and the level is given back. -/
theorem meets_body (hl : inv.Lawful options o) {job : Job} (hjob : inv.Asked i job) :
    (body options job).Meets o (inv.AskedAt job.innerDepth) (inv.Issues i job) := by
  cases job with
  | evaluate t s =>
    obtain ⟨ht, hs⟩ := hjob
    by_cases hlimit : options.depthLimit ≤ s.depth
    · rw [body_of_limit_le hlimit]
      exact ⟨hl.overflow ht hs hlimit, rfl⟩
    · have hlt : s.depth < options.depthLimit := Nat.lt_of_not_le hlimit
      refine meets_body_of_lt_limit hlt ?_
      refine (respects_step ho hl hlt ht s.deeper ⟨hl.deeper hs hlt, rfl⟩).mono ?_
      rintro ⟨f | v, s'⟩ h
      · exact ⟨hl.failed_shallower h.failed, congrArg (· - 1) h.depth_eq⟩
      · exact ⟨h.1, hl.shallower h.2.session, congrArg (· - 1) h.2.depth_eq⟩
  | render v text s =>
    obtain ⟨hv, hs⟩ := hjob
    refine (respects_renderStep ho hl hv text s ⟨hs, rfl⟩).mono fun x => ?_
    exact Settles.mono (fun _ _ h => h.2) fun _ _ h => h

end Steps

/-! ## Invariants of sessions -/

/-- Conditions on sessions alone, whatever is evaluated. -/
def ofSessions (session : ι → Session → Prop) (failed : ι → Failure → Session → Prop) :
    Invariant ι where
  term _ _ _ := True
  value _ := True
  written _ := True
  session := session
  failed := failed

theorem asked_ofSessions {session : ι → Session → Prop} {failed : ι → Failure → Session → Prop}
    {i : ι} {job : Job} (h : session i job.session) : (ofSessions session failed).Asked i job := by
  cases job with
  | evaluate t s => exact ⟨trivial, h⟩
  | render v text s => exact ⟨trivial, h⟩

/-- If scope and depth do not matter either, few laws are left. -/
theorem ofSessions_lawful {session : ι → Session → Prop} {failed : ι → Failure → Session → Prop}
    {options : EvalOptions} {o : (job : Job) → Option job.Answer}
    (frame : ∀ i s scope depth, session i s → session i { s with scope := scope, depth := depth })
    (failed_frame : ∀ i f s scope depth,
      failed i f s → failed i f { s with scope := scope, depth := depth })
    (fail : ∀ i f s, session i s → failed i f s)
    (line : ∀ i s text sink, session i s → Composed o text s →
      s.sink.writeLine text = (.ok (), sink) →
        session i { s with sink := sink, prints := s.prints + 1 })
    (refused : ∀ i s text sink e l, session i s → s.sink.writeLine text = (.error e, sink) →
      failed i ⟨.output e, l⟩ { s with sink := sink })
    (ask : options.memoize = true → ∀ i s key, session i s →
      session i { s with cache := (s.cache.get? key).2 })
    (remember : options.memoize = true → ∀ i s s' key v, session i s →
      s.cache.entries[key]? = none →
      Earned o key s v s' → s'.prints = s.prints → session i s' →
        session i { s' with cache := s'.cache.insert key v }) :
    (ofSessions session failed).Lawful options o where
  primitive _ := trivial
  nil := trivial
  closure _ := trivial
  tuple _ := trivial
  part _ _ _ _ := trivial
  component _ _ _ := trivial
  printed _ _ := trivial
  written _ := trivial
  nested _ _ := trivial
  deeper {i s} hs _ := frame i s s.scope _ hs
  shallower {i s} hs := frame i s s.scope _ hs
  failed_shallower {i f s} hf := failed_frame i f s s.scope _ hf
  lookup _ _ := trivial
  fail _ hs _ := fail _ _ _ hs
  overflow _ hs _ := fail _ _ _ hs
  letIn {i _ _ _ _ _} _ _ := ⟨trivial, i, trivial, fun s _ hs _ => frame i s _ s.depth hs,
    fun _ hs => hs, fun _ _ hf => hf⟩
  line hs htext h := line _ _ _ _ hs htext h
  refused _ hs h := refused _ _ _ _ _ _ hs h
  enter {i _ _ _ _ _ _ _ _ s _} _ _ _ _ _ hs :=
    ⟨i, trivial, frame i s _ s.depth hs, fun s' hs' => frame i s' _ s'.depth hs',
      fun f s' hf => failed_frame i f s' _ s'.depth hf⟩
  ask hmemoize hs := ask hmemoize _ _ _ hs
  cached _ _ _ _ := trivial
  remember {i s s' key v} hmemoize hs hentry _ hearned hp hs' := by
    have hafter : session i s' := frame i { s' with scope := s.scope } s'.scope s'.depth hs'
    exact frame i _ s.scope s'.depth (remember hmemoize i s s' key v hs hentry
      hearned hp hafter)

/-- Conditions on caches alone, also on those that failures leave behind. -/
def ofCaches (cache : ι → Cache → Prop) : Invariant ι :=
  .ofSessions (fun i s => cache i s.cache) fun i _ s => cache i s.cache

theorem ofCaches_lawful {cache : ι → Cache → Prop} {options : EvalOptions}
    {o : (job : Job) → Option job.Answer}
    (ask : options.memoize = true → ∀ i c key, cache i c → cache i (c.get? key).2)
    (remember : options.memoize = true → ∀ i s s' key v, cache i s.cache →
      s.cache.entries[key]? = none → Earned o key s v s' → s'.prints = s.prints →
        cache i s'.cache → cache i (s'.cache.insert key v)) :
    (ofCaches cache).Lawful options o := by
  refine ofSessions_lawful ?_ ?_ ?_ ?_ ?_ ?_ ?_
  · exact fun _ _ _ _ hs => hs
  · exact fun _ _ _ _ _ hs => hs
  · exact fun _ _ _ hs => hs
  · exact fun _ _ _ _ hs _ _ => hs
  · exact fun _ _ _ _ _ _ hs _ => hs
  · exact fun hmemoize i s key hs => ask hmemoize i s.cache key hs
  · exact fun hmemoize i s s' key v hs hentry hearned hp hs' =>
      remember hmemoize i s s' key v hs hentry hearned hp hs'

/-! ## Whole evaluations -/

/-- Every answer keeps a lawful invariant up. The laws may be shown for answers that were reached
on the way. -/
theorem of_answer {inv : Invariant ι} {options : EvalOptions} {root : Job}
    (hl : ∀ n (o : (job : Job) → Option job.Answer),
      (∀ q x, o q = some x → Walk.Reached (body options) root q ∧
        Walk.answerWithin (body options) n q = some x) →
      (∀ q x, o q = some x → inv.Keeps q x) → inv.Lawful options o)
    {n : Nat} {job : Job} {x : job.Answer} (hjob : Walk.Reached (body options) root job)
    (hx : Walk.answerWithin (body options) n job = some x) : inv.Keeps job x := by
  induction n generalizing job with
  | zero => rw [Walk.answerWithin_zero] at hx; cases hx
  | succ n ih =>
    rw [Walk.answerWithin_succ] at hx
    obtain ⟨o, ho, hx⟩ := Walk.exists_asked hx
    have hreached : ∀ q x, o q = some x → Walk.Reached (body options) root q ∧
        Walk.answerWithin (body options) n q = some x := fun q x hq =>
      ⟨.asked hjob (ho q x hq).1, (ho q x hq).2⟩
    have hkeeps : ∀ q x, o q = some x → inv.Keeps q x := fun q x hq =>
      ih (hreached q x hq).1 (hreached q x hq).2
    intro i hi
    exact (meets_body hkeeps (hl n o hreached hkeeps) hi).result hx

/-- A lawful invariant is kept up by every job that comes up. -/
theorem asked_of_reached {inv : Invariant ι} {options : EvalOptions}
    (hl : ∀ o, inv.Lawful options o) {job q : Job} (hjob : ∃ i, inv.Asked i job)
    (hq : Walk.Reached (body options) job q) : ∃ i, inv.Asked i q := by
  induction hq with
  | start => exact hjob
  | @asked _ _ n _ ha ih =>
    obtain ⟨i, hi⟩ := ih
    have hkeeps : ∀ q x, Walk.answerWithin (body options) n q = some x → inv.Keeps q x :=
      fun q x hx => of_answer (fun _ o _ _ => hl o) .start hx
    exact ((meets_body hkeeps (hl _) hi).asks ha).1

end Invariant

section Answers

variable {options : EvalOptions} {n : Nat} {job : Job} {x : job.Answer}

/-- However a job is answered, a condition on caches holds again. -/
theorem cache_of_keeps {ι : Type} {cache : ι → Cache → Prop} {i : ι}
    (h : (Invariant.ofCaches cache).Keeps job x) (hs : cache i job.session.cache) :
    cache i (job.after x).cache := by
  obtain ⟨hs' | ⟨_, hs'⟩, -⟩ := (h i (Invariant.asked_ofSessions hs)).after
  · exact hs'
  · exact hs'

/-- However a job is answered, as many evaluations are open after it as before. -/
theorem depth_eq_of_answer (h : Walk.answerWithin (body options) n job = some x) :
    (job.after x).depth = job.session.depth := by
  have hkeeps : (Invariant.ofCaches fun (_ : Unit) _ => True).Keeps job x :=
    Invariant.of_answer (fun _ _ _ _ => Invariant.ofCaches_lawful (fun _ _ _ _ _ => trivial)
      fun _ _ _ _ _ _ _ _ _ _ _ => trivial) .start h
  exact (hkeeps () (Invariant.asked_ofSessions trivial)).after.2

/-- Without memoization the cache is left alone, however a job is answered. -/
theorem cache_eq_of_answer (hmemoize : options.memoize = false)
    (h : Walk.answerWithin (body options) n job = some x) :
    (job.after x).cache = job.session.cache := by
  have hused : ¬ options.memoize = true := by simp [hmemoize]
  have hkeeps : (Invariant.ofCaches fun c c' : Cache => c' = c).Keeps job x :=
    Invariant.of_answer (fun _ _ _ _ => Invariant.ofCaches_lawful (fun h => absurd h hused)
      fun h => absurd h hused) .start h
  exact cache_of_keeps hkeeps (i := job.session.cache) rfl

end Answers

end Evaluator

end Treewalk
