import Treewalk.Proofs.Evaluation.Invariant

/-!
# Where values and failures come from

A run makes no function and no tuple that does not stand in its program: every closure or tuple that
comes up is a subterm of the program, with the parts and the location it has there
(`Value.MadeIn`). A failure is located at a subterm that can fail in this way (`Cause.ArisesAt`).

Both are one invariant of evaluation (`provenance`). A session holds values in its scope and in its
cache, so these have to be covered as well: a closure that is called was evaluated elsewhere, and a
tuple is taken apart long after it was made.
-/

namespace Treewalk

/-- A closure or tuple is a function or tuple that occurs in `e`. -/
def Value.MadeIn (e : Term) : Value → Prop
  | closure parameters body location => (Term.function parameters body location).OccursIn e
  | tuple a b location => (Term.tuple a b location).OccursIn e
  | int _ | str _ | bool _ | nil => True

/-- A cause that can arise at `location`, for there is a subterm of `e` to blame. -/
def Cause.ArisesAt (depthLimit : Nat) (e : Term) (location : Location) : Cause → Prop
  | undefinedVariable name => (Term.var name location).OccursIn e
  | wrongArgumentCount expected got => expected ≠ got ∧
      (∃ callee arguments, (Term.call callee arguments location).OccursIn e ∧
        arguments.length = got) ∧
      ∃ parameters body l, (Term.function parameters body l).OccursIn e ∧
        parameters.length = expected
  | notABoolean _ => ∃ condition yes no l, (Term.cond condition yes no l).OccursIn e ∧
      condition.location = location
  | typeMismatch op _ _ | typeNotComparable op _ =>
      ∃ lhs rhs, (Term.binary lhs op rhs location).OccursIn e
  | divisionByZero => ∃ lhs op rhs, (Term.binary lhs op rhs location).OccursIn e ∧
      (op = .div ∨ op = .rem)
  | notATuple _ => ∃ operand, (Term.first operand location).OccursIn e ∨
      (Term.second operand location).OccursIn e
  | notAFunction _ => ∃ callee arguments l, (Term.call callee arguments l).OccursIn e ∧
      callee.location = location
  | output _ => ∃ operand, (Term.print operand location).OccursIn e
  | stackOverflow depth limit => depth = depthLimit ∧ limit = depthLimit ∧
      ∃ t : Term, t.OccursIn e ∧ t.location = location

/-- A failure arises at a subterm of `e`. -/
def Failure.ArisesIn (depthLimit : Nat) (e : Term) (f : Failure) : Prop :=
  f.cause.ArisesAt depthLimit e f.location

namespace Operator

theorem FailsWith.arisesAt {op : Operator} {c : Cause} (h : op.FailsWith c) {limit : Nat}
    {e lhs rhs : Term} {l : Location} (ht : (Term.binary lhs op rhs l).OccursIn e) :
    c.ArisesAt limit e l := by
  cases h with
  | mismatch | incomparable => exact ⟨lhs, rhs, ht⟩
  | byZero hop => exact ⟨lhs, op, rhs, ht, hop⟩

end Operator

namespace Evaluator

/-- A term that fails is to blame for it. -/
theorem FailsAt.arisesIn {limit : Nat} {e t : Term} {s : Session} {f : Failure}
    (h : FailsAt (Value.MadeIn e) s t f) (ht : t.OccursIn e) : f.ArisesIn limit e := by
  cases h with
  | undefined => exact ht
  | argumentCount hlen hclosure => exact ⟨hlen, ⟨_, _, ht, rfl⟩, _, _, _, hclosure, rfl⟩
  | notAFunction => exact ⟨_, _, _, ht, rfl⟩
  | notABoolean => exact ⟨_, _, _, _, ht, rfl⟩
  | operator h => exact h.arisesAt ht
  | first => exact ⟨_, .inl ht⟩
  | second => exact ⟨_, .inr ht⟩

/-- Terms and values at hand belong to `e`, failures arise there, and no evaluation is deeper than
the limit. -/
def provenance (limit : Nat) (e : Term) : Invariant Unit where
  term _ d t := d ≤ limit ∧ t.OccursIn e
  value v := v.MadeIn e
  written v := v.MadeIn e
  session _ s := s.depth ≤ limit ∧ s.Holds (Value.MadeIn e)
  failed _ f s := f.ArisesIn limit e ∧ s.Holds (Value.MadeIn e)

theorem provenance_lawful (options : EvalOptions) (e : Term)
    (o : (job : Job) → Option job.Answer) :
    (provenance options.depthLimit e).Lawful options o where
  primitive {v} h := by
    cases v with
    | int | str | bool => trivial
    | closure | tuple | nil => cases h
  nil := trivial
  closure h := h.2
  tuple h := h.2
  part h hd _ hu := ⟨hd, h.2.of_part hu⟩
  component hv hu hs := ⟨hs.1, Term.OccursIn.of_part hv hu⟩
  printed _ hv := hv
  written hv := hv
  nested _ hv := hv
  deeper hs hd := ⟨hd, hs.2.scope, hs.2.cache⟩
  shallower hs := ⟨Nat.le_trans (Nat.sub_le _ 1) hs.1, hs.2.scope, hs.2.cache⟩
  failed_shallower hf := ⟨hf.1, hf.2.scope, hf.2.cache⟩
  lookup hs hv := hs.2.scope _ _ hv
  fail ht hs hf := ⟨hf.arisesIn ht.2, hs.2⟩
  overflow {_ t s} ht hs hlimit := ⟨⟨Nat.le_antisymm hs.1 hlimit, rfl, t, ht.2, rfl⟩, hs.2⟩
  letIn {_ _ x value next l} h hd := by
    have hpart : ∀ u ∈ [value, next], u.OccursIn e := fun u hu => h.2.of_part hu
    refine ⟨⟨hd, hpart value (by simp)⟩, (), ⟨hd, hpart next (by simp)⟩, ?_, fun _ hs => hs,
      fun _ _ hf => hf⟩
    exact fun s v hs hv => ⟨hs.1, hs.2.bind _ hv⟩
  line hs _ _ := ⟨hs.1, hs.2.scope, hs.2.cache⟩
  refused ht hs _ := ⟨⟨_, ht.2⟩, hs.2.scope, hs.2.cache⟩
  enter _ hclosure _ hvs hs₁ hs := by
    refine ⟨(), ⟨hs.1, Term.OccursIn.of_part hclosure List.mem_cons_self⟩,
      ⟨hs.1, hs.2.withScope (hs₁.2.bindAll _ hvs)⟩, ?_, ?_⟩
    · exact fun s' hs' => ⟨hs'.1, hs'.2.withScope hs.2⟩
    · exact fun f s' hf => ⟨hf.1, hf.2.withScope hs.2⟩
  ask _ hs := ⟨hs.1, hs.2.ask _⟩
  cached _ _ hs hv := hs.2.cache _ _ hv
  remember _ _ _ hv _ _ hs := ⟨hs.1, hs.2.remember _ hv⟩

/-! ## Whole runs -/

section Runs

variable {options : EvalOptions} {e : Term} {job : Job}

theorem asked_new (limit : Nat) (e : Term) (sink : Sink) :
    (provenance limit e).Asked () (.evaluate e (.new sink)) :=
  ⟨⟨Nat.zero_le _, .self⟩, Nat.zero_le _, .new _ _⟩

/-- What comes up in a run of `e` belongs to `e`. -/
theorem belongs_of_reached (hjob : (provenance options.depthLimit e).Asked () job) {q : Job}
    (hq : Walk.Reached (body options) job q) : (provenance options.depthLimit e).Asked () q := by
  obtain ⟨⟨⟩, h⟩ := Invariant.asked_of_reached (provenance_lawful _ e) ⟨(), hjob⟩ hq
  exact h

theorem keeps_provenance {n : Nat} {x : job.Answer}
    (hx : Walk.answerWithin (body options) n job = some x) :
    (provenance options.depthLimit e).Keeps job x :=
  Invariant.of_answer (fun _ o _ _ => provenance_lawful _ e o) .start hx

/-- A session that comes up while `job` is answered: before or after one of the evaluations made. -/
inductive Visited (options : EvalOptions) (job : Job) : Session → Prop
  | before {q : Job} (h : Walk.Reached (body options) job q) : Visited options job q.session
  | evaluated {n : Nat} {t : Term} {s s' : Session} {r : Except Failure Value}
      (h : Walk.Reached (body options) job (.evaluate t s))
      (hr : Walk.answerWithin (body options) n (.evaluate t s) = some (r, s')) :
      Visited options job s'
  | rendered {n : Nat} {v : Value} {text : String} {s s' : Session}
      {r : Except Failure String} (h : Walk.Reached (body options) job (.render v text s))
      (hr : Walk.answerWithin (body options) n (.render v text s) = some (r, s')) :
      Visited options job s'

/-- A value that comes up while `job` is answered: returned by an evaluation, bound in a scope, or
held in the cache. -/
inductive Arises (options : EvalOptions) (job : Job) : Value → Prop
  | returned {n : Nat} {t : Term} {s s' : Session} {v : Value}
      (h : Walk.Reached (body options) job (.evaluate t s))
      (hv : Walk.answerWithin (body options) n (.evaluate t s) = some (.ok v, s')) :
      Arises options job v
  | bound {s : Session} {x : String} {v : Value} (h : Visited options job s)
      (hv : s.scope.lookup? x = some v) : Arises options job v
  | cached {s : Session} {key : String} {v : Value} (h : Visited options job s)
      (hv : s.cache.entries[key]? = some v) : Arises options job v

theorem Visited.holds (hjob : (provenance options.depthLimit e).Asked () job) {s : Session}
    (h : Visited options job s) : s.Holds (Value.MadeIn e) := by
  cases h with
  | @before q hq =>
    cases q with
    | evaluate => exact (belongs_of_reached hjob hq).2.2
    | render => exact (belongs_of_reached hjob hq).2.2
  | @evaluated _ _ _ _ r hq hr =>
    have hissues := keeps_provenance hr () (belongs_of_reached hjob hq)
    cases r with
    | ok v => exact hissues.2.session.2
    | error f => exact hissues.failed.2
  | @rendered _ _ _ _ _ r hq hr =>
    have hissues := keeps_provenance hr () (belongs_of_reached hjob hq)
    cases r with
    | ok v => exact hissues.session.2
    | error f => exact hissues.failed.2

theorem Arises.madeIn (hjob : (provenance options.depthLimit e).Asked () job) {v : Value}
    (h : Arises options job v) : v.MadeIn e := by
  cases h with
  | returned hq hv => exact (keeps_provenance hv () (belongs_of_reached hjob hq)).1
  | bound hs hv => exact (hs.holds hjob).scope _ _ hv
  | cached hs hv => exact (hs.holds hjob).cache _ _ hv

end Runs

end Evaluator

namespace Session

open Evaluator

/-- Where the values and failures of a run come from. In a run of a program in a session of its own,
whether it ends or not, every closure or tuple that is returned by an evaluation, bound in a scope
or held in the cache is a function or tuple of the program. If the run fails, the failure is located
at a subterm to blame for it, or the sink refused to be flushed and the whole program is named. -/
theorem provenance_of_run (options : EvalOptions) (p : Program) (sink : Sink) :
    (∀ v, Arises options (.evaluate p.expression (.new sink)) v → v.MadeIn p.expression) ∧
    ∀ levels outcome s, run? options levels p (.new sink) = some (outcome, s) →
      s.Holds (Value.MadeIn p.expression) ∧ (∀ v, outcome = .ok v → v.MadeIn p.expression) ∧
      ∀ f, outcome = .error f → f.ArisesIn options.depthLimit p.expression ∨
        s.sink.flushFails = true ∧ f = ⟨.output .flushFailed, p.location⟩ := by
  have hjob := asked_new options.depthLimit p.expression sink
  refine ⟨fun v hv => hv.madeIn hjob, fun levels outcome s hrun => ?_⟩
  obtain ⟨⟨r, after⟩, hr, hs⟩ := Option.bind_eq_some_iff.1 hrun
  have hissues := keeps_provenance hr () hjob
  simp only [pure, Option.some.injEq, Prod.mk.injEq] at hs
  obtain ⟨rfl, rfl⟩ := hs
  have hnew := Holds.new (Value.MadeIn p.expression) sink
  cases r with
  | error f =>
    have hafter : after.Holds (Value.MadeIn p.expression) := hissues.failed.2
    refine ⟨hafter.withScope hnew, by simp, fun g hg => .inl ?_⟩
    cases hg
    exact hissues.failed.1
  | ok v =>
    have hafter : after.Holds (Value.MadeIn p.expression) := hissues.2.session.2
    refine ⟨hafter.withScope hnew, ?_, ?_⟩
    · intro w hw
      cases hf : after.sink.flush with
      | ok u => rw [hf] at hw; cases hw; exact hissues.1
      | error c => rw [hf] at hw; cases hw
    · intro f hf
      cases hflush : after.sink.flush with
      | ok u => rw [hflush] at hf; cases hf
      | error c =>
        rw [hflush] at hf
        cases hf
        unfold Sink.flush at hflush
        split at hflush <;> cases hflush
        exact .inr ⟨‹_›, rfl⟩

end Session

end Treewalk
