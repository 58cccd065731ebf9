/-! # Walks: recursion on a stack of its own

A recursive function over terms or documents may have to go a hundred thousand levels deep. Such a
function is written here as a `Walk`: the body of one call, which asks for the answers of other
calls by `visit`. A `Traversal` is a body whose visits go down a well-founded order, and
`Traversal.answer` runs it with the pending calls held in a list, so that depth costs heap only.

The list is never seen by a proof: `Traversal.answer_eq` is the recursive equation that the body
reads as. Where no order bounds the visits, `Walk.answerWithin` cuts the recursion off at a given
number of levels, and `Walk.answerWithin_succ` is its equation. -/

namespace Treewalk

/-- A computation of an `α` that may ask for the answers of jobs on its way. -/
inductive Walk {Job : Type} (Ans : Job → Type) (α : Type) : Type where
  /-- The result is there. -/
  | done (a : α)
  /-- Ask for the answer of `job`, then go on with `resume`. -/
  | visit (job : Job) (resume : Ans job → Walk Ans α)

namespace Walk

variable {Job : Type} {Ans : Job → Type} {α β γ : Type}

/-- Sequencing: the second walk starts from the result of the first. -/
def bind : Walk Ans α → (α → Walk Ans β) → Walk Ans β
  | done a, f => f a
  | visit job resume, f => visit job fun x => (resume x).bind f

instance : Monad (Walk Ans) where
  pure := done
  bind := bind

/-- The walk that asks for one job and returns its answer. -/
def ask (job : Job) : Walk Ans (Ans job) := visit job done

/-- Every job that the walk can ask for satisfies `p`. -/
def Visits (p : Job → Prop) : Walk Ans α → Prop
  | done _ => True
  | visit job resume => p job ∧ ∀ x, (resume x).Visits p

/-- The result of a walk whose jobs are answered by `answers`. -/
def eval (answers : (job : Job) → Ans job) : Walk Ans α → α
  | done a => a
  | visit job resume => (resume (answers job)).eval answers

/-- The result of a walk whose jobs are answered by `answers`, if it answers all that are asked. -/
def eval? (answers : (job : Job) → Option (Ans job)) : Walk Ans α → Option α
  | done a => some a
  | visit job resume => (answers job).bind fun x => (resume x).eval? answers

@[simp] theorem pure_eq_done (a : α) : (pure a : Walk Ans α) = done a := rfl

@[simp] theorem bind_eq_bind (w : Walk Ans α) (f : α → Walk Ans β) : w >>= f = w.bind f := rfl

@[simp] theorem bind_done (w : Walk Ans α) : w.bind done = w := by
  induction w with
  | done a => rfl
  | visit job resume ih => simp only [bind, ih]

theorem bind_assoc (w : Walk Ans α) (f : α → Walk Ans β) (g : β → Walk Ans γ) :
    (w.bind f).bind g = w.bind fun a => (f a).bind g := by
  induction w with
  | done a => rfl
  | visit job resume ih => simp only [bind, ih]

instance : LawfulMonad (Walk Ans) := LawfulMonad.mk' _
  bind_done
  (fun _ _ => rfl)
  bind_assoc

@[simp] theorem visits_done (p : Job → Prop) (a : α) : (done a : Walk Ans α).Visits p := trivial

@[simp] theorem visits_ask {p : Job → Prop} {job : Job} :
    (ask job : Walk Ans (Ans job)).Visits p ↔ p job :=
  ⟨fun h => h.1, fun h => ⟨h, fun _ => trivial⟩⟩

theorem visits_bind {p : Job → Prop} {w : Walk Ans α} {f : α → Walk Ans β}
    (hw : w.Visits p) (hf : ∀ a, (f a).Visits p) : (w.bind f).Visits p := by
  induction w with
  | done a => exact hf a
  | visit job resume ih => exact ⟨hw.1, fun x => ih x (hw.2 x)⟩

@[simp] theorem eval_done (answers : (job : Job) → Ans job) (a : α) :
    (done a : Walk Ans α).eval answers = a := rfl

@[simp] theorem eval_ask (answers : (job : Job) → Ans job) (job : Job) :
    (ask job).eval answers = answers job := rfl

@[simp] theorem eval_bind (answers : (job : Job) → Ans job) (w : Walk Ans α)
    (f : α → Walk Ans β) : (w.bind f).eval answers = (f (w.eval answers)).eval answers := by
  induction w with
  | done a => rfl
  | visit job resume ih => exact ih _

@[simp] theorem eval?_done (answers : (job : Job) → Option (Ans job)) (a : α) :
    (done a : Walk Ans α).eval? answers = some a := rfl

@[simp] theorem eval?_ask (answers : (job : Job) → Option (Ans job)) (job : Job) :
    (ask job).eval? answers = answers job := by
  cases h : answers job <;> simp [ask, eval?, h]

@[simp] theorem eval?_bind (answers : (job : Job) → Option (Ans job)) (w : Walk Ans α)
    (f : α → Walk Ans β) :
    (w.bind f).eval? answers = (w.eval? answers).bind fun a => (f a).eval? answers := by
  induction w with
  | done a => rfl
  | visit job resume ih => simp only [bind, eval?, ih, Option.bind_assoc]

/-- A source of answers that knows more jobs keeps every result that was reached. -/
theorem eval?_mono {o o' : (job : Job) → Option (Ans job)}
    (h : ∀ job x, o job = some x → o' job = some x) {w : Walk Ans α} {a : α}
    (ha : w.eval? o = some a) : w.eval? o' = some a := by
  induction w with
  | done b => exact ha
  | visit job resume ih =>
    obtain ⟨x, hx, hr⟩ := Option.bind_eq_some_iff.1 ha
    exact Option.bind_eq_some_iff.2 ⟨x, h job x hx, ih x hr⟩

end Walk

/-- A recursive function given by its body: `body job` asks only for jobs below `job`. -/
structure Traversal {Job : Type} (Ans : Job → Type) where
  body : (job : Job) → Walk Ans (Ans job)
  below : Job → Job → Prop
  below_wf : WellFounded below
  visits_body : ∀ job, (body job).Visits (below · job)

namespace Traversal

variable {Job : Type} {Ans : Job → Type}

/-- The calls that wait for an `α`, innermost first; the outermost one returns a `β`. -/
inductive Stack (Ans : Job → Type) (β : Type) : Type → Type 1 where
  | nil : Stack Ans β β
  | push {α γ : Type} (resume : α → Walk Ans γ) (rest : Stack Ans β γ) : Stack Ans β α

/-- What `run` works on: a walk, and the calls that wait for its result. -/
structure Config (t : Traversal Ans) (β : Type) where
  {α : Type}
  walk : Walk Ans α
  stack : Stack Ans β α

/-- One step of `run`, the later configuration first. -/
inductive Step (t : Traversal Ans) {β : Type} : t.Config β → t.Config β → Prop where
  | resume {α γ : Type} (a : α) (resume : α → Walk Ans γ) (rest : Stack Ans β γ) :
      Step t ⟨resume a, rest⟩ ⟨.done a, .push resume rest⟩
  | enter {α : Type} (job : Job) (resume : Ans job → Walk Ans α) (rest : Stack Ans β α) :
      Step t ⟨t.body job, .push resume rest⟩ ⟨.visit job resume, rest⟩

/-- The steps of a walk come to an end if those of its result do, and those of the jobs it asks
for. -/
private theorem acc_walk {t : Traversal Ans} {β : Type} {p : Job → Prop}
    (hp : ∀ job, p job → ∀ st : Stack Ans β (Ans job),
      (∀ x, Acc t.Step ⟨.done x, st⟩) → Acc t.Step ⟨t.body job, st⟩)
    {α : Type} {w : Walk Ans α} (hw : w.Visits p) (st : Stack Ans β α)
    (hst : ∀ a, Acc t.Step ⟨.done a, st⟩) : Acc t.Step ⟨w, st⟩ := by
  induction w with
  | done a => exact hst a
  | visit job resume ih =>
    refine ⟨_, fun _ hs => ?_⟩
    cases hs
    refine hp job hw.1 _ fun x => ⟨_, fun _ hs => ?_⟩
    cases hs
    exact ih x (hw.2 x)

private theorem acc_body (t : Traversal Ans) {β : Type} (job : Job) (st : Stack Ans β (Ans job))
    (hst : ∀ x, Acc t.Step ⟨.done x, st⟩) : Acc t.Step ⟨t.body job, st⟩ := by
  induction job using t.below_wf.induction with
  | _ job ih => exact acc_walk (fun q hq st' => ih q hq st') (t.visits_body job) st hst

private theorem visits_true {α : Type} (w : Walk Ans α) : w.Visits fun _ => True := by
  induction w with
  | done a => trivial
  | visit job resume ih => exact ⟨trivial, ih⟩

private theorem acc_done (t : Traversal Ans) {α β : Type} (st : Stack Ans β α) (a : α) :
    Acc t.Step ⟨.done a, st⟩ := by
  induction st with
  | nil => exact ⟨_, fun _ hs => by cases hs⟩
  | push resume rest ih =>
    refine ⟨_, fun _ hs => ?_⟩
    cases hs
    exact acc_walk (fun q _ st' => acc_body t q st') (visits_true _) rest ih

instance (t : Traversal Ans) (β : Type) : WellFoundedRelation (t.Config β) where
  rel := t.Step
  wf := ⟨fun c => acc_walk (fun q _ st => acc_body t q st) (visits_true c.walk) c.stack
    fun a => acc_done t c.stack a⟩

/-- Run a walk and hand its result to the waiting calls, one after another. -/
@[specialize] def run (t : Traversal Ans) {α β : Type} (w : Walk Ans α) (st : Stack Ans β α) : β :=
  match w, st with
  | .done a, .nil => a
  | .done a, .push resume rest => t.run (resume a) rest
  | .visit job resume, st => t.run (t.body job) (.push resume st)
termination_by (⟨w, st⟩ : t.Config β)
decreasing_by
  · exact .resume a resume rest
  · exact .enter job resume st

/-- The answer of `job`. -/
@[inline] def answer (t : Traversal Ans) (job : Job) : Ans job := t.run (t.body job) .nil

private theorem run_eq_run_done (t : Traversal Ans) {p : Job → Prop} {β : Type}
    (hp : ∀ job, p job → ∀ st : Stack Ans β (Ans job),
      t.run (t.body job) st = t.run (.done (t.answer job)) st)
    {α : Type} {w : Walk Ans α} (hw : w.Visits p) (st : Stack Ans β α) :
    t.run w st = t.run (.done (w.eval t.answer)) st := by
  induction w with
  | done a => rfl
  | visit job resume ih =>
    rw [run, hp job hw.1, run, ih _ (hw.2 _), Walk.eval]

private theorem run_body (t : Traversal Ans) (job : Job) :
    t.answer job = (t.body job).eval t.answer ∧
      ∀ {β : Type} (st : Stack Ans β (Ans job)),
        t.run (t.body job) st = t.run (.done (t.answer job)) st := by
  induction job using t.below_wf.induction with
  | _ job ih =>
    have key : ∀ {β : Type} (st : Stack Ans β (Ans job)),
        t.run (t.body job) st = t.run (.done ((t.body job).eval t.answer)) st := fun st =>
      run_eq_run_done t (fun q hq st' => (ih q hq).2 st') (t.visits_body job) st
    have heq : t.answer job = (t.body job).eval t.answer := by
      rw [answer, key, run]
    exact ⟨heq, fun st => by rw [key, ← heq]⟩

/-- The answer of a job is its body, read as a recursive definition. -/
theorem answer_eq (t : Traversal Ans) (job : Job) :
    t.answer job = (t.body job).eval t.answer :=
  (run_body t job).1

end Traversal

namespace Walk

variable {Job : Type} {Ans : Job → Type} {α : Type}

/-- The same walk with jobs that carry the number of levels left to them, none of whose answers
need exist. -/
def within (n : Nat) : Walk Ans α → Walk (fun q : Nat × Job => Option (Ans q.2)) (Option α)
  | done a => done (some a)
  | visit job resume => visit (n, job) fun
    | none => done none
    | some x => (resume x).within n

theorem visits_within (n : Nat) (w : Walk Ans α) : (w.within n).Visits fun q => q.1 < n + 1 := by
  induction w with
  | done a => trivial
  | visit job resume ih =>
    rw [within, Visits]
    refine ⟨Nat.lt_succ_self n, fun x => ?_⟩
    cases x with
    | none => trivial
    | some x => exact ih x

theorem eval_within (answers : (q : Nat × Job) → Option (Ans q.2)) (n : Nat) (w : Walk Ans α) :
    (w.within n).eval answers = w.eval? fun job => answers (n, job) := by
  induction w with
  | done a => rfl
  | visit job resume ih =>
    simp only [within, eval, eval?]
    cases answers (n, job) with
    | none => rfl
    | some x => exact ih x

/-- Any body at all, as a traversal that gives up below a given number of levels. -/
def bounded (body : (job : Job) → Walk Ans (Ans job)) :
    Traversal fun q : Nat × Job => Option (Ans q.2) where
  body := fun
    | (0, _) => done none
    | (n + 1, job) => (body job).within n
  below p q := p.1 < q.1
  below_wf := (measure Prod.fst).wf
  visits_body := by
    intro (n, job)
    cases n with
    | zero => trivial
    | succ n => exact visits_within n (body job)

/-- The answer of `job` if it takes fewer than `n` levels of recursion. -/
@[inline] def answerWithin (body : (job : Job) → Walk Ans (Ans job)) (n : Nat) (job : Job) :
    Option (Ans job) :=
  (bounded body).answer (n, job)

theorem answerWithin_zero (body : (job : Job) → Walk Ans (Ans job)) (job : Job) :
    answerWithin body 0 job = none := by
  rw [answerWithin, Traversal.answer_eq]; rfl

theorem answerWithin_succ (body : (job : Job) → Walk Ans (Ans job)) (n : Nat) (job : Job) :
    answerWithin body (n + 1) job = (body job).eval? (answerWithin body n) := by
  rw [answerWithin, Traversal.answer_eq]
  exact eval_within _ n (body job)

/-- More levels keep every answer that was reached. -/
theorem answerWithin_mono {body : (job : Job) → Walk Ans (Ans job)} {n m : Nat} (h : n ≤ m)
    {job : Job} {x : Ans job} (hx : answerWithin body n job = some x) :
    answerWithin body m job = some x := by
  induction n generalizing m job with
  | zero => rw [answerWithin_zero] at hx; cases hx
  | succ n ih =>
    obtain ⟨k, rfl⟩ : ∃ k, m = k + 1 := ⟨m - 1, by omega⟩
    rw [answerWithin_succ] at hx ⊢
    exact eval?_mono (fun q y hy => ih (by omega) hy) hx

end Walk

end Treewalk
