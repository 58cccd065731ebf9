import Treewalk.Walk

/-!
# What a walk asks for

A body that is run by `Walk.answerWithin` need not come to an end, so what can be said of it is said
of the calls it makes and of the answers they have. `Walk.Meets` is the weakest precondition of one
walk: the jobs it asks for satisfy `pre`, and its result satisfies `post`, as long as jobs are
answered by `o`. `Walk.Reached` are the calls made on the way, in a run that ends or not.

A walk that comes to a result does so with the answers it asked for, and no others are needed
(`Walk.exists_asked`).
-/

namespace Treewalk

namespace Walk

variable {Job : Type} {Ans : Job → Type} {α β : Type}

/-- With jobs answered by `o`, the walk asks for a job on its way. -/
inductive Asks (o : (job : Job) → Option (Ans job)) : Walk Ans α → Job → Prop
  | now (job : Job) (resume : Ans job → Walk Ans α) : Asks o (visit job resume) job
  | later {job q : Job} {resume : Ans job → Walk Ans α} {x : Ans job} (hx : o job = some x)
      (h : Asks o (resume x) q) : Asks o (visit job resume) q

/-- With jobs answered by `o`, the walk asks only for jobs that satisfy `pre`, and what it comes to
satisfies `post`. -/
def Meets (o : (job : Job) → Option (Ans job)) (pre : Job → Prop) (post : α → Prop) :
    Walk Ans α → Prop
  | done a => post a
  | visit job resume => pre job ∧ ∀ x, o job = some x → (resume x).Meets o pre post

variable {o : (job : Job) → Option (Ans job)} {pre : Job → Prop} {post : α → Prop}

theorem Meets.result {w : Walk Ans α} (h : w.Meets o pre post) {a : α} (ha : w.eval? o = some a) :
    post a := by
  induction w with
  | done b => cases ha; exact h
  | visit job resume ih =>
    obtain ⟨x, hx, hr⟩ := Option.bind_eq_some_iff.1 ha
    exact ih x (h.2 x hx) hr

theorem Meets.asks {w : Walk Ans α} (h : w.Meets o pre post) {q : Job} (hq : w.Asks o q) :
    pre q := by
  induction hq with
  | now job resume => exact h.1
  | later hx _ ih => exact ih (h.2 _ hx)

/-- A walk comes to a result if the jobs that it asks for are answered. -/
theorem Meets.isSome {w : Walk Ans α} (h : w.Meets o pre post)
    (ho : ∀ q, pre q → (o q).isSome = true) : (w.eval? o).isSome = true := by
  induction w with
  | done a => rfl
  | visit job resume ih =>
    obtain ⟨x, hx⟩ := Option.isSome_iff_exists.1 (ho job h.1)
    rw [eval?, hx]
    exact ih x (h.2 x hx)

theorem Meets.mono {post' : α → Prop} (hp : ∀ a, post a → post' a) {w : Walk Ans α}
    (h : w.Meets o pre post) : w.Meets o pre post' := by
  induction w with
  | done a => exact hp a h
  | visit job resume ih => exact ⟨h.1, fun x hx => ih x (h.2 x hx)⟩

theorem Meets.bind {post' : β → Prop} {w : Walk Ans α} {f : α → Walk Ans β}
    (h : w.Meets o pre fun a => (f a).Meets o pre post') : (w.bind f).Meets o pre post' := by
  induction w with
  | done a => exact h
  | visit job resume ih => exact ⟨h.1, fun x hx => ih x (h.2 x hx)⟩

/-- Only the answers of jobs that are asked for matter. -/
theorem eval?_congr {o o' : (job : Job) → Option (Ans job)} {w : Walk Ans α}
    (h : ∀ q, w.Asks o q → o' q = o q) : w.eval? o' = w.eval? o := by
  induction w with
  | done a => rfl
  | visit job resume ih =>
    rw [eval?, eval?, h job (.now job resume)]
    cases hx : o job with
    | none => rfl
    | some x => exact ih x fun q hq => h q (.later hx hq)

/-- A walk comes to the same result with the answers that it asks for, and no others. -/
theorem exists_asked {o : (job : Job) → Option (Ans job)} {w : Walk Ans α} {a : α}
    (h : w.eval? o = some a) :
    ∃ o', (∀ q x, o' q = some x → w.Asks o q ∧ o q = some x) ∧ w.eval? o' = some a := by
  classical
  refine ⟨fun q => if w.Asks o q then o q else none, fun q x hx => ?_, ?_⟩
  · by_cases hq : w.Asks o q
    · exact ⟨hq, (if_pos hq).symm.trans hx⟩
    · cases (if_neg hq).symm.trans hx
  · rw [← h]
    exact eval?_congr fun q hq => if_pos hq

/-- The jobs that come up while `job` is answered by `body`: the job itself, and what is asked for
on behalf of one of them, up to the first that has no answer. -/
inductive Reached (body : (job : Job) → Walk Ans (Ans job)) (job : Job) : Job → Prop
  | start : Reached body job job
  | asked {q q' : Job} {n : Nat} (h : Reached body job q)
      (hq : (body q).Asks (answerWithin body n) q') : Reached body job q'

end Walk

end Treewalk
