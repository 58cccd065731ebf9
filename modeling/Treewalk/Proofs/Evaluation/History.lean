import Mathlib
import Treewalk.Proofs.Evaluation.Output
import Treewalk.Proofs.Signature

/-!
# Histories of a session, and what its cache remembers

A session is used again and again, for evaluations, for writing values and for runs of programs,
and it survives failures. `Session.History` says which operations led to a session.

The cache is never wrong about the past: each of its entries is the value that the body of some
call came to in the course of the history, and the body wrote nothing
(`Session.History.entry_justified`). What is not said is that the call would come to the same value
now. Scoping is dynamic and signatures may collide, so it need not.
-/

namespace Treewalk

namespace Session

open Evaluator

/-- The operations `jobs`, the last one first, led to a session from one in which nothing had
happened. Each may have succeeded or failed. The scope of an operation is chosen by whoever asks for
it, and so is the sink. -/
inductive History (options : EvalOptions) : List Job → Session → Prop
  | new (sink : Sink) : History options [] (.new sink)
  | evaluate {jobs : List Job} {s s' : Session} {levels : Nat} {t : Term} {scope : Scope}
      {sink : Sink} {r : Except Failure Value} (h : History options jobs s)
      (hr : evaluate? options levels t { s with scope := scope, sink := sink } = some (r, s')) :
      History options (.evaluate t { s with scope := scope, sink := sink } :: jobs) s'
  | render {jobs : List Job} {s s' : Session} {levels : Nat} {v : Value} {scope : Scope}
      {sink : Sink} {r : Except Failure String} (h : History options jobs s)
      (hr : render? options levels v { s with scope := scope, sink := sink } = some (r, s')) :
      History options (.render v "" { s with scope := scope, sink := sink } :: jobs) s'
  | run {jobs : List Job} {s s' : Session} {levels : Nat} {p : Program} {sink : Sink}
      {r : Except Failure Value} (h : History options jobs s)
      (hr : run? options levels p { s with sink := sink } = some (r, s')) :
      History options (.evaluate p.expression { s with scope := ∅, sink := sink } :: jobs) s'

/-- What holds of cache and depth in a new session, and again after each job, holds of every session
with a history. Scope and sink cannot take part in this, since each operation may have its own. -/
theorem History.of_answers {options : EvalOptions} {P : List Job → Cache → Nat → Prop}
    (new : P [] ∅ 0)
    (answer : ∀ {jobs : List Job} {job : Job} {n : Nat} {x : job.Answer},
      Walk.answerWithin (body options) n job = some x →
        P jobs job.session.cache job.session.depth →
          P (job :: jobs) (job.after x).cache (job.after x).depth)
    {jobs : List Job} {s : Session} (h : History options jobs s) : P jobs s.cache s.depth := by
  induction h with
  | new sink => exact new
  | evaluate _ hr ih => exact answer hr ih
  | render _ hr ih => exact answer hr ih
  | run _ hr ih =>
    obtain ⟨r', after, hafter, rfl, -⟩ := run?_eq_some hr
    exact answer hafter ih

end Session

namespace Evaluator

/-- The job came up in the course of one of the operations. -/
def CameUp (options : EvalOptions) (jobs : List Job) (q : Job) : Prop :=
  ∃ root ∈ jobs, Walk.Reached (body options) root q

/-- In the course of the operations `jobs` there was a call of the signature `key`: `callee` came to
a function, the arguments came to primitive `values`, one for each parameter, and then the body came
to `v` in the frame in which the parameters have these values, without writing anything. -/
inductive Justified (options : EvalOptions) (jobs : List Job) (key : String) (v : Value) : Prop
  | intro {callee body : Term} {parameters : List Parameter} {place : Location}
      {arguments : List Term} {values : List Value} {levels : Nat}
      {s s₁ s₂ before after : Session}
      (callee_cameUp : CameUp options jobs (.evaluate callee s))
      (callee_eq : Walk.answerWithin (Evaluator.body options) levels (.evaluate callee s) =
        some (.ok (.closure parameters body place), s₁))
      (threads : Threads (Walk.answerWithin (Evaluator.body options) levels) s₁ arguments values s₂)
      (primitive : ∀ w ∈ values, w.isPrimitive = true)
      (length_eq : values.length = parameters.length)
      (signature_eq : signature? callee place values = some key)
      (before_eq : before = { s₂ with
        scope := s₁.scope.bindAll parameters values, cache := (s₂.cache.get? key).2 })
      (body_cameUp : CameUp options jobs (.evaluate body before))
      (body_eq : Walk.answerWithin (Evaluator.body options) levels (.evaluate body before) =
        some (.ok v, after))
      (sink_eq : after.sink = before.sink)

variable {options : EvalOptions} {jobs : List Job} {key : String} {v : Value} {n : Nat}
  {s s' : Session}

theorem CameUp.cons {q : Job} (h : CameUp options jobs q) (root : Job) :
    CameUp options (root :: jobs) q := by
  obtain ⟨r, hr, hq⟩ := h
  exact ⟨r, List.mem_cons_of_mem _ hr, hq⟩

theorem Justified.cons (h : Justified options jobs key v) (root : Job) :
    Justified options (root :: jobs) key v := by
  obtain ⟨hcallee, hclosure, hvalues, hprimitive, hlen, hkey, hbefore, hbody, hv, hsink⟩ := h
  exact .intro (hcallee.cons root) hclosure hvalues hprimitive hlen hkey hbefore (hbody.cons root)
    hv hsink

/-- A call justifies its value if no line was counted and all it asked for was answered in the
course of `jobs`. -/
theorem Earned.justified {o : (job : Job) → Option job.Answer}
    (ho : ∀ q x, o q = some x → CameUp options jobs q ∧
      Walk.answerWithin (body options) n q = some x)
    (h : Earned o key s v s') (hp : s'.prints = s.prints) : Justified options jobs key v := by
  obtain ⟨hcallee, hlen, harguments, hkey, hbody⟩ := h
  obtain ⟨hcalleeUp, hcallee⟩ := ho _ _ hcallee
  obtain ⟨hbodyUp, hbody⟩ := ho _ _ hbody
  exact .intro hcalleeUp hcallee (harguments.mono fun q x hq => (ho q x hq).2)
    (isPrimitive_of_signature? hkey) (harguments.length_eq.trans hlen.symm) hkey rfl hbodyUp hbody
    (sink_eq_of_prints_eq hbody hp)

/-- Every entry of the cache is justified by the operations `jobs`. -/
def Recorded (options : EvalOptions) (jobs : List Job) (c : Cache) : Prop :=
  ∀ (key : String) (v : Value), c.entries[key]? = some v → Justified options jobs key v

theorem Recorded.cons {c : Cache} (h : Recorded options jobs c) (root : Job) :
    Recorded options (root :: jobs) c :=
  fun key v hv => (h key v hv).cons root

/-- Entries are justified all the time. -/
def recording (options : EvalOptions) (jobs : List Job) : Invariant Unit :=
  .ofCaches fun _ c => Recorded options jobs c

theorem recording_lawful {o : (job : Job) → Option job.Answer}
    (ho : ∀ q x, o q = some x → CameUp options jobs q ∧
      Walk.answerWithin (body options) n q = some x) :
    (recording options jobs).Lawful options o := by
  refine Invariant.ofCaches_lawful ?_ ?_
  · exact fun _ _ c key hc k v hv => hc k v (by simpa using hv)
  · intro _ _ s s' key v _ _ hearned hp hs' k w hw
    rw [Cache.entries_insert, Std.HashMap.getElem?_insert] at hw
    split at hw
    · next heq =>
      cases hw
      obtain rfl : key = k := by simpa using heq
      exact hearned.justified ho hp
    · exact hs' k w hw

/-- What an operation adds to the cache is justified by it, whether it succeeds or fails. -/
theorem recorded_of_answer {root : Job} {x : root.Answer}
    (h : Walk.answerWithin (body options) n root = some x) (hroot : root ∈ jobs)
    (hs : Recorded options jobs root.session.cache) :
    Recorded options jobs (root.after x).cache := by
  have hkeeps : (recording options jobs).Keeps root x := by
    refine Invariant.of_answer (fun n o ho _ => recording_lawful (n := n) fun q y hq => ?_) .start h
    obtain ⟨hreached, hy⟩ := ho q y hq
    exact ⟨⟨root, hroot, hreached⟩, hy⟩
  exact cache_of_keeps hkeeps (i := ()) hs

end Evaluator

namespace Session

open Evaluator

/-- The entries of the cache are always justified: whatever operations led to a session, whether
they succeeded or failed and whatever their sinks did, each entry is the value of a call that was
made on the way, and whose body wrote nothing. -/
theorem History.entry_justified {options : EvalOptions} {jobs : List Job} {s : Session}
    (h : History options jobs s) {key : String} {v : Value}
    (hv : s.cache.entries[key]? = some v) : Justified options jobs key v := by
  have hrecorded : Recorded options jobs s.cache :=
    h.of_answers (P := fun jobs c _ => Recorded options jobs c) (fun _ _ hv => by simp at hv)
      fun hx ih => recorded_of_answer hx List.mem_cons_self (ih.cons _)
  exact hrecorded key v hv

/-- No evaluation is left open by the operations that led to a session, not by those that failed
either. -/
theorem History.depth_eq_zero {options : EvalOptions} {jobs : List Job} {s : Session}
    (h : History options jobs s) : s.depth = 0 :=
  h.of_answers (P := fun _ _ depth => depth = 0) rfl fun hx ih => (depth_eq_of_answer hx).trans ih

end Session

/-- A call of `fn (n) => body` with `3`. -/
def Term.callOfThree (body : Term) : Term :=
  .call (.function [⟨"n", default⟩] body default) [.int 3 default] default

namespace Session

open Evaluator

variable {s : Session}

theorem evaluate?_callOfThree (t : Term) (hd : s.depth = 0) :
    evaluate? ⟨2, true⟩ 3 (.callOfThree t) s =
      (exec (Walk.answerWithin (body ⟨2, true⟩) 2)
        (enter (some "0,0,3,") (s.scope.bind "n" (.int 3)) t) s.deeper).map
          (Prod.map id shallower) := by
  have hlt : s.depth + 1 < 2 := by omega
  have hcallee : Walk.answerWithin (body ⟨2, true⟩) 2
      (.evaluate (.function [⟨"n", default⟩] t default) s.deeper) =
        some (.ok (.closure [⟨"n", default⟩] t default), s.deeper) :=
    Succeeds.answer_eq hlt .function
  have hargument : Walk.answerWithin (body ⟨2, true⟩) 2 (.evaluate (.int 3 default) s.deeper) =
      some (.ok (.int 3), s.deeper) := answer_of_int hlt
  have hkey : signature? (.function [⟨"n", default⟩] t default) default [.int 3] =
      some "0,0,3," := by cbv
  unfold evaluate? Term.callOfThree
  rw [answer_of_lt_limit (Nat.lt_of_succ_lt hlt), step,
    exec_call_of_threads hcallee rfl (.cons hargument .nil), if_pos rfl, hkey]
  rfl

/-- The call of the identity leaves an entry if there was none. -/
theorem exists_entry_of_callOfThree (hd : s.depth = 0)
    (hmiss : s.cache.entries["0,0,3,"]? = none) :
    ∃ s', evaluate? ⟨2, true⟩ 3 (.callOfThree (.var "n" default)) s = some (.ok (.int 3), s') ∧
      s'.cache.entries["0,0,3,"]? = some (.int 3) := by
  have hlt : s.depth + 1 < 2 := by omega
  have hmiss : s.deeper.cache.entries["0,0,3,"]? = none := hmiss
  rw [evaluate?_callOfThree _ hd, exec_enter_of_miss hmiss, exec_evaluateIn,
    answer_of_var hlt (Scope.lookup?_bind_self ..)]
  exact ⟨_, rfl, by simp [shallower]⟩

/-- The entry that a call left is still there, and justified, after an evaluation that failed. -/
theorem justified_of_callOfThree :
    ∃ jobs s, History ⟨2, true⟩ jobs s ∧ jobs.length = 2 ∧
      s.cache.entries["0,0,3,"]? = some (.int 3) ∧
      Justified ⟨2, true⟩ jobs "0,0,3," (.int 3) := by
  obtain ⟨s, hs, hentry⟩ := exists_entry_of_callOfThree (s := .new .unlimited) rfl
    (by simp [Session.new])
  have hcalled : History ⟨2, true⟩ _ s := (History.new .unlimited).evaluate hs
  have hlt : s.depth < 2 := by rw [hcalled.depth_eq_zero]; decide
  have hfails : evaluate? ⟨2, true⟩ 1 (.var "x" default) { s with scope := ∅, sink := .unlimited } =
      some (.error ⟨.undefinedVariable "x", default⟩,
        { s with scope := ∅, sink := .unlimited }) :=
    answer_of_unbound hlt (Scope.lookup?_empty "x")
  have hhistory := hcalled.evaluate hfails
  exact ⟨_, _, hhistory, rfl, hentry, hhistory.entry_justified hentry⟩

end Session

end Treewalk
