import Mathlib
import Treewalk.Proofs.Evaluation.History
import Treewalk.Proofs.Evaluation.Lockstep

/-!
# Sessions with a past

A session stays usable, whatever happened in it before. Without memoization its past shows in what
its sink holds and in the count of lines only: an evaluation comes to the same in it as in a session
in which nothing has happened, and what it writes comes after what was written before
(`Session.History.resumes`). The past may hold failures of any kind. Each of them gives back the
levels it had gone down (`Session.History.depth_eq_zero`), so that later evaluations have as much
depth left as the first one had. Then the two evaluations are in lockstep, and neither of them ever
halts alone.

With memoization there is no such statement, since entries of the cache may be found again.
-/

namespace Treewalk

/-- What has become of a new session, in a session with a past: the scope and the depth are those of
the new one, the cache is that of the past, and new lines come after the lines of the past. -/
def Session.onTop (past s : Session) : Session where
  scope := s.scope
  cache := past.cache
  sink := { past.sink with contents := past.sink.contents ++ s.sink.contents }
  prints := past.prints + s.prints
  depth := s.depth

/-- A past in which no evaluation is open is like a new session. -/
theorem Session.onTop_new {past : Session} (hdepth : past.depth = 0) (scope : Scope) :
    past.onTop { Session.new .unlimited with scope := scope } = { past with scope := scope } := by
  have hcontents : past.sink.contents ++ Sink.unlimited.contents = past.sink.contents :=
    ByteArray.append_empty
  unfold onTop
  simp only [Session.new, hcontents, Nat.add_zero, hdepth]

namespace Evaluator

/-- An evaluation in a new session, and the same one in a session with a past. -/
def resuming (past : Session) : Pairing where
  together s₁ s₂ := s₁.sink.limit = none ∧ s₂ = past.onTop s₁
  halts _ := False
  behind _ _ := True

/-- A line that is written to both sinks comes last in both. -/
theorem resuming_line {past : Session} (hpast : past.sink.limit = none)
    {o₁ o₂ : (job : Job) → Option job.Answer} {s₁ s₂ : Session} (location : Location)
    (text : String) (h : (resuming past).together s₁ s₂) :
    (resuming past).Sim (exec o₁ (printLine location text) s₁)
      (exec o₂ (printLine location text) s₂) := by
  obtain ⟨hlimit, rfl⟩ := h
  obtain ⟨scope, cache, ⟨limit, flushFails, contents⟩, prints, depth⟩ := s₁
  obtain ⟨scope', cache', ⟨limit', flushFails', contents'⟩, prints', depth'⟩ := past
  obtain rfl : limit = none := hlimit
  obtain rfl : limit' = none := hpast
  rw [exec_printLine, exec_printLine]
  simp only [Session.onTop, Sink.writeLine_unlimited]
  refine .alike ⟨rfl, ?_⟩
  simp only [Session.onTop, ByteArray.append_assoc, Nat.add_assoc]

theorem resuming_lawful {past : Session} (hpast : past.sink.limit = none) (limit : Nat) :
    (resuming past).Lawful limit false where
  scope_eq h := by rw [h.2]; rfl
  withScope scope h := ⟨h.1, by rw [h.2]; rfl⟩
  depth_eq h := by rw [h.2]; rfl
  deeper h _ := ⟨h.1, by rw [h.2]; rfl⟩
  shallower h := ⟨h.1, by rw [h.2]; rfl⟩
  cache_eq h := by cases h
  prints_eq h := by cases h
  withCache _ h := by cases h
  line location text h := resuming_line hpast location text h
  behind_grows _ _ := trivial

/-- Replies in lockstep are the same but for the past. -/
theorem eq_onTop_of_sim {α : Type} {past : Session} {x y : Option (Reply α)}
    (h : (resuming past).Sim x y) : y = x.map (Prod.map id past.onTop) := by
  cases h with
  | none => rfl
  | alike hs => rw [hs.2]; rfl
  | halted hf => exact hf.elim

end Evaluator

namespace Session

open Evaluator

/-- Without memoization no history reaches the cache. -/
theorem History.cache_eq_empty {limit : Nat} {jobs : List Job} {s : Session}
    (h : History ⟨limit, false⟩ jobs s) : s.cache = ∅ :=
  h.of_answers (P := fun _ c _ => c = ∅) rfl fun hx ih => (cache_eq_of_answer rfl hx).trans ih

/-- A session stays usable. Without memoization and with unlimited room, whatever operations led to
a session, whether they succeeded or failed: to evaluate a term or to write a value in any scope
comes to the same value or failure as in a new session, with the same scope after it, and the same
bytes are appended. No evaluation is open any more, and the cache is still empty and was never
asked. -/
theorem History.resumes {limit : Nat} {jobs : List Job} {s : Session}
    (h : History ⟨limit, false⟩ jobs s) (hroom : s.sink.limit = none) (scope : Scope)
    (levels : Nat) :
    (∀ t, evaluate? ⟨limit, false⟩ levels t { s with scope := scope } =
      (evaluate? ⟨limit, false⟩ levels t { Session.new .unlimited with scope := scope }).map
        (Prod.map id s.onTop)) ∧
    (∀ v, render? ⟨limit, false⟩ levels v { s with scope := scope } =
      (render? ⟨limit, false⟩ levels v { Session.new .unlimited with scope := scope }).map
        (Prod.map id s.onTop)) ∧
    s.depth = 0 ∧ s.cache.counts = (0, 0, 0) := by
  have hpairs := (resuming_lawful hroom limit).pairs_answers (Nat.le_refl limit)
    (fun h => absurd h (Nat.lt_irrefl _)) (fun h => absurd h (Nat.lt_irrefl _)) levels
  -- the levels that the past has given back are what makes the sessions start alike
  have hstart : (resuming s).together { Session.new .unlimited with scope := scope }
      { s with scope := scope } := ⟨rfl, (onTop_new h.depth_eq_zero scope).symm⟩
  refine ⟨fun t => ?_, fun v => ?_, h.depth_eq_zero, ?_⟩
  · have hsim := (hpairs.1 t).sim hstart
    rw [exec_evaluate, exec_evaluate] at hsim
    exact eq_onTop_of_sim hsim
  · have hsim := (hpairs.2 v "").sim hstart
    rw [exec_render, exec_render] at hsim
    exact eq_onTop_of_sim hsim
  · rw [h.cache_eq_empty]
    rfl

end Session

/-- `let a = print("x"); 1 + (1 + 1)`, where the operands of the inner sum are the deepest terms. -/
def Program.deepSum : Program where
  name := "deep sum"
  location := default
  expression := .letIn ⟨"a", default⟩ (.print (.str "x" default) default)
    (.binary (.int 1 default) .add
      (.binary (.int 1 default) .add (.int 1 default) default) default) default

/-- After a run that printed a line and then ran into the limit on depth, a line is printed. -/
theorem Session.History.resumes_after_overflow :
    ∃ jobs s, History ⟨3, false⟩ jobs s ∧ jobs.length = 1 ∧ s.sink.limit = none ∧
      Session.run? ⟨3, false⟩ 5 Program.deepSum (.new .unlimited) =
        some (.error ⟨.stackOverflow 3 3, default⟩, s) ∧
      Session.evaluate? ⟨3, false⟩ 3 (.print (.int 2 default) default) { s with scope := ∅ } =
        some (.ok .nil, ⟨∅, ∅, ⟨none, false, "x\n2\n".toUTF8⟩, 2, 0⟩) := by
  have hrun : Session.run? ⟨3, false⟩ 5 Program.deepSum (.new .unlimited) =
      some (.error ⟨.stackOverflow 3 3, default⟩,
        ⟨∅, ∅, ⟨none, false, "x\n".toUTF8⟩, 1, 0⟩) := by cbv
  have hnew : Session.evaluate? ⟨3, false⟩ 3 (.print (.int 2 default) default)
      { Session.new .unlimited with scope := ∅ } =
        some (.ok .nil, ⟨∅, ∅, ⟨none, false, "2\n".toUTF8⟩, 1, 0⟩) := by cbv
  have hhistory := (History.new .unlimited).run hrun
  refine ⟨_, _, hhistory, rfl, rfl, hrun, ?_⟩
  rw [(hhistory.resumes rfl ∅ 3).1, hnew]
  have hcontents : "x\n".toUTF8 ++ "2\n".toUTF8 = "x\n2\n".toUTF8 := by cbv
  simp only [Option.map_some, Prod.map, id, Session.onTop, hcontents]

end Treewalk
