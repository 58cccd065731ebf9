import Mathlib
import Treewalk.Proofs.Evaluation.Simulation
import Treewalk.Proofs.Evaluation.Success

/-!
# The cache before its first hit

Until something is found in the cache, the cache does nothing. To make a signature, to ask in vain
and to remember a result have no effect on what a program comes to or writes, whatever the program
is. So a run without a single hit is the same without memoization
(`Session.run?_of_hits_eq_zero`).

What goes on after a first hit is of no interest, since hits are never taken back: a run that ends
without one had none at any time.
-/

namespace Treewalk

namespace Cache

variable {c : Cache} {key : String}

theorem hits_get?_of_none (h : c.entries[key]? = none) : (c.get? key).2.hits = c.hits := by
  unfold get?
  rw [h]

theorem hits_get?_of_some {v : Value} (h : c.entries[key]? = some v) :
    (c.get? key).2.hits = c.hits + 1 := by
  unfold get?
  rw [h]

end Cache

namespace Evaluator

/-- An evaluation that asks the cache, and the same one without memoization, until the first hit. -/
def untilHit : Simulation where
  term := Eq
  cache _ _ := True
  followed c := c.hits = 0

section Enter

variable {o₁ o₂ : (job : Job) → Option job.Answer} {t u : Term} {frame frame' : Scope}
  {key : String} {s s' : Session} {r : Except Failure Value}

theorem hits_ne_zero_of_hit {v : Value} (hentry : s.cache.entries[key]? = some v)
    (h : exec o₁ (enter (some key) frame t) s = some (r, s')) : s'.cache.hits ≠ 0 := by
  rw [exec_enter_of_hit hentry] at h
  cases h
  rw [Cache.hits_get?_of_some hentry]
  exact Nat.succ_ne_zero _

/-- After a miss the body is evaluated. If its value is remembered, this changes nothing but the
entries of the cache. -/
theorem exists_evaluateIn_of_miss (hentry : s.cache.entries[key]? = none)
    (h : exec o₁ (enter (some key) frame t) s = some (r, s')) :
    ∃ s'', exec o₁ (evaluateIn frame t) { s with cache := (s.cache.get? key).2 } =
        some (r, s'') ∧ s''.cache.hits = s'.cache.hits ∧ s' = { s'' with cache := s'.cache } := by
  rw [exec_enter_of_miss hentry] at h
  obtain ⟨⟨r', s''⟩, hr, h⟩ := Option.map_eq_some_iff.1 h
  cases r' with
  | error f =>
    cases h
    exact ⟨_, hr, rfl, rfl⟩
  | ok v =>
    simp only at h
    by_cases hp : s''.prints = s.prints
    · rw [if_pos hp] at h
      cases h
      exact ⟨_, hr, rfl, rfl⟩
    · rw [if_neg hp] at h
      cases h
      exact ⟨_, hr, rfl, rfl⟩

/-- A body that is not found in the cache is entered as if there were no cache. -/
theorem untilHit_enter
    (hbody : untilHit.Simulates o₁ o₂ (Value.Like Eq) (evaluateIn frame t)
      (evaluateIn frame' u)) (key? : Option String) :
    untilHit.Simulates o₁ o₂ (Value.Like Eq) (enter key? frame t)
      (evaluateIn frame' u) := by
  cases key? with
  | none => exact hbody
  | some key =>
    refine ⟨fun {s₁ s₂ s₁' r₁} hs hx hfollowed => ?_, fun {s s' r} hx hfollowed => ?_⟩
    · cases hentry : s₁.cache.entries[key]? with
      | some v => exact absurd hfollowed (hits_ne_zero_of_hit hentry hx)
      | none =>
        obtain ⟨s, hr, hhits, hs₁'⟩ := exists_evaluateIn_of_miss hentry hx
        have hasked : untilHit.Coupled { s₁ with cache := (s₁.cache.get? key).2 } s₂ :=
          ⟨hs.scope, trivial, hs.sink_eq, hs.prints_eq, hs.depth_eq⟩
        obtain ⟨r₂, s₂', hr₂, hagree, hs'⟩ := hbody.follow hasked hr (hhits.trans hfollowed)
        rw [hs₁']
        exact ⟨r₂, s₂', hr₂, hagree, hs'.scope, trivial, hs'.sink_eq, hs'.prints_eq, hs'.depth_eq⟩
    · cases hentry : s.cache.entries[key]? with
      | some v => exact absurd hfollowed (hits_ne_zero_of_hit hentry hx)
      | none =>
        obtain ⟨s'', hr, hhits, -⟩ := exists_evaluateIn_of_miss hentry hx
        have hasked : (s.cache.get? key).2.hits = 0 := hbody.back hr (hhits.trans hfollowed)
        exact (Cache.hits_get?_of_none hentry).symm.trans hasked

end Enter

theorem untilHit_lawful (limit : Nat) : untilHit.Lawful ⟨limit, true⟩ ⟨limit, false⟩ where
  limit_eq := rfl
  parts {t u} h := by
    obtain rfl : t = u := h
    exact t.matches_self
  alone := .inr fun _ => rfl
  enter _ _ hbody := untilHit_enter hbody _

end Evaluator

open Evaluator in
/-- The cache is inert until its first hit. If a run of any program with memoization ends without a
hit, a run without memoization comes to the same value or failure and writes the same, whatever the
limit on depth and the sink. -/
theorem Session.run?_of_hits_eq_zero {limit levels : Nat} {p : Program} {sink : Sink}
    {r : Except Failure Value} {s : Session}
    (h : Session.run? ⟨limit, true⟩ levels p (.new sink) = some (r, s))
    (hhits : s.cache.hits = 0) :
    ∃ s', Session.run? ⟨limit, false⟩ levels p (.new sink) = some (r, s') ∧ s'.sink = s.sink := by
  obtain ⟨r', s', h', hs, hagree⟩ := (untilHit_lawful limit).follow_run rfl trivial h hhits
  have hr : r' = r := by
    rcases hagree with hagree | ⟨e, rfl, rfl⟩
    · cases hagree with
      | ok hvw => rw [hvw.eq]
      | error hfg => rw [hfg.eq]
    · rfl
  exact ⟨s', hr ▸ h', hs.sink_eq.symm⟩

/-- `(fn (n) => print(n))(3)`, a call that is asked for in the cache and not found there. -/
def Program.printingCall : Program where
  name := "printing call"
  location := default
  expression := .call
    (.function [⟨"n", default⟩] (.print (.var "n" default) default) default) [.int 3 default]
    default

open Evaluator in
theorem Session.run?_printingCall :
    Session.run? ⟨3, true⟩ 4 Program.printingCall (.new .unlimited) =
      some (.ok .nil, ⟨∅, ⟨∅, 0, 1⟩, ⟨none, false, "3\n".toUTF8⟩, 1, 0⟩) := by
  let s : Session := Session.deeper (.new .unlimited)
  have hcallee : Walk.answerWithin (body ⟨3, true⟩) 3 (.evaluate
      (.function [⟨"n", default⟩] (.print (.var "n" default) default) default) s) =
      some (.ok (.closure [⟨"n", default⟩] (.print (.var "n" default) default) default), s) :=
    Succeeds.answer_eq (by decide) .function
  have hargument : Walk.answerWithin (body ⟨3, true⟩) 3 (.evaluate (.int 3 default) s) =
      some (.ok (.int 3), s) := answer_of_int (by decide)
  have hkey : signature? (.function [⟨"n", default⟩] (.print (.var "n" default) default) default)
      default [.int 3] = some "0,0,3," := by cbv
  have hentry : (∅ : Cache).entries["0,0,3,"]? = none := by simp
  have hasked : ((∅ : Cache).get? "0,0,3,").2 = ⟨∅, 0, 1⟩ := by
    unfold Cache.get?
    rw [hentry]
    rfl
  have hbody (c : Cache) : Walk.answerWithin (body ⟨3, true⟩) 3 (.evaluate
      (.print (.var "n" default) default)
      ⟨(∅ : Scope).bindAll [⟨"n", default⟩] [.int 3], c, .unlimited, 0, 1⟩) =
      some (.ok .nil, ⟨(∅ : Scope).bindAll [⟨"n", default⟩] [.int 3], c,
        ⟨none, false, "3\n".toUTF8⟩, 1, 1⟩) := by cbv
  have henter : exec (Walk.answerWithin (body ⟨3, true⟩) 3) (enter (some "0,0,3,")
      ((∅ : Scope).bindAll [⟨"n", default⟩] [.int 3]) (.print (.var "n" default) default)) s =
      some (.ok .nil, ⟨∅, ⟨∅, 0, 1⟩, ⟨none, false, "3\n".toUTF8⟩, 1, 1⟩) := by
    rw [exec_enter_of_miss hentry, exec_evaluateIn]
    simp only [s, Session.new, Session.deeper, hasked, hbody]
    rfl
  have hstep : exec (Walk.answerWithin (body ⟨3, true⟩) 3)
      (step ⟨3, true⟩ Program.printingCall.expression) s =
      some (.ok .nil, ⟨∅, ⟨∅, 0, 1⟩, ⟨none, false, "3\n".toUTF8⟩, 1, 1⟩) := by
    rw [Program.printingCall, step, exec_call_of_threads hcallee rfl (.cons hargument .nil),
      if_pos rfl, hkey]
    exact henter
  have hcall : evaluate? ⟨3, true⟩ 4 Program.printingCall.expression (.new .unlimited) = _ :=
    answer_of_exec (by decide) hstep
  exact Option.bind_eq_some_iff.2 ⟨_, hcall, rfl⟩

theorem Session.run?_printingCall_of_hits_eq_zero :
    Session.run? ⟨3, true⟩ 4 Program.printingCall (.new .unlimited) =
      some (.ok .nil, ⟨∅, ⟨∅, 0, 1⟩, ⟨none, false, "3\n".toUTF8⟩, 1, 0⟩) ∧
    ∃ s', Session.run? ⟨3, false⟩ 4 Program.printingCall (.new .unlimited) = some (.ok .nil, s') ∧
      s'.sink = ⟨none, false, "3\n".toUTF8⟩ :=
  ⟨Session.run?_printingCall, Session.run?_of_hits_eq_zero Session.run?_printingCall rfl⟩

end Treewalk
