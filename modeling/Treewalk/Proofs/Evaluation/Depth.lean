import Mathlib
import Treewalk.Proofs.Evaluation.Lockstep
import Treewalk.Proofs.Evaluation.Provenance

/-!
# The limit on depth

The limit on depth stops a run, and does nothing else. Two runs of a program with different limits
are in lockstep until the smaller one is reached. So a run that does not reach its limit is the same
with any larger one, and one that does has printed the beginning of what it would have printed
(`Session.run?_of_limit_le`).
-/

namespace Treewalk

namespace Evaluator

/-- Evaluations with the limit `limit` and with a larger one. -/
def deepening (limit : Nat) : Pairing where
  together s₁ s₂ := s₁ = s₂ ∧ s₁.depth ≤ limit
  halts f := f.cause = .stackOverflow limit limit
  behind := Sink.Grows

theorem deepening_lawful (limit : Nat) (memoize : Bool) :
    (deepening limit).Lawful limit memoize where
  scope_eq h := congrArg Session.scope h.1
  withScope scope h := ⟨congrArg (fun s : Session => { s with scope := scope }) h.1, h.2⟩
  depth_eq h := congrArg Session.depth h.1
  deeper h hlt := ⟨congrArg Session.deeper h.1, hlt⟩
  shallower h := ⟨congrArg Session.shallower h.1, Nat.le_trans (Nat.pred_le _) h.2⟩
  cache_eq _ h := congrArg Session.cache h.1
  prints_eq _ h := congrArg Session.prints h.1
  withCache cache _ h := ⟨congrArg (fun s : Session => { s with cache := cache }) h.1, h.2⟩
  line {o₁ o₂ s₁ s₂} location text h := by
    obtain ⟨rfl, hd⟩ := h
    rw [exec_printLine, exec_printLine]
    rcases s₁.sink.writeLine text with ⟨e | u, sink⟩
    · exact .alike ⟨rfl, hd⟩
    · exact .alike ⟨rfl, hd⟩
  behind_grows h h' := h.trans h'

variable {limit limit' : Nat} {memoize : Bool} {n n' : Nat} {t : Term} {s after after' : Session}
  {r r' : Except Failure Value}

theorem sim_deepening (memoize : Bool) (hle : limit ≤ limit') (hd : s.depth ≤ limit) (n : Nat)
    (t : Term) :
    (deepening limit).Sim (Walk.answerWithin (body ⟨limit, memoize⟩) n (.evaluate t s))
      (Walk.answerWithin (body ⟨limit', memoize⟩) n (.evaluate t s)) := by
  have hpairs := (deepening_lawful limit memoize).pairs_answers hle
    (fun _ _ _ _ hs hreached =>
      congrArg (Cause.stackOverflow · limit) (Nat.le_antisymm hs.2 hreached))
    (fun _ _ _ hs => hs.1 ▸ .refl _) n
  have hstart : (deepening limit).together s s := ⟨rfl, hd⟩
  have hsim := (hpairs.1 t).sim hstart
  rwa [exec_evaluate, exec_evaluate] at hsim

/-- With a larger limit an evaluation comes to the same, unless the smaller one was reached. -/
theorem eq_or_halted_of_limit_le (hle : limit ≤ limit') (hd : s.depth ≤ limit)
    (h : Walk.answerWithin (body ⟨limit, memoize⟩) n (.evaluate t s) = some (r, after))
    (h' : Walk.answerWithin (body ⟨limit', memoize⟩) n' (.evaluate t s) = some (r', after')) :
    (r' = r ∧ after' = after) ∨ ∃ f, r = .error f ∧ f.cause = .stackOverflow limit limit ∧
      after.sink.Grows after'.sink := by
  have hsim := sim_deepening memoize hle hd (max n n') t
  rw [Walk.answerWithin_mono (Nat.le_max_left n n') h,
    Walk.answerWithin_mono (Nat.le_max_right n n') h'] at hsim
  cases hsim with
  | alike hs => exact .inl ⟨rfl, hs.1.symm⟩
  | halted hf hbehind => exact .inr ⟨_, rfl, hf, hbehind _ _ rfl⟩

/-- An overflow names the limit, and the depth that reached it. -/
theorem stackOverflow_of_answer {options : EvalOptions} {sink : Sink} {f : Failure}
    (h : Walk.answerWithin (body options) n (.evaluate t (.new sink)) = some (.error f, after))
    (hf : f.cause.isResource = true) :
    f.cause = .stackOverflow options.depthLimit options.depthLimit := by
  have harises : f.ArisesIn options.depthLimit t :=
    (keeps_provenance h () (asked_new _ t sink)).failed.1
  unfold Failure.ArisesIn at harises
  cases hc : f.cause with
  | stackOverflow depth limit =>
    rw [hc] at harises
    obtain ⟨rfl, rfl, -⟩ := harises
    rfl
  | _ => rw [hc] at hf; cases hf

end Evaluator

open Evaluator in
/-- The limit on depth is exact and otherwise invisible. Of two runs of a program, the one with the
smaller limit either reaches it, and then it fails at that depth and has written the beginning of
what the other one writes, or the two come to the same and leave the same session behind. -/
theorem Session.run?_of_limit_le {limit limit' : Nat} (hle : limit ≤ limit') {memoize : Bool}
    {p : Program} {sink : Sink} {levels levels' : Nat} {r r' : Except Failure Value}
    {s s' : Session} (h : Session.run? ⟨limit, memoize⟩ levels p (.new sink) = some (r, s))
    (h' : Session.run? ⟨limit', memoize⟩ levels' p (.new sink) = some (r', s')) :
    ((∀ f, r = .error f → f.cause.isResource = false) → r' = r ∧ s' = s) ∧
    ∀ f, r = .error f → f.cause.isResource = true →
      f.cause = .stackOverflow limit limit ∧ s.sink.Grows s'.sink := by
  obtain ⟨x, after, hx, rfl, hr⟩ := Session.run?_eq_some h
  obtain ⟨x', after', hx', rfl, -⟩ := Session.run?_eq_some h'
  obtain ⟨rfl, rfl⟩ | ⟨f, rfl, hf, hgrows⟩ := eq_or_halted_of_limit_le hle (Nat.zero_le _) hx hx'
  · -- flushing depends on nothing but what the evaluations came to
    have hsame : Session.run? ⟨limit', memoize⟩ levels' p (.new sink) =
        Session.run? ⟨limit, memoize⟩ levels p (.new sink) := by
      unfold Session.run?
      rw [hx, hx']
    obtain rfl : r' = r := by
      rw [h, h'] at hsame
      cases hsame
      rfl
    refine ⟨fun _ => ⟨rfl, rfl⟩, fun f hrf hresource => ⟨?_, .refl _⟩⟩
    obtain rfl | ⟨e, rfl⟩ := hr
    · subst hrf
      exact stackOverflow_of_answer hx hresource
    · cases hrf
      cases hresource
  · obtain rfl : r = .error f := by
      unfold Session.run? at h
      rw [hx] at h
      cases h
      rfl
    refine ⟨fun hr => ?_, fun g hg _ => ?_⟩
    · have := hr f rfl
      rw [hf] at this
      cases this
    · cases hg
      exact ⟨hf, hgrows⟩

/-- `let a = print(1); print(1 + 1)`, where the operands of the sum are the deepest terms. -/
def Program.twoLines : Program where
  name := "two lines"
  location := default
  expression := .letIn ⟨"a", default⟩ (.print (.int 1 default) default)
    (.print (.binary (.int 1 default) .add (.int 1 default) default) default) default

/-- With a limit of `3` the second line is not printed any more. -/
theorem Session.run?_twoLines_of_limit_le :
    Session.run? ⟨3, true⟩ 5 Program.twoLines (.new .unlimited) =
      some (.error ⟨.stackOverflow 3 3, default⟩,
        ⟨∅, ∅, ⟨none, false, "1\n".toUTF8⟩, 1, 0⟩) ∧
    Session.run? ⟨4, true⟩ 5 Program.twoLines (.new .unlimited) =
      some (.ok .nil, ⟨∅, ∅, ⟨none, false, "1\n2\n".toUTF8⟩, 2, 0⟩) ∧
    Sink.Grows ⟨none, false, "1\n".toUTF8⟩ ⟨none, false, "1\n2\n".toUTF8⟩ := by
  have h : Session.run? ⟨3, true⟩ 5 Program.twoLines (.new .unlimited) =
      some (.error ⟨.stackOverflow 3 3, default⟩,
        ⟨∅, ∅, ⟨none, false, "1\n".toUTF8⟩, 1, 0⟩) := by cbv
  have h' : Session.run? ⟨4, true⟩ 5 Program.twoLines (.new .unlimited) =
      some (.ok .nil, ⟨∅, ∅, ⟨none, false, "1\n2\n".toUTF8⟩, 2, 0⟩) := by cbv
  exact ⟨h, h', ((Session.run?_of_limit_le (by decide) h h').2 _ rfl rfl).2⟩

end Treewalk
