import Mathlib
import Treewalk.Interpreter
import Treewalk.Proofs.Evaluation.Termination
import Treewalk.Proofs.Schema.RoundTrip

/-!
# Nesting of documents and depth of evaluation

Two counters are kept apart: one for terms that nest in a document while it is decoded, and one for
evaluations that are open inside one another. Without calls and tuples the second never gets ahead
of the first, since nothing but parts of the term at hand is ever evaluated. So a document that was
decoded under some limit is evaluated under the same limit without reaching it
(`Schema.decodeProgram_runsWithoutOverflow`).

The bound is met exactly: both counters start from zero and are compared before they are raised.
-/

namespace Treewalk

theorem Term.height_lt_of_mem_parts {t u : Term} (h : u ∈ t.parts) : u.height < t.height := by
  obtain ⟨n, hn⟩ := Nat.exists_eq_succ_of_ne_zero (Nat.ne_of_gt t.height_pos)
  have := height_le_succ_iff.1 (Nat.le_of_eq hn) u h
  omega

namespace Evaluator

/-- Terms without calls and tuples, at a depth that leaves room for their height. No tuple comes up,
and the limit is not reached. -/
def nesting (limit : Nat) : Invariant Unit where
  term _ d t := d + t.height ≤ limit ∧ t.Lacks .call ∧ t.Lacks .tuple
  value v := ∀ a b l, v ≠ .tuple a b l
  written v := ∀ a b l, v ≠ .tuple a b l
  session _ s := ∀ x v, s.scope.lookup? x = some v → ∀ a b l, v ≠ .tuple a b l
  failed _ f _ := f.cause.isResource = false

theorem nesting_part {limit d : Nat} {t u : Term} (h : (nesting limit).term () d t)
    (hu : u ∈ t.parts) : (nesting limit).term () (d + 1) u := by
  obtain ⟨hheight, hcall, htuple⟩ := h
  have := Term.height_lt_of_mem_parts hu
  exact ⟨by omega, hcall.part hu, htuple.part hu⟩

theorem nesting_lawful (options : EvalOptions) (o : (job : Job) → Option job.Answer) :
    (nesting options.depthLimit).Lawful options o where
  primitive {v} h := by
    rintro a b l rfl
    cases h
  nil := nofun
  closure _ := nofun
  tuple h := absurd rfl (h.2.2 _ .self)
  part h _ _ hu := nesting_part h hu
  component hv _ _ := absurd rfl (hv _ _ _)
  printed _ hv := hv
  written hv := hv
  nested h _ := absurd rfl (h _ _ _)
  deeper hs _ := hs
  shallower hs := hs
  failed_shallower hf := hf
  lookup hs hv := hs _ _ hv
  fail _ _ hf := hf.isResource_eq_false
  overflow {_ t s} h _ hlimit := by
    have := t.height_pos
    have := h.1
    omega
  letIn {_ _ x _ _ _} h _ := by
    refine ⟨nesting_part h (by simp [Term.parts]), (), nesting_part h (by simp [Term.parts]),
      fun s v hs hv y w hw => ?_, fun _ hs => hs, fun _ _ hf => hf⟩
    rw [Scope.lookup?_bind] at hw
    split at hw
    · cases hw
      exact hv
    · exact hs y w hw
  line hs _ _ := hs
  refused _ _ _ := rfl
  enter h _ _ _ _ _ := absurd rfl (h.2.1 _ .self)
  ask _ hs := hs
  cached _ h _ _ := absurd rfl (h.2.1 _ .self)
  remember _ _ _ _ _ _ hs := hs

end Evaluator

namespace Session

open Evaluator

variable {options : EvalOptions} {p : Program} {s s' : Session} {r : Except Failure Value}

/-- More levels keep every run that came to an end. -/
theorem run?_mono {n m : Nat} (h : n ≤ m) (hr : run? options n p s = some (r, s')) :
    run? options m p s = some (r, s') := by
  obtain ⟨x, hx, hrest⟩ := Option.bind_eq_some_iff.1 hr
  exact Option.bind_eq_some_iff.2 ⟨x, Walk.answerWithin_mono h hx, hrest⟩

theorem exists_run?_of_evaluate? {levels : Nat} {after : Session}
    (h : evaluate? options levels p.expression { s with scope := ∅ } = some (r, after)) :
    ∃ r' s', run? options levels p s = some (r', s') := by
  unfold run?
  rw [h]
  exact ⟨_, _, rfl⟩

/-- The run comes to an end, and not by reaching the limit on depth. -/
def RunsWithoutOverflow (options : EvalOptions) (p : Program) (s : Session) : Prop :=
  ∃ r s', (∀ levels, options.depthLimit < levels → run? options levels p s = some (r, s')) ∧
    ∀ f, r = .error f → f.cause.isResource = false

theorem runsWithoutOverflow_of_height_le (hcall : p.expression.Lacks .call)
    (htuple : p.expression.Lacks .tuple)
    (hheight : s.depth + p.expression.height ≤ options.depthLimit) :
    RunsWithoutOverflow options p s := by
  have hjob : (nesting options.depthLimit).Asked ()
      (.evaluate p.expression { s with scope := ∅ }) := by
    refine ⟨⟨hheight, hcall, htuple⟩, fun x v hv => ?_⟩
    simp at hv
  have hends := Invariant.ends (nesting_lawful options) (fun _ hv => hv) ⟨(), hjob⟩
    (Nat.le_add_left options.depthLimit s.depth)
  obtain ⟨⟨r', after⟩, hr'⟩ := Option.isSome_iff_exists.1 hends
  obtain ⟨r, s', hr⟩ := exists_run?_of_evaluate? hr'
  refine ⟨r, s', fun levels hlevels => run?_mono hlevels hr, fun f hf => ?_⟩
  obtain ⟨_, _, hr'', -, rfl | ⟨e, rfl⟩⟩ := run?_eq_some hr
  · subst hf
    have hkeeps := Invariant.of_answer (fun _ o _ _ => nesting_lawful options o) .start
      hr''
    exact (hkeeps () hjob).failed
  · cases hf
    rfl

end Session

open Session in
/-- The limit on nesting bounds the depth of evaluation. A document without calls and tuples that is
decoded under one limit runs without an overflow under the same limit on depth, and under any larger
one, in any session in which no evaluation is open. If some are, the limit on depth has to be larger
by their number. With default limits no such document can overflow. -/
theorem Schema.decodeProgram_runsWithoutOverflow {limit : Nat} {d : Document} {p : Program}
    (hp : decodeProgram limit d = .ok p) (hcall : p.expression.Lacks .call)
    (htuple : p.expression.Lacks .tuple) :
    (∀ (options : EvalOptions) (s : Session), s.depth + limit ≤ options.depthLimit →
      RunsWithoutOverflow options p s) ∧
    (limit = Options.default.nestingLimit → ∀ s : Session, s.depth = 0 →
      RunsWithoutOverflow Options.default.evaluation p s) := by
  have hheight := (decodeProgram_inRange hp).2
  have hruns : ∀ (options : EvalOptions) (s : Session), s.depth + limit ≤ options.depthLimit →
      RunsWithoutOverflow options p s := fun options s hle =>
    runsWithoutOverflow_of_height_le hcall htuple
      (Nat.le_trans (Nat.add_le_add_left hheight s.depth) hle)
  refine ⟨hruns, ?_⟩
  rintro rfl s hs
  refine hruns _ s ?_
  rw [hs]
  decide

/-- `print(1 + 2)`, three terms deep. -/
def Program.printSum : Program where
  name := "sum"
  location := default
  expression := .print (.binary (.int 1 default) .add (.int 2 default) default) default

theorem Program.printSum_lacks {kind : Term.Kind} (hprint : kind ≠ .print)
    (hbinary : kind ≠ .binary) (hint : kind ≠ .int) : Program.printSum.expression.Lacks kind := by
  rintro u (_ | ⟨hu, h⟩)
  · exact hprint.symm
  · obtain rfl := List.mem_singleton.1 hu
    cases h with
    | self => exact hbinary.symm
    | part hu h =>
      simp only [Term.parts, List.mem_cons, List.not_mem_nil, or_false] at hu
      rcases hu with rfl | rfl
      all_goals
        cases h with
        | self => exact hint.symm
        | part hu _ => cases hu

open Session in
/-- Limits of three are enough for decoding and for evaluation, and a limit of two is not. -/
theorem Schema.decodeProgram_printSum_runsWithoutOverflow :
    decodeProgram 3 (encodeProgram Program.printSum).sorted = .ok Program.printSum ∧
      RunsWithoutOverflow ⟨3, true⟩ Program.printSum (.new .unlimited) ∧
      run? ⟨2, true⟩ 3 Program.printSum (.new .unlimited) =
        some (.error ⟨.stackOverflow 2 2, default⟩, .new .unlimited) := by
  have hrange : Program.printSum.InRange := by
    refine ⟨Term.inRange_iff.2 ⟨by decide, List.forall_mem_singleton.2 ?_⟩, by decide⟩
    refine Term.inRange_iff.2 ⟨by decide, List.forall_mem_cons.2 ⟨?_, ?_⟩⟩
    · exact Term.inRange_iff.2 ⟨by decide, List.forall_mem_nil _⟩
    · refine List.forall_mem_singleton.2 ?_
      exact Term.inRange_iff.2 ⟨by decide, List.forall_mem_nil _⟩
  have hdecode : decodeProgram 3 (encodeProgram Program.printSum).sorted = .ok Program.printSum :=
    decodeProgram_sorted hrange (by decide)
  have hcall : Program.printSum.expression.Lacks .call :=
    Program.printSum_lacks (by decide) (by decide) (by decide)
  have htuple : Program.printSum.expression.Lacks .tuple :=
    Program.printSum_lacks (by decide) (by decide) (by decide)
  have hruns := (decodeProgram_runsWithoutOverflow hdecode hcall htuple).1
  exact ⟨hdecode, hruns ⟨3, true⟩ (.new .unlimited) (Nat.le_refl 3), by cbv⟩

end Treewalk
