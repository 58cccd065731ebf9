import Mathlib
import Treewalk.Proofs.Evaluation.Lockstep
import Treewalk.Proofs.Evaluation.Provenance

/-!
# Sinks that fill up

A sink of limited room truncates a run, and does nothing else. The run is in lockstep with one that
has unlimited room until a line does not fit. If no such line comes, the two runs come to the same.
Otherwise the limited one fails at the `print` that wrote the line, and its sink is filled to the
last byte with the beginning of what the other one writes (`Session.run?_of_limited_room`).
-/

namespace Treewalk

namespace Sink

variable {n : Nat}

/-- The beginning of what is written does not depend on what is written after it. -/
theorem extract_append_of_le {contents rest : ByteArray} (h : n ≤ contents.size) :
    (contents ++ rest).extract 0 n = contents.extract 0 n := by
  have hnone : rest.extract (0 - contents.size) (n - contents.size) = .empty := by
    rw [ByteArray.extract_eq_empty_iff]
    omega
  rw [ByteArray.extract_append, hnone, ByteArray.append_empty]

/-- Bytes for which there is room are written as if there were no limit. -/
theorem write_of_fits (flushFails : Bool) {contents bytes : ByteArray}
    (h : contents.size + bytes.size ≤ n) : write ⟨some n, flushFails, contents⟩ bytes =
      (.ok (), ⟨some n, flushFails, contents ++ bytes⟩) := by
  have hroom : bytes.size ≤ n - contents.size := by omega
  exact if_pos hroom

/-- Bytes for which there is not enough room fill the sink up. -/
theorem write_of_overflow (flushFails : Bool) {contents bytes : ByteArray}
    (hroom : contents.size ≤ n) (h : n < contents.size + bytes.size) :
    write ⟨some n, flushFails, contents⟩ bytes =
      (.error .full, ⟨some n, flushFails, (contents ++ bytes).extract 0 n⟩) := by
  have hlt : ¬ bytes.size ≤ n - contents.size := by omega
  have hall : contents.extract 0 n = contents := by
    rw [← Nat.max_eq_left hroom, ByteArray.extract_zero_max_size]
  rw [ByteArray.extract_append, hall, Nat.zero_sub]
  exact if_neg hlt

theorem writeLine_of_fits (flushFails : Bool) {contents : ByteArray} {text : String}
    (h : contents.size + (line text).size ≤ n) : writeLine ⟨some n, flushFails, contents⟩ text =
      (.ok (), ⟨some n, flushFails, contents ++ line text⟩) := by
  have hsize : (line text).size = text.toUTF8.size + "\n".toUTF8.size := ByteArray.size_append
  have hend : (contents ++ text.toUTF8).size + "\n".toUTF8.size ≤ n := by
    rw [ByteArray.size_append]
    omega
  rw [writeLine_of_ok (write_of_fits flushFails (by omega)), write_of_fits flushFails hend,
    ByteArray.append_assoc, line]

/-- A line for which there is not enough room fills the sink up, whether it is cut in its text or
before its end. -/
theorem writeLine_of_overflow (flushFails : Bool) {contents : ByteArray} {text : String}
    (hroom : contents.size ≤ n) (h : n < contents.size + (line text).size) :
    writeLine ⟨some n, flushFails, contents⟩ text =
      (.error .full, ⟨some n, flushFails, (contents ++ line text).extract 0 n⟩) := by
  have hsize : (line text).size = text.toUTF8.size + "\n".toUTF8.size := ByteArray.size_append
  by_cases hfits : contents.size + text.toUTF8.size ≤ n
  · have hroom' : (contents ++ text.toUTF8).size ≤ n := by rwa [ByteArray.size_append]
    have hover : n < (contents ++ text.toUTF8).size + "\n".toUTF8.size := by
      rw [ByteArray.size_append]
      omega
    rw [writeLine_of_ok (write_of_fits flushFails hfits),
      write_of_overflow flushFails hroom' hover, ByteArray.append_assoc, line]
  · have hcut : n ≤ (contents ++ text.toUTF8).size := by
      rw [ByteArray.size_append]
      omega
    unfold writeLine
    rw [write_of_overflow flushFails hroom (Nat.lt_of_not_le hfits), line,
      ← ByteArray.append_assoc, extract_append_of_le hcut]

end Sink

/-- The same session, with a sink that has room for `n` bytes. -/
def Session.withRoom (n : Nat) (s : Session) : Session :=
  { s with sink := { s.sink with limit := some n } }

namespace Evaluator

variable {n : Nat}

/-- Evaluations with room for `n` bytes, and with unlimited room. -/
def truncating (n : Nat) : Pairing where
  together s₁ s₂ := s₁ = s₂.withRoom n ∧ s₂.sink.limit = none ∧ s₂.sink.contents.size ≤ n
  halts f := f.cause = .output .full
  behind k₁ k₂ := n < k₂.contents.size ∧ k₁.contents = k₂.contents.extract 0 n

/-- A line is written by both, or it is cut where the room ends. -/
theorem truncating_line {o₁ o₂ : (job : Job) → Option job.Answer} {s₁ s₂ : Session}
    (location : Location) (text : String) (h : (truncating n).together s₁ s₂) :
    (truncating n).Sim (exec o₁ (printLine location text) s₁)
      (exec o₂ (printLine location text) s₂) := by
  obtain ⟨rfl, hlimit, hroom⟩ := h
  obtain ⟨scope, cache, ⟨limit, flushFails, contents⟩, prints, depth⟩ := s₂
  obtain rfl : limit = none := hlimit
  rw [exec_printLine, exec_printLine]
  simp only [Session.withRoom, Sink.writeLine_unlimited]
  by_cases hfits : contents.size + (Sink.line text).size ≤ n
  · rw [Sink.writeLine_of_fits flushFails hfits]
    refine .alike ⟨rfl, rfl, ?_⟩
    have hsize : (contents ++ Sink.line text).size ≤ n := by rwa [ByteArray.size_append]
    exact hsize
  · rw [Sink.writeLine_of_overflow flushFails hroom (Nat.lt_of_not_le hfits)]
    refine .halted rfl fun r s hs => ?_
    cases hs
    have hsize : n < (contents ++ Sink.line text).size := by
      rw [ByteArray.size_append]
      omega
    exact ⟨hsize, rfl⟩

theorem truncating_lawful (n limit : Nat) (memoize : Bool) :
    (truncating n).Lawful limit memoize where
  scope_eq h := by rw [h.1]; rfl
  withScope scope h := ⟨by rw [h.1]; rfl, h.2⟩
  depth_eq h := by rw [h.1]; rfl
  deeper h _ := ⟨by rw [h.1]; rfl, h.2⟩
  shallower h := ⟨by rw [h.1]; rfl, h.2⟩
  cache_eq _ h := by rw [h.1]; rfl
  prints_eq _ h := by rw [h.1]; rfl
  withCache cache _ h := ⟨by rw [h.1]; rfl, h.2⟩
  line location text h := truncating_line location text h
  behind_grows h hgrows := by
    obtain ⟨rest, hrest⟩ := hgrows
    refine ⟨Nat.lt_of_lt_of_le h.1 ?_, ?_⟩
    · rw [hrest, ByteArray.size_append]
      omega
    · rw [hrest, Sink.extract_append_of_le (Nat.le_of_lt h.1)]
      exact h.2

/-- With limited room an evaluation comes to the same, unless the room was used up. -/
theorem exists_answer_withRoom {options : EvalOptions} {levels : Nat} {t : Term}
    {s after : Session} {r : Except Failure Value}
    (hs : (truncating n).together (s.withRoom n) s)
    (h : Walk.answerWithin (body options) levels (.evaluate t s) = some (r, after)) :
    ∃ r' after', Walk.answerWithin (body options) levels (.evaluate t (s.withRoom n)) =
        some (r', after') ∧
      (r' = r ∧ (truncating n).together after' after ∨
        ∃ l, r' = .error ⟨.output .full, l⟩ ∧ (truncating n).behind after'.sink after.sink) := by
  have hpairs := ((truncating_lawful n options.depthLimit options.memoize).pairs_answers
    (Nat.le_refl _) (fun hlt => absurd hlt (Nat.lt_irrefl _))
    (fun hlt => absurd hlt (Nat.lt_irrefl _)) levels).1 t
  have hsim := hpairs.sim hs
  rw [exec_evaluate, exec_evaluate, h] at hsim
  generalize Walk.answerWithin (body options) levels (.evaluate t (s.withRoom n)) = x at hsim ⊢
  cases hsim with
  | alike hs' => exact ⟨_, _, rfl, .inl ⟨rfl, hs'⟩⟩
  | @halted f s₁ _ hf hbehind =>
    obtain ⟨cause, l⟩ := f
    obtain rfl : cause = .output .full := hf
    exact ⟨_, _, rfl, .inr ⟨l, rfl, hbehind _ _ rfl⟩⟩

end Evaluator

open Evaluator in
/-- A sink of limited room truncates a run and changes nothing else. If what the run writes with
unlimited room fits, it comes to the same value or failure with the same output and cache.
Otherwise it fails at a `print` of the program, for the sink is full, and the sink holds just as
many of the first bytes as there is room for. -/
theorem Session.run?_of_limited_room {options : EvalOptions} {levels : Nat} {p : Program}
    {flushFails : Bool} {r : Except Failure Value} {s : Session}
    (h : Session.run? options levels p (.new ⟨none, flushFails, .empty⟩) = some (r, s)) (n : Nat) :
    (s.sink.contents.size ≤ n → ∃ s',
      Session.run? options levels p (.new ⟨some n, flushFails, .empty⟩) = some (r, s') ∧
        s'.sink.contents = s.sink.contents ∧ s'.cache = s.cache) ∧
    (n < s.sink.contents.size → ∃ l s',
      Session.run? options levels p (.new ⟨some n, flushFails, .empty⟩) =
          some (.error ⟨.output .full, l⟩, s') ∧
        (∃ operand, (Term.print operand l).OccursIn p.expression) ∧
        s'.sink.contents = s.sink.contents.extract 0 n) := by
  obtain ⟨⟨x, after⟩, hx, hs⟩ := Option.bind_eq_some_iff.1 h
  simp only [pure, Option.some.injEq, Prod.mk.injEq] at hs
  obtain ⟨rfl, rfl⟩ := hs
  have hstart : (truncating n).together (Session.withRoom n (.new ⟨none, flushFails, .empty⟩))
      (.new ⟨none, flushFails, .empty⟩) := ⟨rfl, rfl, Nat.zero_le n⟩
  obtain ⟨x', after', hx', hcases⟩ := exists_answer_withRoom hstart hx
  have hrun : Session.run? options levels p (.new ⟨some n, flushFails, .empty⟩) =
      some (_, { after' with scope := ∅ }) := Option.bind_eq_some_iff.2 ⟨(x', after'), hx', rfl⟩
  obtain ⟨rfl, rfl, -, hfits⟩ | ⟨l, rfl, hover, hcontents⟩ := hcases
  · refine ⟨fun _ => ⟨_, hrun, rfl, rfl⟩, fun hlt => ?_⟩
    exact absurd hfits (Nat.not_le_of_lt hlt)
  · refine ⟨fun hle => absurd hover (Nat.not_lt_of_le hle), fun _ => ?_⟩
    have hprint := (keeps_provenance hx' () (asked_new _ p.expression _)).failed.1
    exact ⟨l, _, hrun, hprint, hcontents⟩

/-- `print((print("é"), 2))`: the first component prints a line while the tuple is written. -/
def Program.printingTuple : Program where
  name := "printing tuple"
  location := default
  expression :=
    .print (.tuple (.print (.str "é" default) default) (.int 2 default) default) default

/-- There is room for the first line, and for the beginning of the second one. -/
theorem Session.run?_printingTuple_of_limited_room :
    Session.run? ⟨3, true⟩ 5 Program.printingTuple (.new ⟨none, false, .empty⟩) =
      some (.ok .nil, ⟨∅, ∅, ⟨none, false, "é\n(nil, 2)\n".toUTF8⟩, 2, 0⟩) ∧
    ∃ l s', Session.run? ⟨3, true⟩ 5 Program.printingTuple (.new ⟨some 5, false, .empty⟩) =
        some (.error ⟨.output .full, l⟩, s') ∧
      (∃ operand, (Term.print operand l).OccursIn Program.printingTuple.expression) ∧
      s'.sink.contents = "é\n(n".toUTF8 := by
  have hrun : Session.run? ⟨3, true⟩ 5 Program.printingTuple (.new ⟨none, false, .empty⟩) =
      some (.ok .nil, ⟨∅, ∅, ⟨none, false, "é\n(nil, 2)\n".toUTF8⟩, 2, 0⟩) := by cbv
  refine ⟨hrun, ?_⟩
  obtain ⟨l, s', hs', hprint, hcontents⟩ :=
    (Session.run?_of_limited_room hrun 5).2 (by decide)
  have hfirst : "é\n(nil, 2)\n".toUTF8.extract 0 5 = "é\n(n".toUTF8 := by cbv
  exact ⟨l, s', hs', hprint, hcontents.trans hfirst⟩

end Treewalk
