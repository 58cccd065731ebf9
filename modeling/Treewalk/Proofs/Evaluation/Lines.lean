import Mathlib
import Treewalk.Proofs.Evaluation.Output

/-!
# Printed lines

Output consists of whole lines. As long as the sink takes what it is given, an evaluation appends
one line for each print that it counts, and nothing else, whether it succeeds or fails
(`Session.printed_of_answer`). Each line is a text that the operand of some print came to, when just
the lines before it had been written. A print that fails before it has a text writes nothing of its
own, though the operand, or the components of a tuple, may have printed lines on the way.

So the count can stand for the output: after a success it has gone up exactly if the sink has
changed, whatever the room of the sink.
-/

namespace Treewalk

namespace Sink

/-! ## Lines in a sink -/

/-- The bytes of lines, one after another. -/
def lines : List String → ByteArray
  | [] => .empty
  | text :: texts => line text ++ lines texts

/-- The sink with lines added to what it holds. -/
def extend (s : Sink) (texts : List String) : Sink :=
  { s with contents := s.contents ++ lines texts }

variable {s s' : Sink}

theorem lines_append (texts texts' : List String) :
    lines (texts ++ texts') = lines texts ++ lines texts' := by
  induction texts with
  | nil => exact ByteArray.empty_append.symm
  | cons text texts ih => rw [List.cons_append, lines, lines, ih, ByteArray.append_assoc]

/-- Every line takes up a byte at least, since it has an end. -/
theorem length_le_size_lines (texts : List String) : texts.length ≤ (lines texts).size := by
  induction texts with
  | nil => exact Nat.le_refl 0
  | cons text texts ih =>
    have hend : "\n".toUTF8.size = 1 := by decide
    rw [lines, line, ByteArray.size_append, ByteArray.size_append, List.length_cons]
    omega

@[simp] theorem extend_nil (s : Sink) : s.extend [] = s := by
  rw [extend, lines, ByteArray.append_empty]

theorem extend_append (s : Sink) (texts texts' : List String) :
    s.extend (texts ++ texts') = (s.extend texts).extend texts' := by
  simp only [extend, lines_append, ByteArray.append_assoc]

theorem extend_eq_self_iff {texts : List String} : s.extend texts = s ↔ texts = [] := by
  constructor
  · intro h
    have hsize := congrArg (fun s => s.contents.size) h
    have hlength := length_le_size_lines texts
    simp only [extend, ByteArray.size_append] at hsize
    apply List.eq_nil_of_length_eq_zero
    omega
  · rintro rfl
    exact s.extend_nil

theorem eq_of_write_ok {bytes : ByteArray} (h : s.write bytes = (.ok (), s')) :
    s' = { s with contents := s.contents ++ bytes } := by
  unfold write at h
  split at h
  · cases h
    rfl
  · dsimp only at h
    split at h
    · cases h
      rfl
    · cases h

/-- A line that is taken is taken whole, whatever the room. -/
theorem eq_of_writeLine_ok {text : String} (h : s.writeLine text = (.ok (), s')) :
    s' = s.extend [text] := by
  unfold writeLine at h
  split at h
  next k hk =>
    rw [eq_of_write_ok h, eq_of_write_ok hk]
    simp only [extend, lines, line, ByteArray.append_empty, ByteArray.append_assoc]
  next => cases h

/-- A sink of unlimited room takes every line. -/
theorem writeLine_ne_error (hroom : s.limit = none) {text : String} {e : Error} :
    s.writeLine text ≠ (.error e, s') := by
  obtain ⟨limit, flushFails, contents⟩ := s
  obtain rfl : limit = none := hroom
  rw [writeLine_unlimited]
  intro h
  cases h

end Sink

namespace Evaluator

/-! ## What was printed -/

/-- In the course of the evaluation `root` the operand of a print came to a value, and the value was
written out as `text`, which led to the session `s`. -/
inductive Rendered (options : EvalOptions) (root : Job) (text : String) (s : Session) : Prop
  | intro {levels : Nat} {operand : Term} {v : Value} {s₀ s₁ : Session}
      (operand_reached : Walk.Reached (body options) root (.evaluate operand s₀))
      (operand_eq : Walk.answerWithin (body options) levels (.evaluate operand s₀) =
        some (.ok v, s₁))
      (render_reached : Walk.Reached (body options) root (.render v "" s₁))
      (render_eq : Walk.answerWithin (body options) levels (.render v "" s₁) =
        some (.ok text, s))

/-- From the session `s` to the session `s'` the lines `texts` were printed, in the course of the
evaluation `root`, and nothing else was written. Each text was come to when just the lines before it
had been written and counted. -/
structure Printed (options : EvalOptions) (root : Job) (s : Session) (texts : List String)
    (s' : Session) : Prop where
  prints_eq : s'.prints = s.prints + texts.length
  sink_eq : s'.sink = s.sink.extend texts
  rendered (earlier : List String) (text : String) (later : List String) :
    texts = earlier ++ text :: later → ∃ s₁, Rendered options root text s₁ ∧
      s₁.sink = s.sink.extend earlier ∧ s₁.prints = s.prints + earlier.length

variable {options : EvalOptions} {root : Job} {n : Nat} {s s' : Session}

theorem Printed.refl (s : Session) : Printed options root s [] s := by
  refine ⟨rfl, s.sink.extend_nil.symm, ?_⟩
  intro earlier text later h
  cases earlier <;> cases h

/-- Nothing but sink and count matters in the session that was led to. -/
theorem Printed.congr {texts : List String} {s'' : Session} (h : Printed options root s texts s')
    (hsink : s''.sink = s'.sink) (hprints : s''.prints = s'.prints) :
    Printed options root s texts s'' :=
  ⟨hprints.trans h.prints_eq, hsink.trans h.sink_eq, h.rendered⟩

theorem Printed.line {texts : List String} {text : String} {sink : Sink}
    (h : Printed options root s texts s') (htext : Rendered options root text s')
    (hw : s'.sink.writeLine text = (.ok (), sink)) :
    Printed options root s (texts ++ [text]) { s' with sink := sink, prints := s'.prints + 1 } := by
  refine ⟨?_, ?_, ?_⟩
  · show s'.prints + 1 = s.prints + (texts ++ [text]).length
    rw [h.prints_eq, List.length_append, List.length_singleton, Nat.add_assoc]
  · show sink = s.sink.extend (texts ++ [text])
    rw [Sink.eq_of_writeLine_ok hw, h.sink_eq, Sink.extend_append]
  · intro earlier text' later htexts
    rcases List.eq_nil_or_concat later with rfl | ⟨later, last, rfl⟩
    · -- the new line itself: all the others come before it
      obtain ⟨rfl, he⟩ := List.append_inj' htexts rfl
      cases he
      exact ⟨s', htext, h.sink_eq, h.prints_eq⟩
    · rw [List.concat_eq_append, ← List.cons_append, ← List.append_assoc] at htexts
      obtain ⟨htexts, -⟩ := List.append_inj' htexts rfl
      exact h.rendered earlier text' later htexts

/-- The count stands for the output. -/
theorem Printed.sink_eq_iff {texts : List String} (h : Printed options root s texts s') :
    s'.sink = s.sink ↔ s'.prints = s.prints := by
  rw [h.sink_eq, Sink.extend_eq_self_iff, h.prints_eq, Nat.add_eq_left, List.length_eq_zero_iff]

/-- Lines have been printed since the session `s`. After a failure this is known of unlimited room
only: a line may have been refused in the middle. -/
def printing (options : EvalOptions) (root : Job) : Invariant Session := .ofSessions
  (fun s s' => ∃ texts, Printed options root s texts s')
  fun s _ s' => s.sink.limit = none → ∃ texts, Printed options root s texts s'

theorem printing_lawful {o : (job : Job) → Option job.Answer}
    (ho : ∀ q x, o q = some x → Walk.Reached (body options) root q ∧
      Walk.answerWithin (body options) n q = some x) :
    (printing options root).Lawful options o := by
  refine Invariant.ofSessions_lawful ?_ ?_ ?_ ?_ ?_ ?_ ?_
  · rintro s s' scope depth ⟨texts, h⟩
    exact ⟨texts, h.congr rfl rfl⟩
  · intro s f s' scope depth h hroom
    obtain ⟨texts, h⟩ := h hroom
    exact ⟨texts, h.congr rfl rfl⟩
  · intro s f s' h _
    exact h
  · rintro s s' text sink ⟨texts, h⟩ ⟨hoperand, htext⟩ hw
    obtain ⟨hreached, hoperand⟩ := ho _ _ hoperand
    obtain ⟨hreached', htext⟩ := ho _ _ htext
    exact ⟨texts ++ [text], h.line (.intro hreached hoperand hreached' htext) hw⟩
  · rintro s s' text sink e l ⟨texts, h⟩ hw hroom
    have hlimit : s'.sink.limit = none := by rw [h.sink_eq]; exact hroom
    exact absurd hw (Sink.writeLine_ne_error hlimit)
  · rintro - s s' key ⟨texts, h⟩
    exact ⟨texts, h.congr rfl rfl⟩
  · rintro - s s₁ s' key v - - - - ⟨texts, h⟩
    exact ⟨texts, h.congr rfl rfl⟩

theorem keeps_printing {x : root.Answer} (h : Walk.answerWithin (body options) n root = some x) :
    (printing options root).Keeps root x :=
  Invariant.of_answer (fun _ _ ho _ => printing_lawful ho) .start h

theorem exists_printed_of_ok {t : Term} {v : Value}
    (h : Walk.answerWithin (body options) n (.evaluate t s) = some (.ok v, s')) :
    ∃ texts, Printed options (.evaluate t s) s texts s' :=
  (keeps_printing h s ⟨trivial, [], .refl s⟩).2.session

/-! ## Prints that fail -/

/-- The operand of a print fails, or its value cannot be written out. This leaves the session
`s'`. -/
inductive LacksText (options : EvalOptions) (operand : Term) (s : Session) (f : Failure)
    (s' : Session) : Prop
  | operand {levels : Nat}
      (h : Walk.answerWithin (body options) levels (.evaluate operand s) =
        some (.error f, s'))
  | text {levels : Nat} {v : Value} {s₁ : Session}
      (hoperand : Walk.answerWithin (body options) levels (.evaluate operand s) =
        some (.ok v, s₁))
      (htext : Walk.answerWithin (body options) levels (.render v "" s₁) =
        some (.error f, s'))

/-- A print without a text fails, and leaves the session as it finds it then, one level up. -/
theorem LacksText.session_eq {operand : Term} {l : Location} {f : Failure} {s₁ : Session}
    {r : Except Failure Value} (hf : LacksText options operand s.deeper f s₁)
    (h : Walk.answerWithin (body options) n (.evaluate (.print operand l) s) = some (r, s')) :
    (∃ f', r = .error f') ∧ s' = s₁.shallower := by
  by_cases hlimit : options.depthLimit ≤ s.depth
  · -- the limit stops the print, and it would have stopped the operand
    have hlimit' : options.depthLimit ≤ s.deeper.depth := Nat.le_succ_of_le hlimit
    have hprint := Walk.answerWithin_mono (Nat.le_succ n) h
    rw [answer_of_limit_le hlimit] at hprint
    cases hprint
    cases hf with
    | @operand levels hf =>
      have hoperand := Walk.answerWithin_mono (Nat.le_succ levels) hf
      rw [answer_of_limit_le hlimit'] at hoperand
      cases hoperand
      exact ⟨⟨_, rfl⟩, rfl⟩
    | @text levels v s₂ hv _ =>
      have hoperand := Walk.answerWithin_mono (Nat.le_succ levels) hv
      rw [answer_of_limit_le hlimit'] at hoperand
      cases hoperand
  · have hlt : s.depth < options.depthLimit := Nat.lt_of_not_le hlimit
    cases hf with
    | @operand levels hf =>
      have hprint := Walk.answerWithin_mono (by omega : n ≤ n + levels + 1) h
      have hoperand := Walk.answerWithin_mono (by omega : levels ≤ n + levels) hf
      rw [answer_of_lt_limit hlt, step,
        exec_bind_of_error ((exec_evaluate ..).trans hoperand)] at hprint
      cases hprint
      exact ⟨⟨f, rfl⟩, rfl⟩
    | @text levels v s₂ hv htext =>
      have hprint := Walk.answerWithin_mono (by omega : n ≤ n + levels + 1) h
      have hoperand := Walk.answerWithin_mono (by omega : levels ≤ n + levels) hv
      have hrender := Walk.answerWithin_mono (by omega : levels ≤ n + levels) htext
      rw [answer_of_lt_limit hlt, step, exec_bind_of_ok ((exec_evaluate ..).trans hoperand),
        exec_bind_of_error ((exec_render ..).trans hrender)] at hprint
      cases hprint
      exact ⟨⟨f, rfl⟩, rfl⟩

end Evaluator

open Evaluator

/-- Output consists of whole lines. With unlimited room an evaluation, whether it succeeds or fails,
appends the texts that prints came to on the way, each followed by a line end, and as many as it
counts. With any room, an evaluation that succeeds has changed the sink exactly if the count went
up. A print whose operand fails, or the text of its operand, leaves sink and count as it finds them
then. -/
theorem Session.printed_of_answer {options : EvalOptions} {levels : Nat} {t : Term}
    {s s' : Session} {r : Except Failure Value}
    (h : Walk.answerWithin (body options) levels (.evaluate t s) = some (r, s')) :
    (s.sink.limit = none → ∃ texts, Printed options (.evaluate t s) s texts s') ∧
      (∀ v, r = .ok v → (s'.sink = s.sink ↔ s'.prints = s.prints)) ∧
      ∀ operand l f s₁, t = .print operand l →
        LacksText options operand s.deeper f s₁ → (∃ f', r = .error f') ∧ s' = s₁.shallower := by
  refine ⟨?_, ?_, ?_⟩
  · intro hroom
    cases r with
    | ok v => exact exists_printed_of_ok h
    | error f => exact (keeps_printing h s ⟨trivial, [], .refl s⟩).failed hroom
  · rintro v rfl
    obtain ⟨texts, hprinted⟩ := exists_printed_of_ok h
    exact hprinted.sink_eq_iff
  · rintro operand l f s₁ rfl hf
    exact hf.session_eq h

/-- The operand of `print((print("y"), z))`, whose second component fails if `z` is not bound. -/
def Term.brokenPair : Term :=
  .tuple (.print (.str "y" default) default) (.var "z" default) default

/-- One line is printed by the first component of a pair, and none for the pair itself, since its
second component fails. -/
theorem Session.printed_of_brokenPair :
    ∃ s' texts, Walk.answerWithin (body ⟨3, true⟩) 5
        (.evaluate (.print .brokenPair default) (.new .unlimited)) =
        some (.error ⟨.undefinedVariable "z", default⟩, s') ∧
      LacksText ⟨3, true⟩ .brokenPair (Session.new .unlimited).deeper
        ⟨.undefinedVariable "z", default⟩ s'.deeper ∧
      (∀ f s₁, LacksText ⟨3, true⟩ .brokenPair (Session.new .unlimited).deeper f s₁ →
        s' = s₁.shallower) ∧
      Printed ⟨3, true⟩ (.evaluate (.print .brokenPair default) (.new .unlimited))
        (.new .unlimited) texts s' ∧ texts.length = 1 ∧ s'.sink.contents = "y\n".toUTF8 := by
  have hprint : Walk.answerWithin (body ⟨3, true⟩) 5
      (.evaluate (.print .brokenPair default) (.new .unlimited)) =
      some (.error ⟨.undefinedVariable "z", default⟩,
        ⟨∅, ∅, ⟨none, false, "y\n".toUTF8⟩, 1, 0⟩) := by cbv
  have hoperand : Walk.answerWithin (body ⟨3, true⟩) 4
      (.evaluate .brokenPair (Session.new .unlimited).deeper) =
      some (.ok (.tuple (.print (.str "y" default) default) (.var "z" default) default),
        (Session.new .unlimited).deeper) := by cbv
  have htext : Walk.answerWithin (body ⟨3, true⟩) 4
      (.render (.tuple (.print (.str "y" default) default) (.var "z" default) default) ""
        (Session.new .unlimited).deeper) =
      some (.error ⟨.undefinedVariable "z", default⟩,
        ⟨∅, ∅, ⟨none, false, "y\n".toUTF8⟩, 1, 1⟩) := by cbv
  have hlacks := LacksText.text hoperand htext
  obtain ⟨hlines, -, hfailed⟩ := Session.printed_of_answer hprint
  obtain ⟨texts, hprinted⟩ := hlines rfl
  have hlength : 1 = 0 + texts.length := hprinted.prints_eq
  exact ⟨_, texts, hprint, hlacks, fun f s₁ hf => (hfailed _ _ f s₁ rfl hf).2, hprinted, by omega,
    rfl⟩

end Treewalk
