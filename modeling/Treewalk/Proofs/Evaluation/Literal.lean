import Mathlib
import Treewalk.Proofs.Evaluation.Success
import Treewalk.Proofs.Evaluation.Truncation
import Treewalk.Proofs.Subterm

/-!
# Printing literals

A literal is made of integers, texts, booleans and functions by tuples alone, nested to any depth.
Printing it writes its canonical text and changes nothing else (`Session.print_literal`). However
deep the nesting, two levels of evaluation are enough: one for the print, and one for each component
in its turn, because rendering goes down into a tuple at the depth it started at.
-/

namespace Treewalk

namespace Term

/-- Integers, texts, booleans and functions, put together by tuples. -/
inductive IsLiteral : Term → Prop
  | int (n : Int32) (l : Location) : IsLiteral (.int n l)
  | str (s : String) (l : Location) : IsLiteral (.str s l)
  | bool (b : Bool) (l : Location) : IsLiteral (.bool b l)
  | function (parameters : List Parameter) (body : Term) (l : Location) :
      IsLiteral (.function parameters body l)
  | tuple {a b : Term} (ha : a.IsLiteral) (hb : b.IsLiteral) (l : Location) :
      IsLiteral (.tuple a b l)

/-- The canonical text of a literal: decimal digits, the text itself, `true` or `false`, a mark for
functions, and the texts of two components between parentheses. It is empty for other terms. -/
def shown : Term → String
  | int n _ => n.toInt.repr
  | str s _ => s
  | bool b _ => if b then "true" else "false"
  | function .. => "<#closure>"
  | tuple a b _ => "(" ++ a.shown ++ ", " ++ b.shown ++ ")"
  | _ => ""

end Term

namespace Sink

/-- A line is taken whole where there is room for it. -/
theorem writeLine_of_room {s : Sink} {text : String}
    (h : ∀ limit, s.limit = some limit → s.contents.size + (line text).size ≤ limit) :
    s.writeLine text = (.ok (), { s with contents := s.contents ++ line text }) := by
  obtain ⟨limit, flushFails, contents⟩ := s
  cases limit with
  | none => exact writeLine_unlimited flushFails contents text
  | some limit => exact writeLine_of_fits flushFails (h limit rfl)

end Sink

namespace Evaluator

variable {options : EvalOptions} {t a b : Term} {v w : Value}

/-- The term comes to the value `v` at once, and `v` is written as `text` behind any text, at the
depth at which it is asked for. Neither changes the session. -/
structure Yields (options : EvalOptions) (t : Term) (v : Value) (text : String) : Prop where
  evaluate {n : Nat} {s : Session} : s.depth < options.depthLimit →
    Walk.answerWithin (body options) (n + 1) (.evaluate t s) = some (.ok v, s)
  render (levels : Nat) (before : String) {s : Session} : s.depth < options.depthLimit →
    t.height ≤ levels → Walk.answerWithin (body options) levels (.render v before s) =
      some (.ok (before ++ text), s)

theorem Yields.leaf
    (hstep : ∀ (o : (job : Job) → Option job.Answer) (s : Session), Succeeds options o s t v s)
    (hv : ∀ a b l, v ≠ .tuple a b l) : Yields options t v v.leafText where
  evaluate hd := Succeeds.answer_eq hd (hstep _ _)
  render := by
    intro levels before s _ hlevels
    have hpos := t.height_pos
    obtain ⟨n, rfl⟩ : ∃ n, levels = n + 1 := ⟨levels - 1, by omega⟩
    exact answer_render_leaf hv before

/-- Both components are evaluated, and then written one after the other. -/
theorem Yields.tuple {x y : String} (ha : Yields options a v x) (hb : Yields options b w y)
    (l : Location) :
    Yields options (.tuple a b l) (.tuple a b l) ("(" ++ x ++ ", " ++ y ++ ")") where
  evaluate hd := Succeeds.answer_eq hd .tuple
  render := by
    intro levels before s hd hlevels
    have hheight : (Term.tuple a b l).height = max a.height b.height + 1 := rfl
    have hpos := a.height_pos
    obtain ⟨n, rfl⟩ : ∃ n, levels = n + 2 := ⟨levels - 2, by omega⟩
    have hfirst := ha.render (n + 1) (before ++ "(") hd (by omega)
    have hsecond := hb.render (n + 1) (before ++ "(" ++ x ++ ", ") hd (by omega)
    rw [answer_render, renderStep, exec_bind_of_ok ((exec_evaluate ..).trans (ha.evaluate hd)),
      exec_bind_of_ok ((exec_evaluate ..).trans (hb.evaluate hd)),
      exec_bind_of_ok ((exec_render ..).trans hfirst),
      exec_bind_of_ok ((exec_render ..).trans hsecond)]
    show some (Except.ok (before ++ "(" ++ x ++ ", " ++ y ++ ")"), s) = _
    simp only [String.append_assoc]

/-- A literal comes to a value that is written as the text of the literal. -/
theorem exists_yields (options : EvalOptions) (h : t.IsLiteral) :
    ∃ v, Yields options t v t.shown := by
  induction h with
  | int n l => exact ⟨_, .leaf (fun _ _ => .int) (by simp)⟩
  | str s l => exact ⟨_, .leaf (fun _ _ => .str) (by simp)⟩
  | bool b l => exact ⟨_, .leaf (fun _ _ => .bool) (by simp)⟩
  | function parameters body l => exact ⟨_, .leaf (fun _ _ => .function) (by simp)⟩
  | tuple ha hb l iha ihb =>
    obtain ⟨v, hv⟩ := iha
    obtain ⟨w, hw⟩ := ihb
    exact ⟨_, hv.tuple hw l⟩

end Evaluator

open Evaluator

/-- Printing a literal writes its text and a line end, in any session whose sink has room for them.
It comes to `nil`, and scope and cache stay as they are. This takes two levels of depth, whatever
the literal. With fewer, the limit is reported, and nothing is written. -/
theorem Session.print_literal {t : Term} (ht : t.IsLiteral) {s : Session}
    (hroom : ∀ limit, s.sink.limit = some limit →
      s.sink.contents.size + (Sink.line t.shown).size ≤ limit)
    (options : EvalOptions) {levels : Nat} (hlevels : t.height < levels) (l : Location) :
    (s.depth + 2 ≤ options.depthLimit →
      Walk.answerWithin (body options) levels (.evaluate (.print t l) s) =
        some (.ok .nil, { s with
          sink := { s.sink with contents := s.sink.contents ++ Sink.line t.shown },
          prints := s.prints + 1 })) ∧
    (options.depthLimit < s.depth + 2 → ∃ reached place,
      Walk.answerWithin (body options) levels (.evaluate (.print t l) s) =
        some (.error ⟨.stackOverflow reached options.depthLimit, place⟩, s)) := by
  have hpos := t.height_pos
  obtain ⟨n, rfl⟩ : ∃ n, levels = n + 2 := ⟨levels - 2, by omega⟩
  constructor
  · intro hdepth
    obtain ⟨v, hv⟩ := exists_yields options ht
    have hlt : s.deeper.depth < options.depthLimit := hdepth
    have htext := hv.render (n + 1) "" hlt (by omega)
    rw [String.empty_append] at htext
    have hline := Sink.writeLine_of_room hroom
    have hprint : Succeeds options (Walk.answerWithin (body options) (n + 1)) s.deeper (.print t l)
        .nil { s.deeper with
          sink := { s.sink with contents := s.sink.contents ++ Sink.line t.shown },
          prints := s.prints + 1 } := .print (hv.evaluate hlt) htext hline
    exact hprint.answer_eq (Nat.lt_of_succ_lt hdepth)
  · intro hdepth
    by_cases hlimit : options.depthLimit ≤ s.depth
    · exact ⟨s.depth, l, answer_of_limit_le hlimit⟩
    · -- the print is begun, and its operand reaches the limit
      have hreached : options.depthLimit ≤ s.deeper.depth := Nat.le_of_lt_succ hdepth
      refine ⟨s.depth + 1, t.location, ?_⟩
      have hstep : exec (Walk.answerWithin (body options) (n + 1)) (step options (.print t l))
          s.deeper = some (.error ⟨.stackOverflow (s.depth + 1) options.depthLimit, t.location⟩,
            s.deeper) :=
        exec_bind_of_error ((exec_evaluate ..).trans (answer_of_limit_le hreached))
      exact answer_of_exec (Nat.lt_of_not_le hlimit) hstep

/-- The literal `((1, true), ("x", fn () => 0))`. -/
def Term.nestedPairs : Term :=
  .tuple (.tuple (.int 1 default) (.bool true default) default)
    (.tuple (.str "x" default) (.function [] (.int 0 default) default) default) default

/-- A session whose cache knows a call, with seven evaluations open. -/
def Session.afterCall (sink : Sink) (prints : Nat) : Session :=
  ⟨∅, Cache.insert ∅ "f,1," (.int 1), sink, prints, 7⟩

/-- There are two levels left, and room for the line and not for a byte more. -/
theorem Session.print_nestedPairs :
    Term.nestedPairs.IsLiteral ∧ Term.nestedPairs.height < 5 ∧
      Walk.answerWithin (body ⟨9, true⟩) 5
        (.evaluate (.print .nestedPairs default) (afterCall ⟨some 29, false, .empty⟩ 0)) =
      some (.ok .nil,
        afterCall ⟨some 29, false, "((1, true), (x, <#closure>))\n".toUTF8⟩ 1) := by
  have hliteral : Term.nestedPairs.IsLiteral :=
    .tuple (.tuple (.int ..) (.bool ..) _) (.tuple (.str ..) (.function ..) _) _
  have hheight : Term.nestedPairs.height < 5 := by decide
  have hline : Sink.line Term.nestedPairs.shown = "((1, true), (x, <#closure>))\n".toUTF8 := by
    decide
  have hroom : ∀ limit, some 29 = some limit →
      ByteArray.empty.size + (Sink.line Term.nestedPairs.shown).size ≤ limit := by
    intro limit h
    cases h
    rw [hline]
    decide
  have hdepth : (afterCall ⟨some 29, false, .empty⟩ 0).depth + 2 ≤ 9 := by decide
  refine ⟨hliteral, hheight, ?_⟩
  rw [(Session.print_literal hliteral hroom ⟨9, true⟩ hheight default).1 hdepth, hline]
  rfl

end Treewalk
