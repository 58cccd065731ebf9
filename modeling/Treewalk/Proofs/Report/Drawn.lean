import Mathlib
import Treewalk.Proofs.Signature
import Treewalk.Proofs.Text.Boundary
import Treewalk.Report

/-!
# When a report is drawn

An error is drawn on its source if the span passes four comparisons (`fits`), and it passes them
exactly if it can be cut out of the source (`fits_iff`). Otherwise the error is told in one line.

How drawings look is left open, but for one thing: they show the message and, on a later line, the
name of the file (`Drawing.ShowsMessageAndFile`). So a drawing has more line breaks than the one
line, even where the name or the message has some itself, and what is shown tells whether it was
drawn (`renderWith_ne_line_iff`).
-/

namespace Treewalk.Report

/-! ## Spans that fit -/

/-- It is enough to look at one byte: characters begin at all offsets that are not inside one. -/
theorem isCharBoundary_iff {text : String} {i : Nat} :
    Source.isCharBoundary text i = true ↔ i ≤ text.utf8ByteSize ∧ ¬ Text.Inside text i := by
  have hbyte : text.toUTF8.data[i]? = (Text.bytes text)[i]? := Array.getElem?_toList.symm
  rw [Text.inside_iff, Source.isCharBoundary, hbyte]
  by_cases hi : i = 0
  · subst hi
    simp [Text.not_continues_zero]
  rw [if_neg hi]
  rcases Nat.lt_or_ge i (Text.bytes text).length with hlt | hge
  · have hsize : i ≤ text.utf8ByteSize := Nat.le_of_lt hlt
    obtain ⟨b, hb⟩ : ∃ b, (Text.bytes text)[i]? = some b := ⟨_, List.getElem?_eq_getElem hlt⟩
    have hcontinues : Text.Continues text i ↔ Text.IsContinuation b := by simp [Text.Continues, hb]
    rw [hb, hcontinues, Text.IsContinuation]
    simp only [Bool.or_eq_true, decide_eq_true_eq, UInt8.lt_iff_toNat_lt, UInt8.le_iff_toNat_le,
      UInt8.reduceToNat]
    omega
  · have hsize : text.utf8ByteSize ≤ i := hge
    have hnone : (Text.bytes text)[i]? = none := List.getElem?_eq_none hge
    have hends : ¬ Text.Continues text i := by simp [Text.Continues, hnone]
    simp only [hnone, decide_eq_true_eq, hends, not_false_eq_true, and_true]
    omega

/-- A span fits exactly if it can be cut out of the text. -/
theorem fits_iff {f : Failure} {text : String} :
    fits f text = true ↔ ∃ a b c : String, text = a ++ b ++ c ∧
      a.utf8ByteSize = f.location.start ∧ (a ++ b).utf8ByteSize = f.location.stop := by
  rw [Text.exists_cut_iff, fits]
  simp only [Bool.and_eq_true, decide_eq_true_eq, isCharBoundary_iff]
  constructor
  · rintro ⟨⟨⟨hle, hsize⟩, -, hstart⟩, -, hstop⟩
    exact ⟨hle, hsize, hstart, hstop⟩
  · rintro ⟨hle, hsize, hstart, hstop⟩
    exact ⟨⟨⟨hle, hsize⟩, hle.trans hsize, hstart⟩, hsize, hstop⟩

/-! ## Drawings and lines -/

/-- Whatever is drawn shows the message and, on a later line, the name of the file. The line with
the name comes to an end. -/
def Drawing.ShowsMessageAndFile (draw : Drawing) : Prop :=
  ∀ color f text, fits f text = true → ∃ a b c : String,
    draw color f text = a ++ f.cause.message ++ b ++ f.location.filename ++ c ∧
      '\n' ∈ b.toList ∧ '\n' ∈ c.toList

/-- The number of line breaks in a text. -/
def lineBreaks (s : String) : Nat := s.toList.count '\n'

@[simp] theorem lineBreaks_append (s t : String) :
    lineBreaks (s ++ t) = lineBreaks s + lineBreaks t := by
  rw [lineBreaks, String.toList_append, List.count_append, lineBreaks, lineBreaks]

@[simp] theorem lineBreaks_repr (n : Nat) : lineBreaks n.repr = 0 := by
  refine List.count_eq_zero.2 fun h => ?_
  have hint : '\n' ∈ (Int.repr n).toList := h
  rcases isDigit_or_minus_of_mem_repr hint with h | h <;> revert h <;> decide

/-- The one line of a failure has the line breaks of the name of the file and of the message, and
one at its end. -/
theorem lineBreaks_line (f : Failure) : lineBreaks (f.message ++ "\n") =
    lineBreaks f.location.filename + lineBreaks f.cause.message + 1 := by
  have hmarks : lineBreaks ":" = 0 ∧ lineBreaks ": " = 0 ∧ lineBreaks "\n" = 1 := by decide
  simp [Failure.message, Location.text, hmarks]

theorem Drawing.ShowsMessageAndFile.ne_line {draw : Drawing} (hdraw : draw.ShowsMessageAndFile)
    {f : Failure} {text : String} (hfits : fits f text = true) (color : Bool) :
    draw color f text ≠ f.message ++ "\n" := by
  intro hline
  obtain ⟨a, b, c, hshown, hb, hc⟩ := hdraw color f text hfits
  have hb : 0 < lineBreaks b := List.count_pos_iff.2 hb
  have hc : 0 < lineBreaks c := List.count_pos_iff.2 hc
  have hcount := lineBreaks_line f
  rw [← hline, hshown] at hcount
  simp only [lineBreaks_append] at hcount
  omega

/-- Where there is a failure and a source, the line is left exactly if the span fits. -/
theorem renderWith_running_ne_iff {draw : Drawing} (hdraw : draw.ShowsMessageAndFile) (color : Bool)
    (origin text : String) (f : Failure) :
    renderWith draw color origin (some text) (.running f) ≠
        Error.line origin (.running f) ++ "\n" ↔ fits f text = true := by
  rw [renderWith, Error.line]
  by_cases hfits : fits f text = true
  · rw [if_pos hfits]
    exact ⟨fun _ => hfits, fun _ => hdraw.ne_line hfits color⟩
  · rw [if_neg hfits]
    simp [hfits]

/-! ## The layout in use -/

section Layout

open Inked

/-- Pieces are shown one after another. -/
theorem foldl_append {α : Type} (g : α → String) (front : String) (l : List α) :
    l.foldl (fun t x => t ++ g x) front = front ++ l.foldl (fun t x => t ++ g x) "" := by
  induction l generalizing front with
  | nil => exact String.append_empty.symm
  | cons x l ih =>
    rw [List.foldl_cons, List.foldl_cons, ih, ih ("" ++ g x), String.empty_append,
      String.append_assoc]

/-- A plain piece is shown as it is, and after it the row comes to an end. -/
theorem exists_paintLine_eq (color : Bool) (front : List Inked) (text : String)
    (back : List Inked) : ∃ a b : String,
      paintLine color (front ++ plain text :: back) = a ++ text ++ b ∧ '\n' ∈ b.toList := by
  have hplain : (plain text).paint color = text := by cases color <;> rfl
  refine ⟨front.foldl (fun s p => s ++ p.paint color) "",
    back.foldl (fun s p => s ++ p.paint color) "" ++ "\n", ?_, by simp⟩
  rw [paintLine, List.foldl_append, List.foldl_cons, foldl_append (Inked.paint color), hplain,
    String.append_assoc]

theorem draw_showsMessageAndFile : Drawing.ShowsMessageAndFile draw := by
  intro color f text _
  unfold draw
  dsimp only
  generalize span f.location text.toList = s
  obtain ⟨a, b, hmessage, hb⟩ :=
    exists_paintLine_eq color [⟨.red, "Error:"⟩] (" " ++ f.cause.message) []
  obtain ⟨a', b', hplace, hb'⟩ := exists_paintLine_eq color
    [plain (spaces (s.width + 2)), ⟨marginInk, "╭"⟩, ⟨marginInk, "─"⟩, ⟨marginInk, "["⟩]
    (" " ++ f.location.filename ++ ":" ++ s.first.repr ++ ":" ++
      (s.start - s.startLine.offset + 1).repr ++ " ") [⟨marginInk, "]"⟩]
  rw [header, List.append_assoc, List.cons_append, List.cons_append, List.foldl_cons,
    List.foldl_cons, foldl_append (paintLine color), String.empty_append]
  generalize List.foldl _ "" _ = rest
  rw [List.singleton_append] at hmessage
  rw [List.cons_append, List.cons_append, List.cons_append, List.singleton_append] at hplace
  rw [hmessage, hplace]
  refine ⟨a ++ " ", b ++ (a' ++ " "), ":" ++ s.first.repr ++ ":" ++
      (s.start - s.startLine.offset + 1).repr ++ " " ++ b' ++ rest, ?_, ?_, ?_⟩
  · simp only [String.append_assoc]
  · simp [hb]
  · simp [hb']

end Layout

/-! ## What is shown -/

/-- A report is drawn exactly when the span can be cut out of the source. Let drawings show the
message and, on a later line, the name of the file. Then what is shown is not the one line of the
error if and only if evaluation failed, there is a source, and it is made of three texts of which
the first has as many bytes as the start of the span and the first two together as many as its end;
and if so, the drawing is shown. It is that line, and nothing else, for an error of decoding,
without a source, and if the span is reversed, ends beyond the text, or starts or ends inside a
character. -/
theorem renderWith_ne_line_iff {draw : Drawing} (hdraw : draw.ShowsMessageAndFile) (color : Bool)
    (origin : String) (source : Option String) (e : Error) :
    (renderWith draw color origin source e ≠ e.line origin ++ "\n" ↔
      ∃ f text, e = .running f ∧ source = some text ∧
        ∃ a b c : String, text = a ++ b ++ c ∧ a.utf8ByteSize = f.location.start ∧
          (a ++ b).utf8ByteSize = f.location.stop) ∧
    (∀ f text, e = .running f → source = some text →
      (∃ a b c : String, text = a ++ b ++ c ∧ a.utf8ByteSize = f.location.start ∧
        (a ++ b).utf8ByteSize = f.location.stop) →
      renderWith draw color origin source e = draw color f text) ∧
    (renderWith draw color origin source e = e.line origin ++ "\n" ↔
      (∃ d, e = .decoding d) ∨ source = none ∨
        ∃ f text, e = .running f ∧ source = some text ∧
          (f.location.stop < f.location.start ∨ text.utf8ByteSize < f.location.stop ∨
            Text.Inside text f.location.start ∨ Text.Inside text f.location.stop)) := by
  cases e with
  | decoding d =>
    have hline : renderWith draw color origin source (.decoding d) =
        Error.line origin (.decoding d) ++ "\n" := by cases source <;> rfl
    simp [hline]
  | running f =>
    cases source with
    | none =>
      have hline : renderWith draw color origin none (.running f) =
          Error.line origin (.running f) ++ "\n" := rfl
      simp [hline]
    | some text =>
      have hcut := (renderWith_running_ne_iff hdraw color origin text f).trans fits_iff
      refine ⟨by simpa using hcut, ?_, ?_⟩
      · rintro _ _ ⟨⟩ ⟨⟩ h
        exact if_pos (fits_iff.2 h)
      · rw [← not_iff_not, ← ne_eq, hcut, Text.exists_cut_iff]
        simp only [Error.running.injEq, reduceCtorEq, exists_false, false_or, Option.some.injEq,
          exists_and_left, exists_eq_left', not_or, Nat.not_lt]

/-- The span of `é` in `aéb` is drawn in the layout in use, and a span that starts inside `é` is
told in one line. -/
theorem render_accented :
    let cause := Cause.undefinedVariable "é"
    render true "x.json" (some "aéb") (.running ⟨cause, ⟨1, 3, "x"⟩⟩) ≠
        Error.line "x.json" (.running ⟨cause, ⟨1, 3, "x"⟩⟩) ++ "\n" ∧
      render true "x.json" (some "aéb") (.running ⟨cause, ⟨2, 3, "x"⟩⟩) =
        Error.line "x.json" (.running ⟨cause, ⟨2, 3, "x"⟩⟩) ++ "\n" := by
  intro cause
  have hcut : ∃ a b c : String, "aéb" = a ++ b ++ c ∧ a.utf8ByteSize = 1 ∧
      (a ++ b).utf8ByteSize = 3 := ⟨"a", "é", "b", by decide, by decide, by decide⟩
  have hinside : Text.Inside "aéb" 2 := ⟨"a", 'é', "b", by decide, by decide, by decide⟩
  constructor
  · exact (renderWith_ne_line_iff draw_showsMessageAndFile true "x.json" (some "aéb")
      (.running ⟨cause, ⟨1, 3, "x"⟩⟩)).1.2 ⟨_, _, rfl, rfl, hcut⟩
  · exact (renderWith_ne_line_iff draw_showsMessageAndFile true "x.json" (some "aéb")
      (.running ⟨cause, ⟨2, 3, "x"⟩⟩)).2.2.2
        (.inr (.inr ⟨_, _, rfl, rfl, .inr (.inr (.inl hinside))⟩))

end Treewalk.Report
