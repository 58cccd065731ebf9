import Treewalk.Interpreter
import Treewalk.Report.Layout

/-! # Reports

An error is told in one line. If it is a failure of evaluation and the source text is at hand, it
can be drawn instead. That is done whenever the span fits the text. -/

namespace Treewalk

/-- The error in one line. What is wrong with a document as a whole is placed at the start of its
origin. -/
def Error.line (origin : String) : Error → String
  | .decoding e => origin ++ ":0:0: " ++ e.message
  | .running f => f.message

namespace Report

/-- Whether the span of a failure can be drawn on a text. -/
def fits (f : Failure) (text : String) : Bool :=
  let l := f.location
  l.start ≤ l.stop && l.stop ≤ text.utf8ByteSize && Source.isCharBoundary text l.start &&
    Source.isCharBoundary text l.stop

/-- A way to draw a failure on a text that its span fits, with colours or without. -/
abbrev Drawing := (color : Bool) → (f : Failure) → (text : String) → String

/-- The error drawn on the source if it can be, and in one line otherwise. -/
def renderWith (draw : Drawing) (color : Bool) (origin : String) (source : Option String)
    (e : Error) : String :=
  match e, source with
  | .running f, some text => if fits f text then draw color f text else e.line origin ++ "\n"
  | _, _ => e.line origin ++ "\n"

/-- The error as it is shown, with drawings laid out by `draw`. -/
def render (color : Bool) (origin : String) (source : Option String) (e : Error) : String :=
  renderWith draw color origin source e

end Report

end Treewalk
