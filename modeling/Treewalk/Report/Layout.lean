import Treewalk.Failure
import Treewalk.Report.Canvas
import Treewalk.Report.Source

/-! # The layout of drawings

A failure is drawn on its source: the lines of the source that the failure lies on, with the span
marked and the message attached. -/

namespace Treewalk.Report

open Source Inked

/-- The ink of margins, of their continuation, of source text, and of what is marked. -/
def marginInk : Ink := .shade 246

def faintInk : Ink := .shade 240

def sourceInk : Ink := .shade 249

def markInk : Ink := .shade 155

def mark (text : String) : Inked := ⟨markInk, text⟩

/-- A tab reaches to the next column divisible by this. -/
def tabWidth : Nat := 4

/-- The number of cells that a character takes in a given column. -/
def cells (column : Nat) (c : Char) : Nat :=
  if c = '\t' then (column / tabWidth + 1) * tabWidth - column else 1

/-- The cells of each of the first `count` columns of a line; columns past its end take one. -/
def columnCells (shown : List Char) (count : Nat) : List Nat :=
  (List.range count).map fun j =>
    match shown[j]? with
    | some c => cells j c
    | none => 1

/-- What is drawn: a span of characters in a text, and the lines it starts and ends on. -/
structure Span where
  first : Nat
  last : Nat
  startLine : Line
  lastLine : Line
  /-- The span, counted in characters of the whole text. -/
  start : Nat
  stop : Nat

/-- The width of the margin, which holds the greatest line number. -/
def Span.width (s : Span) : Nat := s.last.repr.length

/-- The margin in front of line `k`. -/
def numbered (s : Span) (k : Nat) : List Inked :=
  let digits := k.repr
  [plain " ", ⟨marginInk, spaces (s.width - digits.length) ++ digits ++ " │"⟩, plain " "]

/-- The margin in front of lines that are not of the source. -/
def margin (s : Span) (bar : String) : List Inked :=
  [plain " ", ⟨faintInk, spaces (s.width + 1) ++ bar⟩, plain " "]

/-- A line of the source, each cell by itself. -/
def sourceRow (s : Span) (l : Line) : List Inked :=
  (l.shown.zipIdx.map fun (c, j) =>
    let place := l.offset + j
    let ink := if s.start ≤ place ∧ place < s.stop then markInk else sourceInk
    let text := if isBlank c then " " else c.toString
    List.replicate (cells j c) (Inked.mk ink text)).flatten

/-- The rows above the source: message and place. -/
def header (s : Span) (filename message : String) : List (List Inked) :=
  let column := s.start - s.startLine.offset + 1
  let place := " " ++ filename ++ ":" ++ s.first.repr ++ ":" ++ column.repr ++ " "
  let indent := plain (spaces (s.width + 2))
  [[⟨.red, "Error:"⟩, plain (" " ++ message)],
    [indent, ⟨marginInk, "╭"⟩, ⟨marginInk, "─"⟩, ⟨marginInk, "["⟩, plain place, ⟨marginInk, "]"⟩],
    [indent, ⟨marginInk, "│"⟩]]

/-- The row below the source. -/
def footer (s : Span) : List Inked :=
  [⟨marginInk, String.ofList (List.replicate (s.width + 2) '─') ++ "╯"⟩]

/-- A mark that fills the cells of a column. -/
def fill (lead tail : Inked) (width : Nat) : List Inked := lead :: List.replicate (width - 1) tail

/-- A span on one line: it is underlined, and the message hangs from its middle. -/
def oneLine (s : Span) (message : String) : List (List Inked) :=
  let l := s.startLine
  let left := s.start - l.offset
  let right := s.stop - l.offset
  let middle := (s.start + s.stop) / 2 - l.offset
  let columns := (columnCells l.shown (right + 2)).zipIdx
  let underline := columns.map fun (width, j) =>
    if j = middle then
      if left ≤ j ∧ j < right then fill (mark "┬") (mark "─") width
      else fill (mark "│") (mark " ") width
    else if left ≤ j ∧ j < right then fill (mark "─") (mark "─") width
    else fill (plain " ") (plain " ") width
  let arm := columns.map fun (width, j) =>
    if j < middle then fill (plain " ") (plain " ") width
    else if j = middle then fill (mark "╰") (mark "─") width
    else fill (mark "─") (mark "─") width
  [numbered s s.first ++ sourceRow s l,
    margin s "│" ++ underline.flatten,
    margin s "│" ++ arm.flatten ++ [plain (" " ++ message)]]

/-- A span on several lines: its first and last line are joined at the left, and the message hangs
from the joint. -/
def manyLines (s : Span) (message : String) : List (List Inked) :=
  let l := s.lastLine
  let width := (columnCells l.shown (l.chars.length + 2)).foldl (· + ·) 0
  let between :=
    if s.last - s.first > 1 then [margin s "┆" ++ [mark "┆", plain "   "]] else []
  [numbered s s.first ++ letters markInk "╭─▶ " ++ sourceRow s s.startLine] ++ between ++
  [numbered s s.last ++ letters markInk "├─▶ " ++ sourceRow s l,
    margin s "│" ++ [mark "│", plain "   ", plain (spaces width)],
    margin s "│" ++ letters markInk "╰───" ++ List.replicate width (mark "─") ++
      [plain (" " ++ message)]]

/-- The span of a location in a text. -/
def span (l : Location) (text : List Char) : Span :=
  let ls := lines text
  let first := lineNumber ls l.start
  let last := if l.start = l.stop then first else lineNumber ls (l.stop - 1)
  { first := first
    last := last
    startLine := ls.getD (first - 1) default
    lastLine := ls.getD (last - 1) default
    start := charactersWithin l.start text
    stop := charactersWithin l.stop text }

/-- A failure drawn on its source text. -/
def draw (color : Bool) (f : Failure) (text : String) : String :=
  let s := span f.location text.toList
  let message := f.cause.message
  let body := if s.first = s.last then oneLine s message else manyLines s message
  (header s f.location.filename message ++ body ++ [footer s]).foldl
    (fun t row => t ++ paintLine color row) ""

end Treewalk.Report
