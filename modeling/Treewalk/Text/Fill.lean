import Treewalk.Text.Alphanumeric
import Treewalk.Text.LineBreak
import Treewalk.Text.Width

/-! # Filling lines

A text is set in lines of limited width. It is divided into words where a line may end and after
hyphens between letters, words that are too wide are broken apart, and each line takes as many words
as fit. Spaces at the end of a line are left out. -/

namespace Treewalk.Text

/-- A piece of a line that stays together, and the number of spaces after it. -/
structure Word where
  text : List Char
  blanks : Nat

namespace Word

/-- A piece of a text, with its spaces at the end set apart. -/
def ofChars (cs : List Char) : Word :=
  let text := (cs.reverse.dropWhile (· = ' ')).reverse
  ⟨text, cs.length - text.length⟩

/-- Pieces that divide a word, the last of which has its spaces. -/
def divide (w : Word) : List (List Char) → List Word
  | [] => []
  | [piece] => [⟨piece, w.blanks⟩]
  | piece :: rest => ⟨piece, 0⟩ :: w.divide rest

/-- The pieces of a text up to and including each hyphen between letters or numerals. `front` is the
piece so far and `before` the character before, both going backwards. -/
def hyphenPieces (front : List Char) (before : Option Char) : List Char → List (List Char)
  | [] => [front.reverse]
  | c :: rest =>
    if c = '-' && before.any isAlphanumeric && rest.head?.any isAlphanumeric then
      (c :: front).reverse :: hyphenPieces [] (some c) rest
    else hyphenPieces (c :: front) (some c) rest

/-- The word divided after its hyphens. -/
def hyphenate (w : Word) : List Word := w.divide (hyphenPieces [] none w.text)

/-- The pieces of a text that are at most `room` wide, if no single character is wider. `front` is
the piece so far, backwards, and `used` its width. -/
def fittingPieces (room : Nat) (front : List Char) (used : Nat) :
    List (Char × Bool) → List (List Char)
  | [] => [front.reverse]
  | (c, shown) :: rest =>
    if !shown then fittingPieces room (c :: front) used rest
    else if 0 < used && room < used + columns c then
      front.reverse :: fittingPieces room [c] (columns c) rest
    else fittingPieces room (c :: front) (used + columns c) rest

/-- The word broken apart if it is wider than `room`. -/
def breakApart (room : Nat) (w : Word) : List Word :=
  if room < width w.text then w.divide (fittingPieces room [] 0 (marked .none w.text)) else [w]

end Word

/-- Each shown character with those before it that are not shown, and what is left at the end.
`front` are those passed so far, backwards. -/
def clusters (front : List Char) : List (Char × Bool) → List (List Char × Char) × List Char
  | [] => ([], front.reverse)
  | (c, shown) :: rest =>
    if shown then
      let (rows, left) := clusters [] rest
      ((front.reverse, c) :: rows, left)
    else clusters (c :: front) rest

/-- A hyphen, written or soft, after which words are not divided by the rules for lines. -/
def isHyphen (c : Char) : Bool := c = '-' || c = '\xad'

/-- The places given, apart from those after a hyphen. -/
def dropAfterHyphens (before : Option Char) : List Char → List Bool → List Bool
  | c :: cs, allowed :: rest =>
    (allowed && !before.any isHyphen) :: dropAfterHyphens (some c) cs rest
  | _, _ => []

/-- The places given, apart from the last. -/
def dropLast : List Bool → List Bool
  | [] => []
  | allowed :: rest => (allowed && rest.any id) :: dropLast rest

/-- For each character of a text, whether a word starts there. The end of the text is a place where
a line may end like any other, and the last such place starts no word. -/
def wordStarts (cs : List Char) : List Bool :=
  let places := dropAfterHyphens none cs (breaks .start cs)
  if cs.getLast?.any isHyphen then dropLast places else places

/-- The words made of clusters, given where they start. `front` is the word so far, backwards, and
`left` is what follows the last cluster. -/
def joinWords (left front : List Char) : List ((List Char × Char) × Bool) → List (List Char)
  | [] => let last := front.reverse ++ left; if last.isEmpty then [] else [last]
  | ((hidden, c), starts) :: rest =>
    if starts then front.reverse :: joinWords left (c :: hidden.reverse) rest
    else joinWords left (c :: (hidden.reverse ++ front)) rest

/-- The words of a line. -/
def words (line : List Char) : List Word :=
  let (rows, left) := clusters [] (marked .none line)
  (joinWords left [] (rows.zip (wordStarts (rows.map (·.2))))).map Word.ofChars

/-- Rows of words, each as long as fits. `row` is the row so far, backwards, and `used` its width
with the spaces after it. -/
def rows (room : Nat) (row : List Word) (used : Nat) : List Word → List (List Word)
  | [] => [row.reverse]
  | w :: rest =>
    let wide := width w.text
    if room < used + wide && !row.isEmpty then
      row.reverse :: rows room [w] (wide + w.blanks) rest
    else rows room (w :: row) (used + wide + w.blanks) rest

/-- The text of a row, without the spaces at its end. -/
def rowText : List Word → List Char
  | [] => []
  | [w] => w.text
  | w :: rest => w.text ++ List.replicate w.blanks ' ' ++ rowText rest

/-- A line set in rows at most `room` wide. -/
def fillLine (room : Nat) (line : List Char) : List String :=
  let ws := (words line).flatMap fun w => w.hyphenate.flatMap (Word.breakApart room)
  (rows room [] 0 ws).map fun row => String.ofList (rowText row)

/-- A text set in lines of at most `columns` columns. The first line begins with `first` and the
others with `rest`, which is as wide. -/
def fill (columns : Nat) (first rest text : String) : String :=
  let room := columns - width rest.toList
  let lines := (text.splitOn "\n").flatMap fun line => fillLine room line.toList
  first ++ String.intercalate ("\n" ++ rest) lines

end Treewalk.Text
