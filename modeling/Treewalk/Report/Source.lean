/-! # Source texts

A source text as a report needs it: with the places where characters begin, and divided into
lines. -/

namespace Treewalk.Source

/-- The number of bytes that characters take. -/
def byteSize (cs : List Char) : Nat := (String.ofList cs).utf8ByteSize

/-- A character of the text begins at the byte, or the text ends there. The bytes with which no
character begins are those whose two highest bits are `10`. -/
def isCharBoundary (text : String) (i : Nat) : Bool :=
  if i = 0 then true
  else
    match text.toUTF8.data[i]? with
    | some b => b < 0x80 || 0xC0 ≤ b
    | none => i = text.utf8ByteSize

/-- Counts the characters that end within the first `bytes` bytes of a text, and the `passed` ones
before it. -/
def charactersFrom (passed bytes : Nat) : List Char → Nat
  | [] => passed
  | c :: rest =>
    if c.utf8Size ≤ bytes then charactersFrom (passed + 1) (bytes - c.utf8Size) rest else passed

/-- The number of characters that end within the first `bytes` bytes of a text. -/
def charactersWithin (bytes : Nat) (text : List Char) : Nat := charactersFrom 0 bytes text

/-- The characters that end a line. -/
def isLineEnd (c : Char) : Bool :=
  c = '\n' || c = '\r' || c = '\x0b' || c = '\x0c' || c = '\u0085' || c = '\u2028' || c = '\u2029'

/-- The characters that are blank. -/
def isBlank (c : Char) : Bool :=
  c = ' ' || ('\t' ≤ c && c ≤ '\r') || c = '\u0085' || c = '\u00a0' || c = '\u1680' ||
    ('\u2000' ≤ c && c ≤ '\u200a') || c = '\u2028' || c = '\u2029' || c = '\u202f' ||
    c = '\u205f' || c = '\u3000'

/-- A line with the character or the two characters that end it. -/
structure Line where
  /-- The number of characters before the line. -/
  offset : Nat
  /-- The number of bytes before the line. -/
  start : Nat
  chars : List Char
  deriving Inhabited

/-- The line without blanks at its end. -/
def Line.shown (l : Line) : List Char :=
  (l.chars.reverse.dropWhile isBlank).reverse

/-- Lines of a text, where `front` is the part of a line passed before, the last character first,
and `done` are the lines before it, the last first. A carriage return and a line feed end one line
together. -/
def divide (front : List Char) (done : List (List Char)) : List Char → List (List Char)
  | [] => (if front.isEmpty then done else front.reverse :: done).reverse
  | '\r' :: '\n' :: rest => divide [] (('\n' :: '\r' :: front).reverse :: done) rest
  | c :: rest =>
    if isLineEnd c then divide [] ((c :: front).reverse :: done) rest
    else divide (c :: front) done rest

/-- Adds to each line its place. -/
def number (offset start : Nat) : List (List Char) → List Line
  | [] => []
  | cs :: rest =>
    ⟨offset, start, cs⟩ ::
      number (offset + cs.length) (start + byteSize cs) rest

/-- The lines of a text. The empty text is one empty line; nothing after the end of the last line is
a line. -/
def lines (text : List Char) : List Line :=
  if text.isEmpty then [⟨0, 0, []⟩] else number 0 0 (divide [] [] text)

/-- The number of the last line that starts at or before a byte, counted from one. -/
def lineNumber (ls : List Line) (byte : Nat) : Nat := ls.countP fun l => l.start ≤ byte

end Treewalk.Source
