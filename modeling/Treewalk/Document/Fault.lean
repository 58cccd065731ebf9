/-! # Faults of a document text

A fault is found at some point of the text, with part of it left to read. Only when it is reported
is that point turned into a line and a column, both counted as the format's users expect: lines from
one, columns in bytes from zero. -/

namespace Treewalk

namespace Fault

inductive Cause where
  | eofValue
  | eofList
  | eofObject
  | eofString
  | expectedValue
  | expectedIdent
  | expectedListEnd
  | expectedObjectEnd
  | expectedColon
  | keyMustBeString
  | trailingCharacters
  | invalidNumber
  | controlCharacter
  | invalidEscape
  | numberOutOfRange
  | loneSurrogate
  | unfinishedSurrogate
  deriving DecidableEq

def Cause.message : Cause → String
  | eofValue => "EOF while parsing a value"
  | eofList => "EOF while parsing a list"
  | eofObject => "EOF while parsing an object"
  | eofString => "EOF while parsing a string"
  | expectedValue => "expected value"
  | expectedIdent => "expected ident"
  | expectedListEnd => "expected `,` or `]`"
  | expectedObjectEnd => "expected `,` or `\x7d`"
  | expectedColon => "expected `:`"
  | keyMustBeString => "key must be a string"
  | trailingCharacters => "trailing characters"
  | invalidNumber => "invalid number"
  | controlCharacter => "control character (\\u0000-\\u001F) found while parsing a string"
  | invalidEscape => "invalid escape"
  | numberOutOfRange => "number out of range"
  | loneSurrogate => "lone leading surrogate in hex escape"
  | unfinishedSurrogate => "unexpected end of hex escape"

end Fault

/-- A cause, and the point where it was found: `ahead` bytes into what was left to read. -/
structure Fault where
  cause : Fault.Cause
  rest : List Char
  ahead : Nat

namespace Fault

/-- A fault at the next character. -/
def here (cause : Cause) (rest : List Char) : Fault := ⟨cause, rest, 0⟩

/-- A fault just after the first byte of the next character. -/
def after (cause : Cause) (rest : List Char) : Fault := ⟨cause, rest, 1⟩

/-- The number of bytes of a text. -/
def byteCount (text : List Char) : Nat := text.foldl (fun n c => n + c.utf8Size) 0

/-- A place in a text. -/
structure Position where
  line : Nat
  column : Nat
  deriving DecidableEq

/-- The place `remaining` bytes further on, if the line at hand has `column` bytes so far. -/
def advance (line column : Nat) : List Char → Nat → Position
  | [], remaining => ⟨line, column + remaining⟩
  | c :: text, remaining =>
    if remaining < c.utf8Size then ⟨line, column + remaining⟩
    else if c = '\n' then advance (line + 1) 0 text (remaining - 1)
    else advance line (column + c.utf8Size) text (remaining - c.utf8Size)

/-- Where in `text` the fault lies, no further than its end. -/
def position (text : List Char) (f : Fault) : Position :=
  let size := byteCount text
  advance 1 0 text (min size (size - byteCount f.rest + f.ahead))

end Fault

/-- What is wrong with a document text, and where. -/
structure SyntaxError where
  cause : Fault.Cause
  position : Fault.Position
  deriving DecidableEq

/-- The error of a fault found in `text`. -/
def Fault.locate (text : List Char) (f : Fault) : SyntaxError := ⟨f.cause, f.position text⟩

def SyntaxError.message (e : SyntaxError) : String :=
  e.cause.message ++ " at line " ++ e.position.line.repr ++ " column " ++ e.position.column.repr

end Treewalk
