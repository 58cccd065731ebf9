/-! # Control sequences

Sequences of characters that direct a display and are not shown. Such a sequence begins with an
escape character. After an opening bracket it lasts to the first character from `@` to `~`, after a
closing bracket to a bell or to an escape character and a backslash, and otherwise it has one more
character. -/

namespace Treewalk.Text

/-- Where in a control sequence a character stands. -/
inductive Control where
  /-- In none. -/
  | none
  /-- After the escape character. -/
  | escape
  /-- After an opening bracket. -/
  | sequence
  /-- After a closing bracket, with the character before. -/
  | command (before : Char)
  deriving DecidableEq

namespace Control

def escapeChar : Char := '\x1b'

/-- Where the next character stands. -/
def next : Control → Char → Control
  | none, c => if c = escapeChar then escape else none
  | escape, c => if c = '[' then sequence else if c = ']' then command ']' else none
  | sequence, c => if '@' ≤ c ∧ c ≤ '~' then none else sequence
  | command before, c =>
    if c = '\x07' ∨ (c = '\\' ∧ before = escapeChar) then none else command c

/-- The character is shown. -/
def shows (s : Control) (c : Char) : Bool := s = none && c ≠ escapeChar

end Control

/-- The characters of a text, each with whether it is shown. -/
def marked (s : Control) : List Char → List (Char × Bool)
  | [] => []
  | c :: rest => (c, s.shows c) :: marked (s.next c) rest

/-- The characters of a text that are shown. -/
def shownOnly (cs : List Char) : List Char :=
  (marked .none cs).filterMap fun (c, shown) => if shown then some c else none

end Treewalk.Text
