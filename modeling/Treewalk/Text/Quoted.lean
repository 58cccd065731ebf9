import Treewalk.Text.Unprintable

/-! # Quoted text

Two ways to write a text between quotes: as a string of a document, and as it is shown in
messages. -/

namespace Treewalk.Text

/-- Four hexadecimal digits, which suffice for a control character. -/
def hex4 (n : Nat) : List Char :=
  [Nat.digitChar (n / 4096 % 16), Nat.digitChar (n / 256 % 16), Nat.digitChar (n / 16 % 16),
    Nat.digitChar (n % 16)]

/-- A character inside a string of a document. Quotes, backslashes and control characters are
escaped, and nothing else. -/
def documentChar (c : Char) : List Char :=
  if c = '"' then ['\\', '"']
  else if c = '\\' then ['\\', '\\']
  else if c = '\n' then ['\\', 'n']
  else if c = '\r' then ['\\', 'r']
  else if c = '\t' then ['\\', 't']
  else if c = '\x08' then ['\\', 'b']
  else if c = '\x0c' then ['\\', 'f']
  else if c < ' ' then '\\' :: 'u' :: hex4 c.toNat
  else [c]

/-- A character inside a text shown in a message. Characters that cannot be shown are given by their
code. -/
def shownChar (c : Char) : List Char :=
  if c = '"' then ['\\', '"']
  else if c = '\\' then ['\\', '\\']
  else if c = '\n' then ['\\', 'n']
  else if c = '\r' then ['\\', 'r']
  else if c = '\t' then ['\\', 't']
  else if c = '\x00' then ['\\', '0']
  else if isUnprintable c then '\\' :: 'u' :: '{' :: (Nat.toDigits 16 c.toNat ++ ['}'])
  else [c]

/-- `front` followed by `s` in quotes, each character written by `write`. -/
def appendQuoted (write : Char → List Char) (front s : String) : String :=
  (s.toList.foldl (fun t c => (write c).foldl String.push t) (front.push '"')).push '"'

/-- A text as it is shown in messages. -/
def shown (s : String) : String := appendQuoted shownChar "" s

end Treewalk.Text
