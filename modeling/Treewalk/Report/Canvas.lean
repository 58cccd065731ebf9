/-! # Inked text

Pieces of text with a colour, for output that may be coloured or plain. -/

namespace Treewalk

inductive Ink where
  | plain
  | red
  /-- A colour of the 256-colour palette. -/
  | shade (n : Nat)
  deriving DecidableEq

structure Inked where
  ink : Ink
  text : String

namespace Inked

/-- The text of a piece, between the codes that set and reset its colour. -/
def paint (color : Bool) (p : Inked) : String :=
  if !color then p.text
  else
    match p.ink with
    | .plain => p.text
    | .red => "\x1b[31m" ++ p.text ++ "\x1b[0m"
    | .shade n => "\x1b[38;5;" ++ n.repr ++ "m" ++ p.text ++ "\x1b[0m"

/-- A line made of pieces. -/
def paintLine (color : Bool) (row : List Inked) : String :=
  row.foldl (fun s p => s ++ p.paint color) "" ++ "\n"

def plain (text : String) : Inked := ⟨.plain, text⟩

def spaces (n : Nat) : String := String.ofList (List.replicate n ' ')

/-- Each character as a piece of its own. -/
def letters (ink : Ink) (text : String) : List Inked :=
  text.toList.map fun c => ⟨ink, c.toString⟩

end Inked

end Treewalk
