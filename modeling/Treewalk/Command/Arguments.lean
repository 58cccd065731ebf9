/-! # Command-line arguments

The options of the command and the file it is given. Each may be given once; an option that takes
a value takes the next argument or what follows an equals sign; after `--` everything is a file. -/

namespace Treewalk

structure Arguments where
  maxDepth : Option Nat
  noMemo : Bool
  /-- Show the program instead of running it. -/
  dump : Bool
  /-- Draw failures on their source. -/
  pretty : Bool
  file : Option String
  deriving DecidableEq

namespace Arguments

def empty : Arguments := ⟨none, false, false, false, none⟩

/-- Depths are below this number. -/
def depthBound : Nat := Nat.pow 2 64

/-- The number written in decimal digits, an optional plus sign before them. -/
def depth? (text : String) : Option Nat :=
  let digits := match text.toList with
    | '+' :: rest => rest
    | cs => cs
  if digits.isEmpty || !digits.all Char.isDigit then none
  else
    let n := Nat.ofDigitChars 10 digits 0
    if n < depthBound then some n else none

def withDepth? (a : Arguments) (text : String) : Option Arguments :=
  if a.maxDepth.isSome then none else (depth? text).map fun n => { a with maxDepth := some n }

/-- The file, which is one and has a name. -/
def withFile? (a : Arguments) (name : String) : Option Arguments :=
  if a.file.isSome || name.isEmpty then none else some { a with file := some name }

/-- An option that is given or not. -/
def withFlag? (a : Arguments) (name : String) : Option Arguments :=
  if name = "--no-memo" ∧ !a.noMemo then some { a with noMemo := true }
  else if name = "--dump-ast" ∧ !a.dump then some { a with dump := true }
  else if name = "--pretty" ∧ !a.pretty then some { a with pretty := true }
  else none

/-- The option of which the depth is the value, and what joins it to its value. -/
def depthOption : String := "--max-depth"

/-- The value that an argument joins to the depth option. -/
def joinedDepth? (argument : String) : Option String :=
  let lead := (depthOption ++ "=").toList
  let cs := argument.toList
  if lead.isPrefixOf cs then some (String.ofList (cs.drop lead.length)) else none

/-- Files alone. -/
def addFiles? (a : Arguments) : List String → Option Arguments
  | [] => some a
  | name :: rest => do addFiles? (← a.withFile? name) rest

/-- An argument that stands by itself. A dash alone names a file. -/
def addOne? (a : Arguments) (x : String) : Option Arguments :=
  match joinedDepth? x with
  | some text => a.withDepth? text
  | none => if x.startsWith "-" && x ≠ "-" then a.withFlag? x else a.withFile? x

/-- Options and files in any order, added to what was read before. -/
def add? (a : Arguments) : List String → Option Arguments
  | [] => some a
  | "--" :: rest => a.addFiles? rest
  | [x] => a.addOne? x
  | x :: y :: rest =>
    if x = depthOption then do add? (← a.withDepth? y) rest
    else do add? (← a.addOne? x) (y :: rest)

/-- What a list of arguments asks for, if it is well formed. -/
def parse? (arguments : List String) : Option Arguments := empty.add? arguments

end Arguments

end Treewalk
