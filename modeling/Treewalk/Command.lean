import Treewalk.Command.Arguments
import Treewalk.Command.Reading
import Treewalk.Report
import Treewalk.Schema.Encode
import Treewalk.Text.Fill

/-! # The command

Reads a document, runs its program or shows it, and reports what went wrong. What the command needs
of its surroundings are two ways of reading, in any monad. -/

namespace Treewalk

/-- What a command can read. -/
structure Surroundings (m : Type → Type) where
  readFile : String → m (Except ReadError String)
  readInput : m (Except ReadError String)

/-- A folder in memory and a text on the input. -/
def Folder.surroundings (d : Folder) (input : String) : Surroundings Id where
  readFile := d.read
  readInput := .ok input

namespace Command

/-- What is left of a command when it has ended. -/
structure Outcome where
  status : UInt8
  output : String
  complaint : String

def Outcome.success (output : String) : Outcome := ⟨0, output, ""⟩

def Outcome.failure (output complaint : String) : Outcome := ⟨1, output, complaint⟩

/-- The outcome of arguments that ask for nothing. -/
def Outcome.misuse : Outcome :=
  ⟨2, "", "usage: [--max-depth N] [--no-memo] [--dump-ast] [--pretty] [FILE]\n"⟩

/-- The options that the arguments select. -/
def options (a : Arguments) : Options :=
  { Options.default with
    evaluation :=
      { depthLimit := a.maxDepth.getD EvalOptions.default.depthLimit
        memoize := !a.noMemo } }

/-- The name of where the document comes from, as reports give it. -/
def origin (a : Arguments) : String := a.file.getD "<stdin>"

/-- The width of a complaint. -/
def complaintColumns : Nat := 78

/-- Says that the document cannot be read, and why. -/
def unreadable (a : Arguments) (e : ReadError) : String :=
  let complaint := "cannot read " ++ a.file.getD "standard input"
  "Error: " ++ Text.fill complaintColumns "  × " "  │ " complaint ++ "\n" ++
    Text.fill complaintColumns "  ╰─▶ " "      " e.message ++ "\n\n"

/-- A path up to its last slash. -/
def folderPart (path : String) : String :=
  String.ofList (path.toList.reverse.dropWhile (· ≠ '/')).reverse

/-- The path of a file that lies in the folder of another. -/
def beside (path name : String) : String :=
  if name.startsWith "/" then name else folderPart path ++ name

variable {m : Type → Type} [Monad m]

/-- The source text of a failure: the file that it names, or else the file of that name in the
folder of the document. -/
def source? (surroundings : Surroundings m) (a : Arguments) (f : Failure) : m (Option String) := do
  let name := f.location.filename
  match ← surroundings.readFile name with
  | .ok text => return some text
  | .error _ =>
    match a.file with
    | none => return none
    | some path => return (← surroundings.readFile (beside path name)).toOption

/-- The report of an error. -/
def report (surroundings : Surroundings m) (a : Arguments) (e : Error) : m String := do
  let source : Option String ←
    match e with
    | .running f => if a.pretty then source? surroundings a f else pure none
    | .decoding _ => pure none
  return Report.render true (origin a) source e

/-- Runs a document, or shows it. There is no outcome only if `levels` do not suffice. -/
def execute (surroundings : Surroundings m) (levels : Nat) (a : Arguments) (document : String) :
    m (Option Outcome) := do
  match Interpreter.load (options a) document with
  | .error e => return some (.failure "" (← report surroundings a (.decoding e)))
  | .ok p =>
    if a.dump then return some (.success ((Schema.encodeProgram p).print .indented ++ "\n"))
    match Interpreter.run (options a) levels .unlimited p with
    | none => return none
    | some (.ok _, s) => return some (.success s.sink.text)
    | some (.error f, s) =>
      return some (.failure s.sink.text (← report surroundings a (.running f)))

/-- The command with given arguments. -/
def run (surroundings : Surroundings m) (levels : Nat) (arguments : List String) :
    m (Option Outcome) := do
  match Arguments.parse? arguments with
  | none => return some .misuse
  | some a =>
    let document ← match a.file with
      | some path => surroundings.readFile path
      | none => surroundings.readInput
    match document with
    | .error e => return some (.failure "" (unreadable a e))
    | .ok text => execute surroundings levels a text

end Command

end Treewalk
