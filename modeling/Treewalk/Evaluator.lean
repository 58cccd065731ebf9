import Treewalk.Operator.Apply
import Treewalk.Session
import Treewalk.Walk

/-! # Evaluation

A term is evaluated in the scope of a session. Scoping is dynamic: a function's body sees the scope
of its caller as it stood before the arguments were evaluated, with the parameters bound on top. The
components of a tuple are evaluated whenever they are asked for, in the scope then in force.

`Evaluator.body` is one level of evaluation, written as a walk. `Session.evaluate?`,
`Session.render?` and `Session.run?` answer within a given number of levels of recursion, and are
`none` if that number is too small; the limit on depth is a failure of its own, and never `none`. -/

namespace Treewalk

namespace Evaluator

/-- The outcome of an evaluation, and the session after it, whatever the outcome. -/
abbrev Reply (α : Type) := Except Failure α × Session

/-- What evaluation asks for on its way, in a given session: the value of a term, or a text with
the text of a value added to it. -/
inductive Job where
  | evaluate (term : Term) (session : Session)
  | render (value : Value) (text : String) (session : Session)

abbrev Job.Answer : Job → Type
  | evaluate .. => Reply Value
  | render .. => Reply String

/-- Evaluation steps: they may fail, they change the session, and they ask for jobs. -/
abbrev EvalM := ExceptT Failure (StateT Session (Walk Job.Answer))

/-- The value of a term in the session at hand. -/
def evaluate (t : Term) : EvalM Value :=
  ExceptT.mk fun s => Walk.ask (Job.evaluate t s)

/-- `text` with the text of a value added to it. -/
def render (v : Value) (text : String) : EvalM String :=
  ExceptT.mk fun s => Walk.ask (Job.render v text s)

/-- The value of a term in the scope `frame`; the scope at hand stays as it is. -/
def evaluateIn (frame : Scope) (t : Term) : EvalM Value :=
  ExceptT.mk fun s => do
    let scope := s.scope
    let (outcome, after) ← Walk.ask (Job.evaluate t { s with scope := frame })
    return (outcome, { after with scope := scope })

def fail {α : Type} (location : Location) (cause : Cause) : EvalM α := throw ⟨cause, location⟩

/-- Binds a name in the scope at hand. -/
def bindName (name : String) (v : Value) : EvalM Unit :=
  modify fun s => { s with scope := s.scope.bind name v }

/-- Prints a line. If the sink refuses it, the line does not count as printed. -/
def printLine (location : Location) (text : String) : EvalM Value :=
  ExceptT.mk fun s =>
    match s.sink.writeLine text with
    | (.ok (), sink) => pure (.ok .nil, { s with sink := sink, prints := s.prints + 1 })
    | (.error e, sink) => pure (.error ⟨.output e, location⟩, { s with sink := sink })

/-- The components of a tuple. -/
def components (location : Location) : Value → EvalM (Term × Term)
  | .tuple a b _ => pure (a, b)
  | v => fail location (.notATuple v.kind)

/-- Evaluates arguments from left to right and binds them in `frame`, to which the arguments
themselves have no access. `values` holds those evaluated before, the last one first. -/
def bindArguments : List (Parameter × Term) → Scope → List Value → EvalM (Scope × List Value)
  | [], frame, values => pure (frame, values.reverse)
  | (p, a) :: rest, frame, values => do
    let v ← evaluate a
    bindArguments rest (frame.bind p.name v) (v :: values)

/-- What the cache holds under a signature. -/
def askCache (key : String) : EvalM (Option Value) :=
  modifyGet fun s =>
    let (found, cache) := s.cache.get? key
    (found, { s with cache := cache })

/-- The value of a function's body, from the cache if it is there. A result is remembered only if
nothing was printed on the way, since a hit would not print it again. -/
def enter (key? : Option String) (frame : Scope) (body : Term) : EvalM Value :=
  match key? with
  | none => evaluateIn frame body
  | some key => do
    match ← askCache key with
    | some v => return v
    | none =>
      let before := (← get).prints
      let v ← evaluateIn frame body
      if (← get).prints = before then
        modify fun s => { s with cache := s.cache.insert key v }
      return v

/-- A call: the function first, then the number of arguments, then the arguments. -/
def call (options : EvalOptions) (callee : Term) (arguments : List Term) (location : Location) :
    EvalM Value := do
  match ← evaluate callee with
  | .closure parameters body definition =>
    if parameters.length ≠ arguments.length then
      fail location (.wrongArgumentCount parameters.length arguments.length)
    else
      let (frame, values) ← bindArguments (parameters.zip arguments) (← get).scope []
      let key? := if options.memoize then signature? callee definition values else none
      enter key? frame body
  | v => fail callee.location (.notAFunction v.kind)

/-- The value of a term, once its evaluation is open. -/
def step (options : EvalOptions) : Term → EvalM Value
  | .int n _ => pure (.int n)
  | .str s _ => pure (.str s)
  | .bool b _ => pure (.bool b)
  | .var name location => do
    match (← get).scope.lookup? name with
    | some v => pure v
    | none => fail location (.undefinedVariable name)
  | .function parameters body location => pure (.closure parameters body location)
  | .call callee arguments location => call options callee arguments location
  | .letIn name value next _ => do
    bindName name.name (← evaluate value)
    evaluate next
  | .cond condition yes no _ => do
    match ← evaluate condition with
    | .bool true => evaluate yes
    | .bool false => evaluate no
    | v => fail condition.location (.notABoolean v.kind)
  | .binary lhs op rhs location => do
    let l ← evaluate lhs
    let r ← evaluate rhs
    match op.apply l r with
    | .ok v => pure v
    | .error cause => fail location cause
  | .tuple a b location => pure (.tuple a b location)
  | .print operand location => do
    let v ← evaluate operand
    printLine location (← render v "")
  | .first operand location => do
    let (a, _) ← components location (← evaluate operand)
    evaluate a
  | .second operand location => do
    let (_, b) ← components location (← evaluate operand)
    evaluate b

/-- `text` with the text of a value added to it. Both components of a tuple are evaluated before
either is written. -/
def renderStep : Value → String → EvalM String
  | .tuple a b _, text => do
    let first ← evaluate a
    let second ← evaluate b
    let text ← render first (text ++ "(")
    let text ← render second (text ++ ", ")
    return text ++ ")"
  | .closure .., text => return text ++ "<#closure>"
  | .nil, text => return text ++ "nil"
  | v, text => return text ++ v.primitiveText?.getD ""

/-- One level of evaluation. A term is evaluated one level deeper, unless the limit is reached, and
however that ends, the level is left again. To write a value takes no level. -/
def body (options : EvalOptions) : (job : Job) → Walk Job.Answer job.Answer
  | .evaluate t s =>
    if options.depthLimit ≤ s.depth then
      pure (.error ⟨.stackOverflow s.depth options.depthLimit, t.location⟩, s)
    else do
      let (outcome, after) ← (step options t).run.run s.deeper
      return (outcome, after.shallower)
  | .render v text s => (renderStep v text).run.run s

end Evaluator

namespace Session

open Evaluator

/-- The value of a term, if it takes fewer than `levels` levels of recursion. -/
def evaluate? (options : EvalOptions) (levels : Nat) (t : Term) (s : Session) :
    Option (Reply Value) :=
  Walk.answerWithin (body options) levels (.evaluate t s)

/-- The text of a value, if it takes fewer than `levels` levels of recursion. -/
def render? (options : EvalOptions) (levels : Nat) (v : Value) (s : Session) :
    Option (Reply String) :=
  Walk.answerWithin (body options) levels (.render v "" s)

/-- The value of a program in a scope of its own. The sink is flushed in any case, so what was
printed before a failure is delivered; a failure to flush counts only if there is no other. -/
def run? (options : EvalOptions) (levels : Nat) (p : Program) (s : Session) :
    Option (Reply Value) := do
  let (outcome, after) ← evaluate? options levels p.expression { s with scope := ∅ }
  let outcome := match outcome, after.sink.flush with
    | .ok _, .error e => .error ⟨.output e, p.location⟩
    | outcome, _ => outcome
  return (outcome, { after with scope := s.scope })

/-- More levels than any evaluation can use up. -/
def ampleLevels : Nat := Nat.pow 2 60

end Session

end Treewalk
