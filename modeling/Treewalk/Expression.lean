import Treewalk.Term

/-! # Expressions

An expression is a term without locations. Placing it in a file gives every node and every bound
name a location of its own, one unit long, in the order in which they are made: parts from left to
right before the whole, and the names that a node binds just before the node. -/

namespace Treewalk

inductive Expression where
  | int (value : Int32)
  | str (value : String)
  | bool (value : Bool)
  | var (name : String)
  | function (parameters : List String) (body : Expression)
  | call (callee : Expression) (arguments : List Expression)
  | letIn (name : String) (value next : Expression)
  | cond (condition yes no : Expression)
  | binary (lhs : Expression) (op : Operator) (rhs : Expression)
  | tuple (first second : Expression)
  | print (operand : Expression)
  | first (operand : Expression)
  | second (operand : Expression)
  deriving Inhabited

namespace Expression

/-- The `n`-th location of a file. -/
def unit (file : String) (n : Nat) : Location := ⟨n, n + 1, file⟩

/-- Names that a function binds, placed from `n` on, and the next free number. -/
def placeNames (file : String) : List String → Nat → List Parameter × Nat
  | [], n => ([], n)
  | name :: rest, n =>
    let (parameters, next) := placeNames file rest (n + 1)
    (⟨name, unit file n⟩ :: parameters, next)

/-- The expression as a term of `file`, placed from `n` on, and the next free number. -/
def place (file : String) : Expression → Nat → Term × Nat
  | int v, n => (.int v (unit file n), n + 1)
  | str v, n => (.str v (unit file n), n + 1)
  | bool v, n => (.bool v (unit file n), n + 1)
  | var name, n => (.var name (unit file n), n + 1)
  | function names body, n =>
    let (body, n) := body.place file n
    let (parameters, n) := placeNames file names n
    (.function parameters body (unit file n), n + 1)
  | call callee arguments, n =>
    let (callee, n) := callee.place file n
    let (arguments, n) := placeAll arguments n
    (.call callee arguments (unit file n), n + 1)
  | letIn name value next, n =>
    let (value, n) := value.place file n
    let (next, n) := next.place file n
    (.letIn ⟨name, unit file n⟩ value next (unit file (n + 1)), n + 2)
  | cond condition yes no, n =>
    let (condition, n) := condition.place file n
    let (yes, n) := yes.place file n
    let (no, n) := no.place file n
    (.cond condition yes no (unit file n), n + 1)
  | binary lhs op rhs, n =>
    let (lhs, n) := lhs.place file n
    let (rhs, n) := rhs.place file n
    (.binary lhs op rhs (unit file n), n + 1)
  | tuple a b, n =>
    let (a, n) := a.place file n
    let (b, n) := b.place file n
    (.tuple a b (unit file n), n + 1)
  | print a, n =>
    let (a, n) := a.place file n
    (.print a (unit file n), n + 1)
  | first a, n =>
    let (a, n) := a.place file n
    (.first a (unit file n), n + 1)
  | second a, n =>
    let (a, n) := a.place file n
    (.second a (unit file n), n + 1)
where
  placeAll : List Expression → Nat → List Term × Nat
    | [], n => ([], n)
    | e :: rest, n =>
      let (t, n) := e.place file n
      let (ts, n) := placeAll rest n
      (t :: ts, n)

/-- The expression as a program, which takes one more location than its term. -/
def program (file name : String) (e : Expression) (n : Nat) : Program × Nat :=
  let (t, n) := e.place file n
  (⟨name, t, unit file n⟩, n + 1)

end Expression

end Treewalk
