import Treewalk.Location
import Treewalk.Operator

/-! # Terms and programs

A program is a term with a name. Terms come in thirteen kinds, each with the location it has in the
source text. `Term.height` is the number of terms on the longest path down, which is what the limit
on nesting measures. -/

namespace Treewalk

/-- A name that a function or a `let` binds. -/
structure Parameter where
  name : String
  location : Location
  deriving DecidableEq, Inhabited

inductive Term where
  | int (value : Int32) (location : Location)
  | str (value : String) (location : Location)
  | bool (value : Bool) (location : Location)
  | var (name : String) (location : Location)
  | function (parameters : List Parameter) (body : Term) (location : Location)
  | call (callee : Term) (arguments : List Term) (location : Location)
  | letIn (name : Parameter) (value next : Term) (location : Location)
  | cond (condition yes no : Term) (location : Location)
  | binary (lhs : Term) (op : Operator) (rhs : Term) (location : Location)
  | tuple (first second : Term) (location : Location)
  | print (operand : Term) (location : Location)
  | first (operand : Term) (location : Location)
  | second (operand : Term) (location : Location)
  deriving Inhabited

/-- A term to be evaluated, with the name of its file and the location of the whole. -/
structure Program where
  name : String
  expression : Term
  location : Location

namespace Term

/-- What distinguishes terms apart from their parts. -/
inductive Kind where
  | int | str | bool | var | function | call | letIn | cond | binary | tuple
  | print | first | second
  deriving DecidableEq

/-- The tag by which documents name a kind of term. -/
def Kind.tag : Kind → String
  | int => "Int"
  | str => "Str"
  | bool => "Bool"
  | var => "Var"
  | function => "Function"
  | call => "Call"
  | letIn => "Let"
  | cond => "If"
  | binary => "Binary"
  | tuple => "Tuple"
  | print => "Print"
  | first => "First"
  | second => "Second"

/-- The kind with a given tag. -/
def Kind.ofTag? (tag : String) : Option Kind :=
  [Kind.int, .str, .bool, .var, .function, .call, .letIn, .cond, .binary, .tuple, .print, .first,
    .second].find? fun kind => kind.tag == tag

theorem Kind.ofTag?_tag (kind : Kind) : ofTag? kind.tag = some kind := by
  cases kind <;> decide

theorem Kind.ofTag?_eq_some_iff {tag : String} {kind : Kind} :
    ofTag? tag = some kind ↔ tag = kind.tag := by
  refine ⟨fun h => ?_, fun h => h ▸ ofTag?_tag kind⟩
  have := List.find?_some h
  exact (eq_of_beq this).symm

def kind : Term → Kind
  | int .. => .int
  | str .. => .str
  | bool .. => .bool
  | var .. => .var
  | function .. => .function
  | call .. => .call
  | letIn .. => .letIn
  | cond .. => .cond
  | binary .. => .binary
  | tuple .. => .tuple
  | print .. => .print
  | first .. => .first
  | second .. => .second

def location : Term → Location
  | int _ l | str _ l | bool _ l | var _ l | function _ _ l | call _ _ l | letIn _ _ _ l
  | cond _ _ _ l | binary _ _ _ l | tuple _ _ l | print _ l | first _ l | second _ l => l

/-- Kind and place of a term in one word, to point at it without showing its parts. -/
def mark (t : Term) : String := t.kind.tag ++ "@" ++ t.location.text

/-- The number of terms on the longest path from this one down. -/
def height : Term → Nat
  | int .. | str .. | bool .. | var .. => 1
  | function _ body _ => body.height + 1
  | call callee arguments _ => max callee.height (heights arguments) + 1
  | letIn _ value next _ => max value.height next.height + 1
  | cond c yes no _ => max c.height (max yes.height no.height) + 1
  | binary lhs _ rhs _ => max lhs.height rhs.height + 1
  | tuple a b _ => max a.height b.height + 1
  | print a _ | first a _ | second a _ => a.height + 1
where
  /-- The greatest height in a list of terms, `0` for none. -/
  heights : List Term → Nat
    | [] => 0
    | t :: rest => max t.height (heights rest)

end Term

end Treewalk
