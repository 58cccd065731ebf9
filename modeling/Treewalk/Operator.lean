/-! # Binary operators

The thirteen operators a program can apply to two operands, and the tags that documents and
messages name them by. -/

namespace Treewalk

inductive Operator where
  | add | sub | mul | div | rem
  | eq | neq | lt | gt | lte | gte
  | and | or
  deriving DecidableEq

namespace Operator

/-- Every operator, in the order of their listing. -/
def all : List Operator :=
  [add, sub, mul, div, rem, eq, neq, lt, gt, lte, gte, and, or]

/-- The tag by which documents and messages name the operator. -/
def tag : Operator → String
  | add => "Add"
  | sub => "Sub"
  | mul => "Mul"
  | div => "Div"
  | rem => "Rem"
  | eq => "Eq"
  | neq => "Neq"
  | lt => "Lt"
  | gt => "Gt"
  | lte => "Lte"
  | gte => "Gte"
  | and => "And"
  | or => "Or"

/-- The operator with a given tag; case and blanks count. -/
def ofTag? (tag : String) : Option Operator :=
  all.find? fun op => op.tag == tag

/-- The place of the operator in the listing. -/
def index (op : Operator) : Nat :=
  all.findIdx (· == op)

theorem ofTag?_tag (op : Operator) : ofTag? op.tag = some op := by
  cases op <;> decide

theorem ofTag?_eq_some_iff {tag : String} {op : Operator} :
    ofTag? tag = some op ↔ tag = op.tag := by
  refine ⟨fun h => ?_, fun h => h ▸ ofTag?_tag op⟩
  have := List.find?_some h
  exact (eq_of_beq this).symm

end Operator

end Treewalk
