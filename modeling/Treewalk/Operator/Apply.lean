import Treewalk.Failure

/-! # Applying operators

`Operator.apply` gives the value of an operator on two values, or the cause of its failure. Integers
are 32 bits wide and wrap; division goes toward zero. Texts are ordered by code point, which is also
the order of their UTF-8 bytes. -/

namespace Treewalk.Operator

/-- The failure of an operator on operands of the wrong kinds. -/
def mismatch (op : Operator) (l r : Value) : Cause := .typeMismatch op l.kind r.kind

/-- The failure of a comparison: an operand of a kind that is not compared at all is named, the left
one first; two kinds that differ are a mismatch. -/
def incomparable (op : Operator) (supported : Value → Bool) (l r : Value) : Cause :=
  if !supported l then .typeNotComparable op l.kind
  else if !supported r then .typeNotComparable op r.kind
  else op.mismatch l r

/-- The sum of two integers, or the concatenation of two primitive values of which one is a text. -/
def sum (l r : Value) : Except Cause Value :=
  match l, r with
  | .int a, .int b => .ok (.int (a + b))
  | _, _ =>
    if l.asStr?.isNone && r.asStr?.isNone then .error (add.mismatch l r)
    else
      match l.primitiveText?, r.primitiveText? with
      | some a, some b => .ok (.str (a ++ b))
      | _, _ => .error (add.mismatch l r)

/-- An operation on two integers. -/
def onInts (op : Operator) (f : Int32 → Int32 → Except Cause Int32) (l r : Value) :
    Except Cause Value :=
  match l, r with
  | .int a, .int b => (f a b).map .int
  | _, _ => .error (op.mismatch l r)

/-- An operation on two integers of which the second must not be zero. -/
def nonzero (f : Int32 → Int32 → Int32) (a b : Int32) : Except Cause Int32 :=
  if b = 0 then .error .divisionByZero else .ok (f a b)

/-- Whether two primitive values of one kind are equal. -/
def equal? : Value → Value → Option Bool
  | .int a, .int b => some (a == b)
  | .str a, .str b => some (a == b)
  | .bool a, .bool b => some (a == b)
  | _, _ => none

/-- Integers and texts have an order. -/
def isOrderable : Value → Bool
  | .int _ | .str _ => true
  | _ => false

/-- How two integers or two texts are ordered. -/
def order? : Value → Value → Option Ordering
  | .int a, .int b => some (compare a b)
  | .str a, .str b => some (compare a b)
  | _, _ => none

/-- An equation, or its negation, of two primitive values of one kind. -/
def equality (op : Operator) (f : Bool → Bool) (l r : Value) : Except Cause Value :=
  match equal? l r with
  | some b => .ok (.bool (f b))
  | none => .error (op.incomparable Value.isPrimitive l r)

/-- A comparison of two integers or two texts. -/
def comparison (op : Operator) (f : Ordering → Bool) (l r : Value) : Except Cause Value :=
  match order? l r with
  | some o => .ok (.bool (f o))
  | none => .error (op.incomparable isOrderable l r)

/-- A connective of two booleans, both of which are already there. -/
def connective (op : Operator) (f : Bool → Bool → Bool) (l r : Value) : Except Cause Value :=
  match l, r with
  | .bool a, .bool b => .ok (.bool (f a b))
  | _, _ => .error (op.mismatch l r)

/-- The value of `op` on `l` and `r`. -/
def apply (op : Operator) (l r : Value) : Except Cause Value :=
  match op with
  | add => sum l r
  | sub => sub.onInts (fun a b => .ok (a - b)) l r
  | mul => mul.onInts (fun a b => .ok (a * b)) l r
  | div => div.onInts (nonzero (· / ·)) l r
  | rem => rem.onInts (nonzero (· % ·)) l r
  | eq => eq.equality id l r
  | neq => neq.equality not l r
  | lt => lt.comparison Ordering.isLT l r
  | gt => gt.comparison Ordering.isGT l r
  | lte => lte.comparison Ordering.isLE l r
  | gte => gte.comparison Ordering.isGE l r
  | and => and.connective (· && ·) l r
  | or => or.connective (· || ·) l r

end Treewalk.Operator
