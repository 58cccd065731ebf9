import Treewalk.Term

/-! # Values

What a term evaluates to. A closure keeps its function term and nothing of the scope it was made
in; a tuple keeps its two component terms unevaluated. -/

namespace Treewalk

inductive Value where
  | int (n : Int32)
  | str (s : String)
  | bool (b : Bool)
  | closure (parameters : List Parameter) (body : Term) (location : Location)
  | tuple (first second : Term) (location : Location)
  | nil
  deriving Inhabited

namespace Value

inductive Kind where
  | int | str | bool | function | tuple | nil
  deriving DecidableEq

/-- The name of a kind in messages. -/
def Kind.name : Kind → String
  | int => "Int"
  | str => "Str"
  | bool => "Bool"
  | function => "Function"
  | tuple => "Tuple"
  | nil => "Nil"

def kind : Value → Kind
  | int _ => .int
  | str _ => .str
  | bool _ => .bool
  | closure .. => .function
  | tuple .. => .tuple
  | nil => .nil

def asInt? : Value → Option Int32
  | int n => some n
  | _ => none

def asStr? : Value → Option String
  | str s => some s
  | _ => none

def asBool? : Value → Option Bool
  | bool b => some b
  | _ => none

/-- Integers, texts and booleans are primitive. -/
def isPrimitive : Value → Bool
  | int _ | str _ | bool _ => true
  | _ => false

/-- The text of a primitive value: decimal digits, the text itself, `true` or `false`. -/
def primitiveText? : Value → Option String
  | int n => some n.toInt.repr
  | str s => some s
  | bool b => some (if b then "true" else "false")
  | _ => none

theorem isPrimitive_iff {v : Value} : v.isPrimitive = true ↔ ∃ s, v.primitiveText? = some s := by
  cases v <;> simp [isPrimitive, primitiveText?]

end Value

end Treewalk
