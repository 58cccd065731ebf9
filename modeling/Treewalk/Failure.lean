import Treewalk.Sink
import Treewalk.Value

/-! # Failures of evaluation

A failure is a cause at a location. All wording of causes is `Cause.message`. -/

namespace Treewalk

/-- Why an evaluation came to no value. -/
inductive Cause where
  | undefinedVariable (name : String)
  | wrongArgumentCount (expected got : Nat)
  | notABoolean (got : Value.Kind)
  | typeMismatch (op : Operator) (lhs rhs : Value.Kind)
  | typeNotComparable (op : Operator) (kind : Value.Kind)
  | divisionByZero
  | notATuple (got : Value.Kind)
  | notAFunction (got : Value.Kind)
  | output (error : Sink.Error)
  | stackOverflow (depth limit : Nat)
  deriving DecidableEq

namespace Cause

def message : Cause → String
  | undefinedVariable name => "undefined variable " ++ name
  | wrongArgumentCount expected got =>
    "wrong number of arguments: expected " ++ expected.repr ++ ", got " ++ got.repr
  | notABoolean got => "condition is not a boolean: got " ++ got.name
  | typeMismatch op lhs rhs =>
    "type mismatch: cannot apply " ++ op.tag ++ " to " ++ lhs.name ++ " and " ++ rhs.name
  | typeNotComparable op kind =>
    "type not comparable: " ++ op.tag ++ " is not defined for " ++ kind.name
  | divisionByZero => "division by zero"
  | notATuple got => "not a tuple: got " ++ got.name
  | notAFunction got => "not a function: got " ++ got.name
  | output error => "cannot write output: " ++ error.message
  | stackOverflow depth limit =>
    "evaluation stack overflow: depth " ++ depth.repr ++ " exceeds maximum of " ++ limit.repr

/-- The cause is a limit that was reached, not a fault of the program. -/
def isResource : Cause → Bool
  | stackOverflow .. => true
  | _ => false

end Cause

/-- A cause, and where in the source it arose. -/
structure Failure where
  cause : Cause
  location : Location
  deriving DecidableEq

/-- Location and cause in one line. -/
def Failure.message (f : Failure) : String := f.location.text ++ ": " ++ f.cause.message

end Treewalk
