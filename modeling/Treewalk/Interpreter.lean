import Treewalk.Evaluator
import Treewalk.Schema.Decode

/-! # The interpreter

From the text of a document to the outcome of the program it holds. -/

namespace Treewalk

structure Options where
  /-- The number of terms that may nest inside one another in a document. -/
  nestingLimit : Nat
  evaluation : EvalOptions
  deriving DecidableEq

def Options.default : Options := ⟨Schema.defaultNestingLimit, .default⟩

/-- Why a text came to no value. -/
inductive Error where
  | decoding (error : Schema.DecodeError)
  | running (failure : Failure)
  deriving DecidableEq

namespace Interpreter

/-- The program of a text. -/
def load (options : Options) (text : String) : Except Schema.DecodeError Program :=
  Schema.decode options.nestingLimit text

/-- The outcome of a program in a session of its own, and the session after it. -/
def run (options : Options) (levels : Nat) (sink : Sink) (p : Program) :
    Option (Evaluator.Reply Value) :=
  Session.run? options.evaluation levels p (.new sink)

end Interpreter

end Treewalk
