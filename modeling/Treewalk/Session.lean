import Treewalk.Cache
import Treewalk.Failure
import Treewalk.Scope

/-! # Sessions

A session is all that evaluation reads and changes: the scope in force, the cache of calls, the sink
that printed lines go to, the number of lines printed, and the number of evaluations that are open.
It outlives a single evaluation, and it survives a failed one. -/

namespace Treewalk

/-- What is fixed for a whole session. -/
structure EvalOptions where
  /-- The number of evaluations that may be open inside one another. -/
  depthLimit : Nat
  /-- Calls on primitive arguments are answered from the cache if they can be. -/
  memoize : Bool
  deriving DecidableEq

def EvalOptions.default : EvalOptions := ⟨200000, true⟩

structure Session where
  scope : Scope
  cache : Cache
  sink : Sink
  /-- The number of lines printed so far. -/
  prints : Nat
  /-- The number of evaluations that are open inside one another. -/
  depth : Nat
  deriving Inhabited

namespace Session

/-- A session in which nothing has happened yet. -/
def new (sink : Sink) : Session := ⟨∅, ∅, sink, 0, 0⟩

/-- One more evaluation is open. -/
def deeper (s : Session) : Session := { s with depth := s.depth + 1 }

/-- The evaluation opened last is over. -/
def shallower (s : Session) : Session := { s with depth := s.depth - 1 }

@[simp] theorem shallower_deeper (s : Session) : s.deeper.shallower = s := rfl

end Session

end Treewalk
