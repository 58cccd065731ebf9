/-! # Locations

A location names a stretch of a source text: the file, and the byte offsets where the stretch
starts and stops. Nothing ties the offsets to an actual text, so a location may be empty, reversed,
or lie past the end. -/

namespace Treewalk

/-- Byte offsets `start` to `stop` of the file `filename`. -/
structure Location where
  start : Nat
  stop : Nat
  filename : String
  deriving DecidableEq, Inhabited

/-- The form that precedes a message: file, start and stop between colons. -/
def Location.text (l : Location) : String :=
  l.filename ++ ":" ++ l.start.repr ++ ":" ++ l.stop.repr

end Treewalk
