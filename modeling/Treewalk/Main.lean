import Treewalk.Command

/-! # The program

The command on the files and streams of the system. -/

namespace Treewalk.Command

/-- The text of bytes that were read. -/
def decodeBytes (bytes : ByteArray) : Except ReadError String :=
  match String.fromUTF8? bytes with
  | some text => .ok text
  | none => .error .notText

/-- The number of a reason, which parts of the system give negated. -/
def reasonCode (code : UInt32) : Nat := if code < 0x80000000 then code.toNat else (0 - code).toNat

/-- The reason the system gave. -/
def readError : IO.Error → ReadError
  | .noFileOrDirectory _ code reason | .inappropriateType _ code reason
  | .permissionDenied _ code reason | .resourceExhausted _ code reason
  | .invalidArgument _ code reason | .otherError code reason => .ofCode (reasonCode code) reason
  | e => .system (toString e) 0

def system : Surroundings IO where
  readFile path := do
    try
      return decodeBytes (← IO.FS.readBinFile path)
    catch e => return .error (readError e)
  readInput := do
    try
      return decodeBytes (← (← IO.getStdin).readBinToEnd)
    catch e => return .error (readError e)

end Treewalk.Command

def main (arguments : List String) : IO UInt32 := do
  match ← Treewalk.Command.run Treewalk.Command.system Treewalk.Session.ampleLevels arguments with
  | none => return 1
  | some outcome =>
    let stdout ← IO.getStdout
    stdout.putStr outcome.output
    stdout.flush
    (← IO.getStderr).putStr outcome.complaint
    return outcome.status.toUInt32
