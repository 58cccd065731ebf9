/-! # Sinks

Where printed text goes: a growing run of bytes, which may have room for a limited number of them
only, and which may refuse to be flushed. -/

namespace Treewalk

structure Sink where
  /-- The number of bytes the sink can hold; any number if `none`. -/
  limit : Option Nat
  /-- Flushing fails. -/
  flushFails : Bool
  contents : ByteArray

namespace Sink

/-- An empty sink of unlimited room. -/
def unlimited : Sink := ⟨none, false, .empty⟩

instance : Inhabited Sink := ⟨unlimited⟩

inductive Error where
  | full
  | flushFailed
  deriving DecidableEq

def Error.message : Error → String
  | full => "sink full"
  | flushFailed => "flush failed"

/-- Appends `bytes`. If they do not all fit, what fits is kept and the write fails. -/
def write (s : Sink) (bytes : ByteArray) : Except Error Unit × Sink :=
  match s.limit with
  | none => (.ok (), { s with contents := s.contents ++ bytes })
  | some limit =>
    let room := limit - s.contents.size
    if bytes.size ≤ room then (.ok (), { s with contents := s.contents ++ bytes })
    else (.error .full, { s with contents := s.contents ++ bytes.extract 0 room })

/-- Appends the bytes of a text and, if they fit, a line end. -/
def writeLine (s : Sink) (text : String) : Except Error Unit × Sink :=
  match s.write text.toUTF8 with
  | (.ok (), s) => s.write "\n".toUTF8
  | (.error e, s) => (.error e, s)

def flush (s : Sink) : Except Error Unit :=
  if s.flushFails then .error .flushFailed else .ok ()

/-- The number of bytes at the end of `bytes` that begin a character without completing it: at
most three, the first of which announces more than follow. -/
def danglingBytes (bytes : ByteArray) : Nat :=
  let n := bytes.size
  let lead (k need : Nat) : Bool :=
    match bytes[n - k]? with
    | some b => k ≤ n && need ≤ b.toNat && b.toNat < 0xF8
    | none => false
  if lead 1 0xC0 then 1 else if lead 2 0xE0 then 2 else if lead 3 0xF0 then 3 else 0

/-- Bytes read as text. A character that is cut off at the end reads as U+FFFD. -/
def readText (bytes : ByteArray) : String :=
  match String.fromUTF8? bytes with
  | some t => t
  | none =>
    let whole := bytes.extract 0 (bytes.size - danglingBytes bytes)
    (String.fromUTF8? whole).getD "" ++ "\ufffd"

/-- What the sink holds after its first `start` bytes. -/
def textFrom (s : Sink) (start : Nat) : String :=
  readText (s.contents.extract start s.contents.size)

/-- What the sink holds. -/
def text (s : Sink) : String := s.textFrom 0

end Sink

end Treewalk
