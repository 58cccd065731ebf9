import Std.Data.TreeMap
import Treewalk.Document.Lexeme

/-! # Reading a document text

One machine reads texts at any nesting depth, with the containers that are still open held in a
list. What it makes of strings, numbers and containers is given by a `Reader`. It runs twice:
`Reader.outline` makes nothing and so checks the form of the whole text, and `Reader.full` then
builds the document. Hence a fault of form anywhere in the text is reported before a number that is
out of range or a surrogate half that stands alone. -/

namespace Treewalk

open Lexeme Fault

/-- What is made of a text: `τ` from strings, `α` from values. Strings are read after their opening
quote, numbers from their first character; some of the text is always used up. -/
structure Reader (τ α : Type) where
  string : List Char → Except Fault (τ × List Char)
  string_lt {text rest : List Char} {t : τ} :
    string text = .ok (t, rest) → rest.length < text.length
  number : List Char → Except Fault (α × List Char)
  number_lt {text rest : List Char} {v : α} :
    number text = .ok (v, rest) → rest.length < text.length
  null : α
  bool : Bool → α
  text : τ → α
  array : List α → α
  object : List (τ × α) → α

namespace Reader

/-- A container that is still open, with what it holds so far, the last first. In an object the name
of the member at hand is known. -/
inductive Frame (τ α : Type) where
  | array (items : List α)
  | object (members : List (τ × α)) (name : τ)

/-- What the machine does next: read a value; read the name of a member of an object that has the
given members; or go on after a value that is complete. -/
inductive Mode (τ α : Type) where
  | value
  | name (members : List (τ × α))
  | complete (v : α)

variable {τ α : Type}

/-- The next step after a value is complete, if a container is open: the mode, the open containers
and the rest of the text. -/
def close (r : Reader τ α) (v : α) (frame : Frame τ α) (outer : List (Frame τ α))
    (input : List Char) : Except Fault (Mode τ α × List (Frame τ α) × List Char) :=
  match frame, skipBlanks input with
  | .array _, [] => .error (after .eofList [])
  | .array items, c :: rest =>
    if c = ',' then .ok (.value, .array (v :: items) :: outer, rest)
    else if c = ']' then .ok (.complete (r.array (v :: items).reverse), outer, rest)
    else .error (after .expectedListEnd (c :: rest))
  | .object .., [] => .error (after .eofObject [])
  | .object members name, c :: rest =>
    if c = ',' then .ok (.name ((name, v) :: members), outer, rest)
    else if c = '}' then .ok (.complete (r.object ((name, v) :: members).reverse), outer, rest)
    else .error (after .expectedObjectEnd (c :: rest))

/-- The next step at the name of a member. -/
def member (r : Reader τ α) (members : List (τ × α)) (open_ : List (Frame τ α))
    (input : List Char) : Except Fault (Mode τ α × List (Frame τ α) × List Char) :=
  match skipBlanks input with
  | [] => .error (after .eofObject [])
  | c :: rest =>
    if c = '"' then
      match r.string rest with
      | .error f => .error f
      | .ok (name, rest) =>
        match skipBlanks rest with
        | [] => .error (after .eofObject [])
        | c :: rest =>
          if c = ':' then .ok (.value, .object members name :: open_, rest)
          else .error (after .expectedColon (c :: rest))
    else .error (after .keyMustBeString (c :: rest))

/-- The next step after an opening bracket: an empty container is complete. -/
def opened (closing : Char) (eof : Cause) (empty : α) (mode : Mode τ α)
    (inner outer : List (Frame τ α)) (input : List Char) :
    Except Fault (Mode τ α × List (Frame τ α) × List Char) :=
  match skipBlanks input with
  | [] => .error (after eof [])
  | c :: rest =>
    if c = closing then .ok (.complete empty, outer, rest) else .ok (mode, inner, c :: rest)

/-- The next step at a value. -/
def value (r : Reader τ α) (open_ : List (Frame τ α)) (input : List Char) :
    Except Fault (Mode τ α × List (Frame τ α) × List Char) :=
  match skipBlanks input with
  | [] => .error (after .eofValue [])
  | c :: rest =>
    if c = 'n' then (word ['u', 'l', 'l'] rest).map fun rest => (.complete r.null, open_, rest)
    else if c = 't' then
      (word ['r', 'u', 'e'] rest).map fun rest => (.complete (r.bool true), open_, rest)
    else if c = 'f' then
      (word ['a', 'l', 's', 'e'] rest).map fun rest => (.complete (r.bool false), open_, rest)
    else if c = '-' || isDigit c then
      (r.number (c :: rest)).map fun (v, rest) => (.complete v, open_, rest)
    else if c = '"' then
      (r.string rest).map fun (t, rest) => (.complete (r.text t), open_, rest)
    else if c = '[' then opened ']' .eofList (r.array []) .value (.array [] :: open_) open_ rest
    else if c = '{' then opened '}' .eofObject (r.object []) (.name []) open_ open_ rest
    else .error (after .expectedValue (c :: rest))

/-! ## Every step uses up text -/

private theorem length_lt_of_skipBlanks {input rest : List Char} {c : Char}
    (h : skipBlanks input = c :: rest) : rest.length < input.length := by
  have := length_skipBlanks_le input
  rw [h] at this
  exact this

theorem exists_of_map_ok {ε β γ : Type} {x : Except ε β} {f : β → γ} {y : γ}
    (h : x.map f = .ok y) : ∃ b, x = .ok b ∧ f b = y := by
  cases x with
  | error e => cases h
  | ok b => cases h; exact ⟨b, rfl, rfl⟩

theorem length_close_lt {r : Reader τ α} {v : α} {frame : Frame τ α} {outer : List (Frame τ α)}
    {input : List Char} {next : Mode τ α × List (Frame τ α) × List Char}
    (h : r.close v frame outer input = .ok next) : next.2.2.length < input.length := by
  unfold close at h
  split at h
  · cases h
  · next hs =>
    have := length_lt_of_skipBlanks hs
    split at h
    · cases h; exact this
    · split at h <;> cases h
      exact this
  · cases h
  · next hs =>
    have := length_lt_of_skipBlanks hs
    split at h
    · cases h; exact this
    · split at h <;> cases h
      exact this

theorem length_member_lt {r : Reader τ α} {members : List (τ × α)} {open_ : List (Frame τ α)}
    {input : List Char} {next : Mode τ α × List (Frame τ α) × List Char}
    (h : r.member members open_ input = .ok next) : next.2.2.length < input.length := by
  unfold member at h
  split at h
  · cases h
  · next hs =>
    have h1 := length_lt_of_skipBlanks hs
    split at h
    · split at h
      · cases h
      · next hstr =>
        have h2 := r.string_lt hstr
        split at h
        · cases h
        · next hc =>
          have h3 := length_lt_of_skipBlanks hc
          split at h <;> cases h
          exact Nat.lt_trans h3 (Nat.lt_trans h2 h1)
    · cases h

theorem length_opened_le {closing : Char} {eof : Cause} {empty : α} {mode : Mode τ α}
    {inner outer : List (Frame τ α)} {input : List Char}
    {next : Mode τ α × List (Frame τ α) × List Char}
    (h : opened closing eof empty mode inner outer input = .ok next) :
    next.2.2.length ≤ input.length := by
  unfold opened at h
  split at h
  · cases h
  · next hs =>
    have := length_lt_of_skipBlanks hs
    split at h <;> cases h
    · exact Nat.le_of_lt this
    · exact this

theorem length_value_lt {r : Reader τ α} {open_ : List (Frame τ α)} {input : List Char}
    {next : Mode τ α × List (Frame τ α) × List Char} (h : r.value open_ input = .ok next) :
    next.2.2.length < input.length := by
  unfold value at h
  split at h
  · cases h
  · next hs =>
    have h1 := length_lt_of_skipBlanks hs
    have h2 : (skipBlanks input).length ≤ input.length := length_skipBlanks_le input
    rw [hs] at h2
    repeat' split at h
    · obtain ⟨b, hb, rfl⟩ := exists_of_map_ok h
      exact Nat.lt_of_le_of_lt (length_word_le hb) h1
    · obtain ⟨b, hb, rfl⟩ := exists_of_map_ok h
      exact Nat.lt_of_le_of_lt (length_word_le hb) h1
    · obtain ⟨b, hb, rfl⟩ := exists_of_map_ok h
      exact Nat.lt_of_le_of_lt (length_word_le hb) h1
    · obtain ⟨b, hb, rfl⟩ := exists_of_map_ok h
      exact Nat.lt_of_lt_of_le (r.number_lt hb) h2
    · obtain ⟨b, hb, rfl⟩ := exists_of_map_ok h
      exact Nat.lt_trans (r.string_lt hb) h1
    · exact Nat.lt_of_le_of_lt (length_opened_le h) h1
    · exact Nat.lt_of_le_of_lt (length_opened_le h) h1
    · cases h

/-! ## The machine -/

/-- Reads until the outermost value is complete. -/
@[specialize] def run (r : Reader τ α) (mode : Mode τ α) (open_ : List (Frame τ α))
    (input : List Char) : Except Fault (α × List Char) :=
  match mode, open_ with
  | .value, open_ =>
    match _h : r.value open_ input with
    | .ok next => r.run next.1 next.2.1 next.2.2
    | .error f => .error f
  | .name members, open_ =>
    match _h : r.member members open_ input with
    | .ok next => r.run next.1 next.2.1 next.2.2
    | .error f => .error f
  | .complete v, frame :: outer =>
    match _h : r.close v frame outer input with
    | .ok next => r.run next.1 next.2.1 next.2.2
    | .error f => .error f
  | .complete v, [] => .ok (v, input)
termination_by input.length
decreasing_by
  · exact length_value_lt _h
  · exact length_member_lt _h
  · exact length_close_lt _h

/-- Reads a text that holds one value and blanks around it. -/
@[specialize] def read (r : Reader τ α) (input : List Char) : Except Fault α :=
  match r.run .value [] input with
  | .error f => .error f
  | .ok (v, rest) =>
    match skipBlanks rest with
    | [] => .ok v
    | rest => .error (after .trailingCharacters rest)

/-! ## The two readers -/

/-- Checks the form of a text and makes nothing of it. -/
def outline : Reader Unit Unit where
  string text := (skipString text).map fun rest => ((), rest)
  string_lt h := by
    obtain ⟨b, hb, he⟩ := exists_of_map_ok h
    cases he
    exact length_skipString_lt hb
  number text := (numeral text).map fun (_, rest) => ((), rest)
  number_lt h := by
    obtain ⟨b, hb, he⟩ := exists_of_map_ok h
    cases he
    exact length_numeral_lt hb
  null := ()
  bool _ := ()
  text _ := ()
  array _ := ()
  object _ := ()

/-- Members sorted by name; of several with one name the last is kept. -/
def sortMembers (members : List (String × Document)) : List (String × Document) :=
  (Std.TreeMap.ofList members).toList

/-- Builds the document. -/
def full : Reader String Document where
  string text := readString "" text
  string_lt := length_readString_lt
  number text := (Lexeme.number text).map fun (n, rest) => (.number n, rest)
  number_lt h := by
    obtain ⟨b, hb, he⟩ := exists_of_map_ok h
    cases he
    exact length_number_lt hb
  null := .null
  bool := .bool
  text := .text
  array := .array
  object members := .object (sortMembers members)

end Reader

/-- The document of a text. Its form is checked over the whole text first. -/
def Document.ofText (text : String) : Except SyntaxError Document :=
  let input := text.toList
  match Reader.outline.read input with
  | .error f => .error (f.locate input)
  | .ok () => (Reader.full.read input).mapError fun f => f.locate input

end Treewalk
