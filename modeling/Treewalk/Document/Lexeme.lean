import Treewalk.Document.Fault
import Treewalk.Document.Numeral

/-! # Lexemes

The parts of a document text that have no parts of their own: blanks, the three words, numerals and
strings. Each function takes the text from some point on and gives what is left after the lexeme;
the lemmas say that this is shorter. Strings can be passed over, which checks their form only, or
read, which also joins surrogate halves. -/

namespace Treewalk.Lexeme

open Fault

def isBlank (c : Char) : Bool := c = ' ' || c = '\n' || c = '\t' || c = '\r'

def skipBlanks (text : List Char) : List Char := text.dropWhile isBlank

theorem length_skipBlanks_le (text : List Char) : (skipBlanks text).length ≤ text.length :=
  (List.dropWhile_suffix isBlank).length_le

/-- The rest of a word of which the first letter was seen. -/
def word : List Char → List Char → Except Fault (List Char)
  | [], text => .ok text
  | _ :: _, [] => .error (here .eofValue [])
  | l :: letters, c :: text =>
    if c = l then word letters text else .error (after .expectedIdent (c :: text))

theorem length_word_le {letters text rest : List Char} (h : word letters text = .ok rest) :
    rest.length ≤ text.length := by
  induction letters generalizing text with
  | nil => cases h; exact Nat.le_refl _
  | cons l letters ih =>
    cases text with
    | nil => cases h
    | cons c text =>
      rw [word] at h
      split at h
      · exact Nat.le_succ_of_le (ih h)
      · cases h

/-! ## Numerals -/

def isDigit (c : Char) : Bool := '0' ≤ c && c ≤ '9'

/-- The digits at the front of a text, and the rest. -/
def digits (text : List Char) : List Char × List Char :=
  (text.takeWhile isDigit, text.dropWhile isDigit)

theorem length_digits_le (text : List Char) : (digits text).2.length ≤ text.length :=
  (List.dropWhile_suffix isDigit).length_le

/-- The digits before the point: a zero alone, or digits of which the first is not zero. -/
def whole : List Char → Except Fault (List Char × List Char)
  | [] => .error (here .invalidNumber [])
  | c :: text =>
    if c = '0' then
      match text with
      | d :: _ => if isDigit d then .error (after .invalidNumber text) else .ok (['0'], text)
      | [] => .ok (['0'], [])
    else if isDigit c then .ok (c :: (digits text).1, (digits text).2)
    else .error (after .invalidNumber (c :: text))

/-- The point and the digits after it, if there is a point. -/
def fraction : List Char → Except Fault (Option (List Char) × List Char)
  | '.' :: text =>
    match digits text with
    | ([], _) => .error (after .invalidNumber text)
    | (ds, rest) => .ok (some ds, rest)
  | text => .ok (none, text)

/-- The sign of an exponent, and whether it is negative. -/
def exponentSign : List Char → Bool × List Char
  | '+' :: text => (false, text)
  | '-' :: text => (true, text)
  | text => (false, text)

/-- The exponent, if there is one. -/
def exponent : List Char → Except Fault (Option (Bool × List Char) × List Char)
  | c :: text =>
    if c = 'e' || c = 'E' then
      let (down, text) := exponentSign text
      match digits text with
      | ([], _) => .error (after .invalidNumber text)
      | (ds, rest) => .ok (some (down, ds), rest)
    else .ok (none, c :: text)
  | [] => .ok (none, [])

/-- The sign of a numeral: whether there is a minus sign. -/
def minus : List Char → Bool × List Char
  | '-' :: text => (true, text)
  | text => (false, text)

/-- A numeral, which starts with a minus sign or a digit. -/
def numeral (text : List Char) : Except Fault (Numeral × List Char) := do
  let (w, rest) ← whole (minus text).2
  let (f, rest) ← fraction rest
  let (e, rest) ← exponent rest
  return (⟨(minus text).1, w, f, e⟩, rest)

theorem length_whole_lt {text rest ds : List Char} (h : whole text = .ok (ds, rest)) :
    rest.length < text.length := by
  cases text with
  | nil => cases h
  | cons c text =>
    have hd := length_digits_le text
    simp only [whole] at h
    split at h
    · split at h
      · split at h <;> cases h
        exact Nat.lt_succ_self _
      · cases h; exact Nat.lt_succ_self _
    · split at h
      · cases h; exact Nat.lt_succ_of_le hd
      · cases h

theorem length_fraction_le {text rest : List Char} {ds : Option (List Char)}
    (h : fraction text = .ok (ds, rest)) : rest.length ≤ text.length := by
  unfold fraction at h
  split at h
  · next text =>
    have hd := length_digits_le text
    split at h
    · cases h
    · next hs => cases h; rw [hs] at hd; exact Nat.le_succ_of_le hd
  · cases h; exact Nat.le_refl _

theorem length_exponentSign_le (text : List Char) :
    (exponentSign text).2.length ≤ text.length := by
  unfold exponentSign
  split <;> simp

theorem length_exponent_le {text rest : List Char} {e : Option (Bool × List Char)}
    (h : exponent text = .ok (e, rest)) : rest.length ≤ text.length := by
  cases text with
  | nil => cases h; exact Nat.le_refl _
  | cons c text =>
    have hs := length_exponentSign_le text
    simp only [exponent] at h
    split at h
    · have hd := length_digits_le (exponentSign text).2
      split at h
      · cases h
      · next hds =>
        cases h
        rw [hds] at hd
        exact Nat.le_succ_of_le (Nat.le_trans hd hs)
    · cases h; exact Nat.le_refl _

theorem length_minus_le (text : List Char) : (minus text).2.length ≤ text.length := by
  unfold minus
  split <;> simp

theorem length_numeral_lt {text rest : List Char} {n : Numeral}
    (h : numeral text = .ok (n, rest)) : rest.length < text.length := by
  have h0 := length_minus_le text
  unfold numeral at h
  cases hw : whole (minus text).2 with
  | error e => rw [hw] at h; cases h
  | ok w =>
    have h1 := length_whole_lt hw
    cases hf : fraction w.2 with
    | error e => simp only [bind, Except.bind, hw, hf] at h; cases h
    | ok f =>
      have h2 := length_fraction_le hf
      cases he : exponent f.2 with
      | error e => simp only [bind, Except.bind, hw, hf, he] at h; cases h
      | ok e =>
        have h3 := length_exponent_le he
        simp only [bind, Except.bind, hw, hf, he] at h
        cases h
        omega

/-- The value of a numeral. -/
def number (text : List Char) : Except Fault (Number × List Char) := do
  let (n, rest) ← numeral text
  match n.value with
  | .ok value => return (value, rest)
  | .error unread => throw (here .numberOutOfRange (unread ++ rest))

theorem length_number_lt {text rest : List Char} {n : Number}
    (h : number text = .ok (n, rest)) : rest.length < text.length := by
  unfold number at h
  cases hn : numeral text with
  | error e => rw [hn] at h; cases h
  | ok p =>
    have := length_numeral_lt hn
    rw [hn] at h
    simp only [bind, Except.bind] at h
    split at h
    · cases h; exact this
    · cases h

/-! ## Strings -/

/-- What follows a backslash: a character, or half of one given by its code. -/
inductive Escape where
  | char (c : Char)
  | code (n : Nat)

def hexValue? (c : Char) : Option Nat :=
  if isDigit c then some (c.toNat - '0'.toNat)
  else if 'a' ≤ c && c ≤ 'f' then some (c.toNat - 'a'.toNat + 10)
  else if 'A' ≤ c && c ≤ 'F' then some (c.toNat - 'A'.toNat + 10)
  else none

/-- Four hexadecimal digits. Four bytes are taken in any case, or all that are left. -/
def hexCode (text : List Char) : Except Fault (Nat × List Char) :=
  match text with
  | a :: b :: c :: d :: rest =>
    match hexValue? a, hexValue? b, hexValue? c, hexValue? d with
    | some a, some b, some c, some d => .ok (((a * 16 + b) * 16 + c) * 16 + d, rest)
    | _, _, _, _ => .error ⟨.invalidEscape, text, 4⟩
  | _ =>
    if byteCount text < 4 then .error (here .eofString []) else .error ⟨.invalidEscape, text, 4⟩

/-- The character that a letter stands for after a backslash. -/
def shortEscape? : Char → Option Char
  | '"' => some '"'
  | '\\' => some '\\'
  | '/' => some '/'
  | 'b' => some '\x08'
  | 'f' => some '\x0c'
  | 'n' => some '\n'
  | 'r' => some '\r'
  | 't' => some '\t'
  | _ => none

/-- An escape, after its backslash. -/
def escape : List Char → Except Fault (Escape × List Char)
  | [] => .error (here .eofString [])
  | c :: text =>
    if c = 'u' then
      match hexCode text with
      | .ok (n, rest) => .ok (.code n, rest)
      | .error f => .error f
    else
      match shortEscape? c with
      | some e => .ok (.char e, text)
      | none => .error (after .invalidEscape (c :: text))

theorem length_hexCode_lt {text rest : List Char} {n : Nat} (h : hexCode text = .ok (n, rest)) :
    rest.length < text.length := by
  unfold hexCode at h
  split at h
  · split at h <;> cases h
    simp only [List.length_cons]
    omega
  · split at h <;> cases h

theorem length_escape_lt {text rest : List Char} {e : Escape} (h : escape text = .ok (e, rest)) :
    rest.length < text.length := by
  cases text with
  | nil => cases h
  | cons c text =>
    simp only [escape] at h
    split at h
    · split at h
      · next hx => cases h; exact Nat.lt_succ_of_lt (length_hexCode_lt hx)
      · cases h
    · split at h <;> cases h
      exact Nat.lt_succ_self _

/-- Passes over the rest of a string, after its opening quote. -/
def skipString : List Char → Except Fault (List Char)
  | [] => .error (here .eofString [])
  | c :: text =>
    if c = '"' then .ok text
    else if c = '\\' then
      match _h : escape text with
      | .ok (_, rest) => skipString rest
      | .error f => .error f
    else if c < ' ' then .error (here .controlCharacter (c :: text))
    else skipString text
termination_by text => text.length
decreasing_by
  · have := length_escape_lt _h; simp only [List.length_cons]; omega
  · simp only [List.length_cons]; omega

theorem length_skipString_lt {text rest : List Char} (h : skipString text = .ok rest) :
    rest.length < text.length := by
  fun_induction skipString text with
  | case1 => cases h
  | case2 => cases h; exact Nat.lt_succ_self _
  | case3 text _ _ he _ ih =>
    have := length_escape_lt he
    have := ih h
    simp only [List.length_cons]
    omega
  | case4 => cases h
  | case5 => cases h
  | case6 c text _ _ _ ih => exact Nat.lt_succ_of_lt (ih h)

def isHighSurrogate (n : Nat) : Bool := 0xD800 ≤ n && n ≤ 0xDBFF

def isLowSurrogate (n : Nat) : Bool := 0xDC00 ≤ n && n ≤ 0xDFFF

/-- The character of a code, which for the first half of a surrogate pair takes the second half from
the text. -/
def codePoint (n : Nat) (text : List Char) : Except Fault (Char × List Char) :=
  if isLowSurrogate n then .error (here .loneSurrogate text)
  else if isHighSurrogate n then
    match text with
    | '\\' :: 'u' :: text =>
      match hexCode text with
      | .ok (m, rest) =>
        if isLowSurrogate m then
          .ok (Char.ofNat (0x10000 + (n - 0xD800) * 0x400 + (m - 0xDC00)), rest)
        else .error (here .loneSurrogate rest)
      | .error f => .error f
    | '\\' :: text => .error (after .unfinishedSurrogate text)
    | text => .error (after .unfinishedSurrogate text)
  else .ok (Char.ofNat n, text)

theorem length_codePoint_le {n : Nat} {text rest : List Char} {c : Char}
    (h : codePoint n text = .ok (c, rest)) : rest.length ≤ text.length := by
  unfold codePoint at h
  split at h
  · cases h
  · split at h
    · split at h
      · split at h
        · next hx =>
          have := length_hexCode_lt hx
          split at h
          · simp only [Except.ok.injEq, Prod.mk.injEq] at h
            simp only [List.length_cons, ← h.2]
            omega
          · cases h
        · cases h
      · cases h
      · cases h
    · cases h; exact Nat.le_refl _

/-- The character that an escape stands for, after its backslash. -/
def escaped (text : List Char) : Except Fault (Char × List Char) :=
  match escape text with
  | .ok (.char c, rest) => .ok (c, rest)
  | .ok (.code n, rest) => codePoint n rest
  | .error f => .error f

theorem length_escaped_lt {text rest : List Char} {c : Char} (h : escaped text = .ok (c, rest)) :
    rest.length < text.length := by
  unfold escaped at h
  split at h
  · next he => cases h; exact length_escape_lt he
  · next he => exact Nat.lt_of_le_of_lt (length_codePoint_le h) (length_escape_lt he)
  · cases h

/-- Reads the rest of a string, after its opening quote and the characters in `front`. -/
def readString (front : String) : List Char → Except Fault (String × List Char)
  | [] => .error (here .eofString [])
  | c :: text =>
    if c = '"' then .ok (front, text)
    else if c = '\\' then
      match _h : escaped text with
      | .ok (e, rest) => readString (front.push e) rest
      | .error f => .error f
    else if c < ' ' then .error (here .controlCharacter (c :: text))
    else readString (front.push c) text
termination_by text => text.length
decreasing_by
  · have := length_escaped_lt _h; simp only [List.length_cons]; omega
  · simp only [List.length_cons]; omega

theorem length_readString_lt {front s : String} {text rest : List Char}
    (h : readString front text = .ok (s, rest)) : rest.length < text.length := by
  fun_induction readString front text with
  | case1 => cases h
  | case2 => cases h; exact Nat.lt_succ_self _
  | case3 front text _ _ he _ ih =>
    have := length_escaped_lt he
    have := ih h
    simp only [List.length_cons]
    omega
  | case4 => cases h
  | case5 => cases h
  | case6 front c text _ _ _ ih => exact Nat.lt_succ_of_lt (ih h)

end Treewalk.Lexeme
