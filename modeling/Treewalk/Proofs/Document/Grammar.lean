import Mathlib
import Treewalk.Proofs.Binary64.Decimal
import Treewalk.Proofs.Document.Lexeme

/-!
# The grammar of document texts

The JSON grammar, stated without a reader. `PhraseText` relates a text to the form that it spells,
with one rule for each way to write a phrase, so a nesting has no limit other than its text. A form
keeps strings and numerals as they are spelled. What they stand for is a second matter, since not
every one of them stands for something: a string must not have half a surrogate pair
(`characters?`), and a numeral must not be too large (`Numeral.Denotes`). `Form.Denotes` gives the
document of a form in which they all do.
-/

namespace Treewalk

namespace Grammar

/-- Blanks may stand around every value and every mark. -/
def Blanks (text : List Char) : Prop := ∀ c ∈ text, c ∈ [' ', '\t', '\n', '\r']

/-! ## Numerals -/

/-- Digits, at least one. -/
def Digits (text : List Char) : Prop := text ≠ [] ∧ ∀ c ∈ text, '0' ≤ c ∧ c ≤ '9'

/-- The digits before the point. The first of several is not zero. -/
inductive WholeText : List Char → Prop
  | zero : WholeText ['0']
  | digits {c : Char} {ds : List Char} (hc : c ≠ '0') (h : Digits (c :: ds)) : WholeText (c :: ds)

inductive FractionText : Option (List Char) → List Char → Prop
  | absent : FractionText none []
  | digits {ds : List Char} (h : Digits ds) : FractionText (some ds) ('.' :: ds)

/-- The sign of an exponent, and whether it is negative. -/
inductive SignText : Bool → List Char → Prop
  | absent : SignText false []
  | plus : SignText false ['+']
  | minus : SignText true ['-']

inductive ExponentText : Option (Bool × List Char) → List Char → Prop
  | absent : ExponentText none []
  | digits {mark : Char} {down : Bool} {sign ds : List Char} (hmark : mark = 'e' ∨ mark = 'E')
      (hsign : SignText down sign) (h : Digits ds) :
      ExponentText (some (down, ds)) (mark :: (sign ++ ds))

inductive NumeralText : Numeral → List Char → Prop
  | parts {negative : Bool} {whole fraction exponent : List Char} {f : Option (List Char)}
      {e : Option (Bool × List Char)} (hwhole : WholeText whole)
      (hfraction : FractionText f fraction) (hexponent : ExponentText e exponent) :
      NumeralText ⟨negative, whole, f, e⟩
        ((if negative then ['-'] else []) ++ (whole ++ (fraction ++ exponent)))

/-! ## Strings -/

/-- A part of a string: a character, or a code that may be half of one. -/
inductive Piece where
  | char (c : Char)
  | code (n : Nat)

/-- Letters after a backslash, and what they stand for. -/
def shortEscapes : List (Char × Char) :=
  [('"', '"'), ('\\', '\\'), ('/', '/'), ('b', '\x08'), ('f', '\x0c'), ('n', '\n'), ('r', '\r'),
    ('t', '\t')]

/-- Hexadecimal digits, in either case. -/
def HexDigit (c : Char) (n : Nat) : Prop := n < 16 ∧ (c = n.digitChar ∨ c = n.digitChar.toUpper)

inductive PieceText : Piece → List Char → Prop
  | plain {c : Char} (hcontrol : ' ' ≤ c) (hquote : c ≠ '"') (hslash : c ≠ '\\') :
      PieceText (.char c) [c]
  | letter {a c : Char} (h : (a, c) ∈ shortEscapes) : PieceText (.char c) ['\\', a]
  | code {a b c d : Char} {k l m n : Nat} (ha : HexDigit a k) (hb : HexDigit b l)
      (hc : HexDigit c m) (hd : HexDigit d n) :
      PieceText (.code (((k * 16 + l) * 16 + m) * 16 + n)) ['\\', 'u', a, b, c, d]

/-- What stands between the quotes. -/
inductive StringText : List Piece → List Char → Prop
  | nil : StringText [] []
  | cons {p : Piece} {ps : List Piece} {first rest : List Char} (hp : PieceText p first)
      (hps : StringText ps rest) : StringText (p :: ps) (first ++ rest)

/-- The characters of a string. A code in the surrogate range counts only as half of a pair. -/
def characters? : List Piece → Option (List Char)
  | [] => some []
  | .char c :: ps => (characters? ps).map (c :: ·)
  | .code n :: ps =>
    if n < 0xD800 ∨ 0xDFFF < n then (characters? ps).map (Char.ofNat n :: ·)
    else
      match ps with
      | .code m :: ps =>
        if n < 0xDC00 ∧ 0xDC00 ≤ m ∧ m ≤ 0xDFFF then
          (characters? ps).map (Char.ofNat (0x10000 + (n - 0xD800) * 0x400 + (m - 0xDC00)) :: ·)
        else none
      | _ => none

/-! ## Values -/

inductive Form where
  | null
  | bool (b : Bool)
  | number (n : Numeral)
  | string (ps : List Piece)
  | array (items : List Form)
  | object (members : List (List Piece × Form))

/-- A value, a value with blanks around it, or what stands between the brackets of a container that
is not empty. -/
inductive Phrase where
  | value (f : Form)
  | padded (f : Form)
  | items (fs : List Form)
  | members (ms : List (List Piece × Form))

/-- The name of a member, with blanks around it. -/
inductive NameText : List Piece → List Char → Prop
  | quoted {ps : List Piece} {w text w' : List Char} (hw : Blanks w) (h : StringText ps text)
      (hw' : Blanks w') : NameText ps (w ++ '"' :: (text ++ '"' :: w'))

inductive PhraseText : Phrase → List Char → Prop
  | nullWord : PhraseText (.value .null) ['n', 'u', 'l', 'l']
  | trueWord : PhraseText (.value (.bool true)) ['t', 'r', 'u', 'e']
  | falseWord : PhraseText (.value (.bool false)) ['f', 'a', 'l', 's', 'e']
  | number {n : Numeral} {text : List Char} (h : NumeralText n text) :
      PhraseText (.value (.number n)) text
  | string {ps : List Piece} {text : List Char} (h : StringText ps text) :
      PhraseText (.value (.string ps)) ('"' :: (text ++ ['"']))
  | emptyArray {w : List Char} (hw : Blanks w) :
      PhraseText (.value (.array [])) ('[' :: (w ++ [']']))
  | array {fs : List Form} {text : List Char} (h : PhraseText (.items fs) text) :
      PhraseText (.value (.array fs)) ('[' :: (text ++ [']']))
  | emptyObject {w : List Char} (hw : Blanks w) :
      PhraseText (.value (.object [])) ('{' :: (w ++ ['}']))
  | object {ms : List (List Piece × Form)} {text : List Char} (h : PhraseText (.members ms) text) :
      PhraseText (.value (.object ms)) ('{' :: (text ++ ['}']))
  | padded {f : Form} {w text w' : List Char} (hw : Blanks w) (h : PhraseText (.value f) text)
      (hw' : Blanks w') : PhraseText (.padded f) (w ++ (text ++ w'))
  | lastItem {f : Form} {text : List Char} (h : PhraseText (.padded f) text) :
      PhraseText (.items [f]) text
  | item {f : Form} {fs : List Form} {text rest : List Char} (h : PhraseText (.padded f) text)
      (hs : PhraseText (.items fs) rest) : PhraseText (.items (f :: fs)) (text ++ ',' :: rest)
  | lastMember {ps : List Piece} {f : Form} {name text : List Char} (hname : NameText ps name)
      (h : PhraseText (.padded f) text) : PhraseText (.members [(ps, f)]) (name ++ ':' :: text)
  | member {ps : List Piece} {f : Form} {ms : List (List Piece × Form)} {name text rest : List Char}
      (hname : NameText ps name) (h : PhraseText (.padded f) text)
      (hs : PhraseText (.members ms) rest) :
      PhraseText (.members ((ps, f) :: ms)) (name ++ ':' :: (text ++ ',' :: rest))

/-- The text holds one value, of the given form, and blanks around it. -/
def DocumentText (f : Form) (text : List Char) : Prop := PhraseText (.padded f) text

end Grammar

/-! ## What numerals stand for -/

namespace Numeral

/-- The digits of the numeral as an integer with its sign, whatever else it has. -/
def integer (n : Numeral) : Int :=
  if n.negative then -(Nat.ofDigitChars 10 n.whole 0 : Int) else Nat.ofDigitChars 10 n.whole 0

/-- The numeral stands for an exact integer. Zero with a sign does not. -/
structure IsExact (n : Numeral) : Prop where
  fraction : n.fraction = none
  exponent : n.exponent = none
  inBounds : Lexeme.InBounds n.integer
  nonzero : n.negative = true → n.integer ≠ 0

/-- The number that a numeral stands for: itself if it is an exact integer, and otherwise the one
it is rounded to, of which `IsNear` says how far off it may be. -/
inductive Denotes (n : Numeral) : Number → Prop
  | int (h : n.IsExact) : Denotes n (.int n.integer)
  | double {x : Binary64} (h : ¬n.IsExact) (hx : n.value = .ok (.double x)) : Denotes n (.double x)

/-- The exponent with its sign. -/
def power (n : Numeral) : ℤ :=
  match n.exponent with
  | none => 0
  | some (down, ds) =>
    if down then -(Nat.ofDigitChars 10 ds 0 : ℤ) else Nat.ofDigitChars 10 ds 0

/-- The exact value of the numeral, without its sign. -/
def magnitude (n : Numeral) : ℚ :=
  Nat.ofDigitChars 10 (n.whole ++ n.fraction.getD []) 0 *
    10 ^ (n.power - (n.fraction.getD []).length)

/-- The numeral is as large as the greatest numbers are, or its exponent is too large by itself. -/
inductive TooLarge (n : Numeral) : Prop
  | magnitude (h : Binary64.decimalBound ≤ n.magnitude)
  | exponent {ds : List Char} (hpos : 0 < n.magnitude) (h : n.exponent = some (false, ds))
      (hds : maxExponent < Nat.ofDigitChars 10 ds 0)

/-- The exponent is too far down to be read. -/
def Vanishes (n : Numeral) : Prop :=
  ∃ ds, n.exponent = some (true, ds) ∧ maxExponent < Nat.ofDigitChars 10 ds 0

/-- The number has the sign of the numeral, and its size up to a few units in the last place. It is
zero if the numeral vanishes. -/
structure IsNear (n : Numeral) (x : Binary64) : Prop where
  sign : x.negative = n.negative
  size : Binary64.Near (2 ^ (-48 : ℤ)) (2 ^ (-1074 : ℤ)) n.magnitude x.magnitude ∨
    x.magnitude = 0 ∧ n.Vanishes

end Numeral

/-! ## Documents -/

namespace Grammar

/-- Of the members that are written those are kept which are the last of their name, in ascending
order. -/
structure LastWins (written kept : List (String × Document)) : Prop where
  ascending : kept.Pairwise fun a b => a.1 < b.1
  last (name : String) : Document.member? name kept = Document.member? name written.reverse

inductive Form.Denotes : Form → Document → Prop
  | null : Denotes .null .null
  | bool (b : Bool) : Denotes (.bool b) (.bool b)
  | number {n : Numeral} {v : Number} (h : n.Denotes v) : Denotes (.number n) (.number v)
  | string {ps : List Piece} {cs : List Char} (h : characters? ps = some cs) :
      Denotes (.string ps) (.text (String.ofList cs))
  | array {fs : List Form} {ds : List Document} (h : List.Forall₂ Denotes fs ds) :
      Denotes (.array fs) (.array ds)
  | object {ms : List (List Piece × Form)} {written kept : List (String × Document)}
      (hnames : List.Forall₂ (fun m d => characters? m.1 = some d.1.toList) ms written)
      (h : List.Forall₂ (fun m d => Denotes m.2 d.2) ms written)
      (hkept : LastWins written kept) : Denotes (.object ms) (.object kept)

/-- A part of a text that may stand for nothing. -/
inductive Leaf where
  | numeral (n : Numeral)
  | string (ps : List Piece)

/-- The leaf stands for nothing, and the cause says why. -/
inductive Leaf.Refused : Leaf → Fault.Cause → Prop
  | tooLarge {n : Numeral} (h : n.TooLarge) (hnone : ∀ v, ¬n.Denotes v) :
      Refused (.numeral n) .numberOutOfRange
  | lone {ps : List Piece} (h : characters? ps = none) : Refused (.string ps) .loneSurrogate
  | unfinished {ps : List Piece} (h : characters? ps = none) :
      Refused (.string ps) .unfinishedSurrogate

/-- The numerals and strings of a form, names of members included. -/
def Form.leaves : Form → List Leaf
  | null => []
  | bool _ => []
  | number n => [.numeral n]
  | string ps => [.string ps]
  | array items => ofItems items
  | object members => ofMembers members
where
  ofItems : List Form → List Leaf
    | [] => []
    | f :: fs => f.leaves ++ ofItems fs
  ofMembers : List (List Piece × Form) → List Leaf
    | [] => []
    | (ps, f) :: ms => [.string ps] ++ (f.leaves ++ ofMembers ms)

end Grammar

end Treewalk
