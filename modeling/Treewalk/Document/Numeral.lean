import Treewalk.Document.Basic

/-! # Numerals

A numeral is a number as written: a sign, digits, and perhaps a fraction and an exponent. Its value
is an integer if it has neither and is in range, and a rounded number otherwise. -/

namespace Treewalk

structure Numeral where
  negative : Bool
  /-- The digits before the point. -/
  whole : List Char
  /-- The digits after the point. -/
  fraction : Option (List Char)
  /-- Whether the exponent is negative, and its digits. -/
  exponent : Option (Bool × List Char)

namespace Numeral

def digitValue (c : Char) : Nat := c.toNat - '0'.toNat

/-- Significands stay below this. -/
def significandBound : Nat := Nat.pow 2 64

/-- Negative integers reach down to the negation of this. -/
def negativeBound : Nat := Nat.pow 2 63

/-- Digits join the significand as long as it stays in bounds. Gives the significand and the digits
that did not join it. -/
def gather : Nat → List Char → Nat × List Char
  | significand, [] => (significand, [])
  | significand, c :: rest =>
    let next := significand * 10 + digitValue c
    if next < significandBound then gather next rest else (significand, c :: rest)

/-- Exponents above this are not read any further. -/
def maxExponent : Nat := 2147483647

/-- The value of the digits of an exponent; if it is too large, the digits after the one that made
it so. -/
def exponentValue : Nat → List Char → Except (List Char) Nat
  | value, [] => .ok value
  | value, c :: rest =>
    let next := value * 10 + digitValue c
    if next ≤ maxExponent then exponentValue next rest else .error rest

/-- A rounded number with the sign of the numeral. -/
def signed (n : Numeral) (x : Binary64) : Number := .double (if n.negative then x.neg else x)

/-- The significand and its power of ten, not counting the exponent. Digits before the point that do
not fit into the significand raise the power; digits after the point lower it if they fit, and are
dropped otherwise. -/
def scientific (n : Numeral) : Nat × Int :=
  let (significand, left) := gather 0 n.whole
  let digits := n.fraction.getD []
  let (significand, dropped) := gather significand digits
  (significand, left.length - (digits.length - dropped.length : Nat))

/-- The value of a numeral. If it is too large, the digits of the exponent that need not be read to
know it. -/
def value (n : Numeral) : Except (List Char) Number :=
  let (significand, scale) := n.scientific
  let rounded (scale : Int) : Except (List Char) Number :=
    match Binary64.ofDecimal? significand scale with
    | some x => .ok (n.signed x)
    | none => .error []
  match n.fraction, n.exponent with
  | none, none =>
    if scale ≠ 0 then rounded scale
    else if !n.negative then .ok (.int significand)
    else if significand ≠ 0 ∧ significand ≤ negativeBound then .ok (.int (-significand))
    else rounded 0
  | _, none => rounded scale
  | _, some (down, digits) =>
    match exponentValue 0 digits with
    | .ok e => rounded (if down then scale - e else scale + e)
    | .error unread =>
      if significand = 0 ∨ down then .ok (n.signed Binary64.zero) else .error unread

end Numeral

end Treewalk
