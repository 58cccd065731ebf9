import Treewalk.Binary64

/-! # Shortest decimal text

A binary64 number is written with the fewest decimal digits that no other number is nearer to; of
several such decimals the nearest is taken. `Binary64.text` lays the digits out. -/

namespace Treewalk.Binary64

/-- A decimal `digits * 10 ^ exponent`. -/
structure Decimal where
  digits : Nat
  exponent : Int
  deriving DecidableEq, Inhabited

/-- The decimal exponent of the leading digit of `num / den`, both of which are positive. -/
def leadingExponent (num den : Nat) : Int :=
  if den ≤ num then ((num / den).repr.length : Int) - 1
  else
    -- The least `k` with `den ≤ num * 10 ^ k`.
    -(((den + num - 1) / num - 1).repr.length : Int)

/-- Four times the mantissa, and four times the ends of the interval of reals that round to `x`. The
lower end is nearer where the mantissa is a power of two, since numbers lie closer below it. -/
def quadruple (x : Binary64) : Nat × Nat × Nat :=
  let m := x.mantissa
  let below := if m = Nat.pow 2 52 ∧ minExponent < x.exponent then 1 else 2
  (4 * m, 4 * m - below, 4 * m + 2)

/-- `a * 10 ^ g`, and `b`, both brought to natural numbers. -/
def scaled (a b : Nat) (g : Int) : Nat × Nat :=
  (a * Nat.pow 10 g.toNat, b * Nat.pow 10 (-g).toNat)

/-- The decimal with `n` digits that rounds to `x` and is nearest to it, if there is one. -/
def decimalOfLength? (x : Binary64) (n : Nat) : Option Decimal :=
  let (mid, low, high) := x.quadruple
  let num := Nat.pow 2 (x.exponent - 2).toNat
  let den := Nat.pow 2 (2 - x.exponent).toNat
  let grid := leadingExponent (mid * num) den - (n - 1 : Nat)
  let closed := x.mantissa % 2 = 0
  -- Compares `c * 10 ^ grid` with a quarter of a mantissa.
  let compareTo (c quarter : Nat) : Ordering :=
    let (a, b) := scaled (c * den) (quarter * num) grid
    compare a b
  let inside (c : Nat) : Bool :=
    match compareTo c low, compareTo c high with
    | .gt, .lt => true
    | .eq, _ | _, .eq => closed
    | _, _ => false
  let (b, a) := scaled den (mid * num) grid
  let nearest := roundDiv a b
  let other := if nearest = a / b then nearest + 1 else nearest - 1
  if inside nearest then some ⟨nearest, grid⟩
  else if inside other then some ⟨other, grid⟩
  else none

/-- The shortest decimal that rounds to `x`. Seventeen digits always suffice. -/
def shortest (x : Binary64) : Decimal :=
  ((List.range 17).findSome? fun k => x.decimalOfLength? (k + 1)).getD ⟨0, 0⟩

/-- Digits without the zeros at their end. -/
def dropTrailingZeros (digits : List Char) : List Char :=
  (digits.reverse.dropWhile (· = '0')).reverse

/-- Exponents of the leading digit from the first to the second are written without exponent. -/
def plainFrom : Int := -5

def plainTo : Int := 15

/-- Digits of which the first stands for `10 ^ e`, laid out: plainly with at least one digit after
the point, or with one digit before the point and a signed exponent. -/
def layout (digits : List Char) (e : Int) : List Char :=
  if plainFrom ≤ e ∧ e ≤ plainTo then
    if e < 0 then
      '0' :: '.' :: (List.replicate (e.natAbs - 1) '0' ++ digits)
    else
      let whole := digits.take (e.toNat + 1)
      let part := digits.drop (e.toNat + 1)
      whole ++ List.replicate (e.toNat + 1 - whole.length) '0' ++
        '.' :: (if part.isEmpty then ['0'] else part)
  else
    let (lead, part) := digits.splitAt 1
    lead ++ (if part.isEmpty then [] else '.' :: part) ++
      'e' :: (if e < 0 then '-' else '+') :: e.natAbs.repr.toList

/-- The text of a number. -/
def text (x : Binary64) : String :=
  let sign := if x.negative then ['-'] else []
  if x.isZero then String.ofList (sign ++ ['0', '.', '0'])
  else
    let d := x.shortest
    let digits := d.digits.repr.toList
    let e := d.exponent + (digits.length - 1 : Nat)
    String.ofList (sign ++ layout (dropTrailingZeros digits) e)

end Treewalk.Binary64
