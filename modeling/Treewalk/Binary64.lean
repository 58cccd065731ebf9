/-! # Binary64 numbers

The finite numbers of the 64-bit binary format, as a sign, a mantissa below `2 ^ 53` and an exponent
of two not below `-1074`. Every operation computes exactly on natural numbers and then rounds to the
nearest number of the format, a tie going to the even mantissa. -/

namespace Treewalk

/-- The number `mantissa * 2 ^ exponent`, negated if `negative`. Zero has a sign. -/
structure Binary64 where
  negative : Bool
  mantissa : Nat
  exponent : Int
  deriving DecidableEq, Inhabited

namespace Binary64

def minExponent : Int := -1074

def maxExponent : Int := 971

/-- Mantissas stay below this. -/
def mantissaBound : Nat := Nat.pow 2 53

def zero : Binary64 := ⟨false, 0, minExponent⟩

def isZero (x : Binary64) : Bool := x.mantissa == 0

def neg (x : Binary64) : Binary64 := { x with negative := !x.negative }

/-- `num / den * 2 ^ shift` as a fraction of natural numbers. -/
def fraction (num den : Nat) (shift : Int) : Nat × Nat :=
  (num * Nat.pow 2 shift.toNat, den * Nat.pow 2 (-shift).toNat)

/-- The quotient rounded to the nearest natural number, a half going to the even one. -/
def roundDiv (num den : Nat) : Nat :=
  let q := num / den
  let r := num % den
  if den < 2 * r ∨ (2 * r = den ∧ q % 2 = 1) then q + 1 else q

/-- The least exponent at which `num / den * 2 ^ shift` has a mantissa in bounds. The lengths of
`num` and `den` give it up to one. -/
def fittingExponent (num den : Nat) (shift : Int) : Int :=
  let guess := max ((num.log2 : Int) - den.log2 + shift - 53) minExponent
  let (n, d) := fraction num den (shift - guess)
  if n / d < mantissaBound then guess else guess + 1

/-- The nonnegative number nearest to `num / den * 2 ^ shift`, if it is not too large. -/
def round? (num den : Nat) (shift : Int) : Option Binary64 :=
  if num = 0 then some zero
  else
    let e := fittingExponent num den shift
    let (n, d) := fraction num den (shift - e)
    let m := roundDiv n d
    let (m, e) := if m < mantissaBound then (m, e) else (m / 2, e + 1)
    if e ≤ maxExponent then some ⟨false, m, e⟩ else none

def ofNat? (n : Nat) : Option Binary64 := round? n 1 0

/-- The product of two nonnegative numbers. -/
def mul? (x y : Binary64) : Option Binary64 :=
  round? (x.mantissa * y.mantissa) 1 (x.exponent + y.exponent)

/-- The quotient of two nonnegative numbers of which the second is not zero. -/
def div? (x y : Binary64) : Option Binary64 :=
  round? x.mantissa y.mantissa (x.exponent - y.exponent)

/-- Powers of ten above this one are too large. -/
def maxPowerOfTen : Nat := 308

/-- The number nearest to `10 ^ k`. -/
def powerOfTen? (k : Nat) : Option Binary64 := ofNat? (Nat.pow 10 k)

/-- `x` divided by `10 ^ k`, both of which are rounded. -/
def divPower? (x : Binary64) (k : Nat) : Option Binary64 := (powerOfTen? k).bind x.div?

/-- `x` divided by the greatest power of ten `n` times over, or until it is zero. -/
def divGreatest? : Nat → Binary64 → Option Binary64
  | 0, x => some x
  | n + 1, x => if x.isZero then some x else (x.divPower? maxPowerOfTen).bind (divGreatest? n)

/-- `x` divided by `10 ^ k`, in as few steps as powers of ten allow. -/
def scaleDown? (x : Binary64) (k : Nat) : Option Binary64 :=
  let steps := (k - 1) / maxPowerOfTen
  (divGreatest? steps x).bind fun y => y.divPower? (k - steps * maxPowerOfTen)

/-- `significand * 10 ^ exponent`: the significand, the power of ten and their product or quotient
are rounded one after another. `none` if the result is too large. -/
def ofDecimal? (significand : Nat) (exponent : Int) : Option Binary64 :=
  (ofNat? significand).bind fun x =>
    if exponent < 0 then x.scaleDown? exponent.natAbs
    else if exponent.toNat ≤ maxPowerOfTen then (powerOfTen? exponent.toNat).bind x.mul?
    else if x.isZero then some x
    else none

end Binary64

end Treewalk
