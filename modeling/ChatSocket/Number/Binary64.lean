/-!
# Double-precision numbers in exact arithmetic

A finite double is a sign and a magnitude `mantissa * 2 ^ exponent`.  Every
operation computes the exact rational result and rounds it once, to the nearest
double and on a tie to the even mantissa.
-/

set_option autoImplicit false

namespace ChatSocket.Number

/-- A finite double.  The operations below build it in normal form: the
mantissa has 53 bits, or fewer if the exponent is the least one. -/
structure Binary64 where
  negative : Bool
  mantissa : Nat
  exponent : Int
  deriving DecidableEq, Repr, Inhabited

namespace Binary64

/-- The least mantissa of 53 bits. -/
def leastNormal : Nat := 0x10000000000000

/-- Exponent of the numbers closest to zero. -/
def minExponent : Int := -1074

/-- Exponent of the largest finite numbers. -/
def maxExponent : Int := 971

def zero : Binary64 := ⟨false, 0, minExponent⟩

def isZero (x : Binary64) : Bool := x.mantissa == 0

/-- The natural number nearest to `num / den`, on a tie the even one. -/
def roundHalfEven (num den : Nat) : Nat :=
  let quotient := num / den
  let twice := 2 * (num % den)
  if twice < den then quotient
  else if den < twice then quotient + 1
  else quotient + quotient % 2

/-- Numerator and denominator of `num / den / 2 ^ exponent`. -/
def scaled (num den : Nat) (exponent : Int) : Nat × Nat :=
  (num * Nat.pow 2 (-exponent).toNat, den * Nat.pow 2 exponent.toNat)

/-- The exponent at which the mantissa of `num / den` has 53 bits, or the least
exponent if that is larger. -/
def exponentOf (num den : Nat) : Int :=
  let guess : Int := Nat.log2 num - Nat.log2 den - 52
  let (top, bottom) := scaled num den guess
  max minExponent (if top / bottom < leastNormal then guess - 1 else guess)

/-- The double nearest to the quotient of two natural numbers, or nothing if it
would be infinite. -/
def nearest? (negative : Bool) (num den : Nat) : Option Binary64 :=
  if num = 0 then some ⟨negative, 0, minExponent⟩
  else
    let exponent := exponentOf num den
    let (top, bottom) := scaled num den exponent
    let mantissa := roundHalfEven top bottom
    let rounded : Binary64 :=
      if mantissa = 2 * leastNormal then ⟨negative, leastNormal, exponent + 1⟩
      else ⟨negative, mantissa, exponent⟩
    if rounded.exponent ≤ maxExponent then some rounded else none

/-- Numerator and denominator of the magnitude. -/
def magnitude (x : Binary64) : Nat × Nat :=
  (x.mantissa * Nat.pow 2 x.exponent.toNat, Nat.pow 2 (-x.exponent).toNat)

/-- The product of two magnitudes under the sign of the first factor. -/
def scaleUp? (x y : Binary64) : Option Binary64 :=
  let (xTop, xBottom) := x.magnitude
  let (yTop, yBottom) := y.magnitude
  nearest? x.negative (xTop * yTop) (xBottom * yBottom)

/-- The quotient of two magnitudes under the sign of the dividend. -/
def scaleDown? (x y : Binary64) : Option Binary64 :=
  let (xTop, xBottom) := x.magnitude
  let (yTop, yBottom) := y.magnitude
  nearest? x.negative (xTop * yBottom) (xBottom * yTop)

example : nearest? false 1 10 = some ⟨false, 7205759403792794, -56⟩ := by decide +kernel

example : nearest? false (Nat.pow 2 1024) 1 = none := by decide +kernel

end Binary64

end ChatSocket.Number
