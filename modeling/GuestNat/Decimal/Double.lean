/-!
# Binary numbers of 53 bits

The finite numbers of the 64-bit floating-point format, signs apart, and the rounding of a ratio to
the nearest of them. All arithmetic is exact arithmetic on natural numbers followed by one rounding.

- A number is `mantissa * 2 ^ exponent`; the mantissa has at most 53 bits, the exponent is at least
  -1074, and it is -1074 unless the mantissa has exactly 53 bits.
- A tie goes to the even mantissa.
- A ratio that rounds to `2 ^ 1024` or more has no such number.
-/

namespace GuestNat.Decimal

/-- The magnitude `mantissa * 2 ^ exponent`. -/
structure Double where
  mantissa : Nat
  exponent : Int
deriving DecidableEq, Repr

/-- The nearest integer to a ratio, the even one of two that are equally near. -/
def roundDiv (num den : Nat) : Nat :=
  let quotient := num / den
  let rest := num % den
  if 2 * rest < den then quotient
  else if den < 2 * rest then quotient + 1
  else if quotient % 2 = 0 then quotient
  else quotient + 1

namespace Double

/-- The least exponent. -/
def minExponent : Int := -1074

/-- The greatest exponent. -/
def maxExponent : Int := 971

def zero : Double := ⟨0, minExponent⟩

/-- The numerator of `num / den` over `2 ^ e`, and the denominator. -/
def overPower (num den : Nat) (e : Int) : Nat × Nat :=
  (num * Nat.pow 2 (-e).toNat, den * Nat.pow 2 e.toNat)

/-- The greatest `e` with `2 ^ e ≤ num / den`, for positive numbers. -/
def binaryLog (num den : Nat) : Int :=
  let guess : Int := (num.log2 : Int) - den.log2
  let (n, d) := overPower num den guess
  if d ≤ n then guess else guess - 1

/-- The nearest number to `num / den`, if that is in range. -/
def ofRatio (num den : Nat) : Option Double :=
  if num = 0 then some zero
  else
    let e := max (binaryLog num den - 52) minExponent
    let (n, d) := overPower num den e
    let m := roundDiv n d
    let x : Double := if m = Nat.pow 2 53 then ⟨Nat.pow 2 52, e + 1⟩ else ⟨m, e⟩
    if maxExponent < x.exponent then none else some x

/-- The nearest number to a natural number. -/
def ofNat (n : Nat) : Option Double := ofRatio n 1

/-- The numerator and the denominator of a number. -/
def ratio (x : Double) : Nat × Nat :=
  (x.mantissa * Nat.pow 2 x.exponent.toNat, Nat.pow 2 (-x.exponent).toNat)

/-- The product, rounded; `none` when it is out of range. -/
def mul (x y : Double) : Option Double :=
  ofRatio (x.ratio.1 * y.ratio.1) (x.ratio.2 * y.ratio.2)

/-- The quotient by a positive number, rounded; `none` when it is out of range. -/
def div (x y : Double) : Option Double :=
  ofRatio (x.ratio.1 * y.ratio.2) (x.ratio.2 * y.ratio.1)

end Double

end GuestNat.Decimal
