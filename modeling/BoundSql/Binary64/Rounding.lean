import BoundSql.Binary64.Basic

/-!
# Rounding to double precision

One function, `nearest`, rounds the quotient of two natural numbers to the
nearest double, a tie to the even significand. Products and quotients of finite
numbers are rounded from their exact value, so no operation depends on the
machine. Single-precision numbers are widened exactly.
-/

namespace BoundSql

/-- A single-precision number, given by its bits. It is only ever widened; nothing is computed
in single precision. -/
structure Binary32 where
  bits : UInt32
deriving DecidableEq

namespace Binary64

/-- The quotient rounded to the nearest natural number, a half to the even one. The denominator
is taken to be positive. -/
def divideToEven (numerator denominator : Nat) : Nat :=
  let quotient := numerator / denominator
  let rest := numerator % denominator
  if 2 * rest < denominator then quotient
  else if denominator < 2 * rest then quotient + 1
  else if quotient % 2 = 0 then quotient else quotient + 1

/-- The power of two in which a positive quotient has a 53-bit significand, but at least the one
of the smallest subnormal numbers. The guess from the lengths in bits is off by one at most, and
a comparison without division settles which. -/
def scaleFor (numerator denominator : Nat) : Int :=
  let guess : Int := (numerator.log2 : Int) - (denominator.log2 : Int) - 52
  let reaches : Bool :=
    if 0 ≤ guess then
      decide (twoTo 52 * (denominator * twoTo guess.toNat) ≤ numerator)
    else
      decide (twoTo 52 * denominator ≤ numerator * twoTo (-guess).toNat)
  max (if reaches then guess else guess - 1) (-1074)

/-- The double nearest to a quotient, a tie to the even significand. Beyond the largest finite
number it is the infinity. The quotient is exact until this one rounding, and the denominator is
taken to be positive. -/
def nearest (negative : Bool) (numerator denominator : Nat) : Binary64 :=
  if numerator = 0 then
    zero negative
  else
    let scale := scaleFor numerator denominator
    let significand :=
      if 0 ≤ scale then
        divideToEven numerator (denominator * twoTo scale.toNat)
      else
        divideToEven (numerator * twoTo (-scale).toNat) denominator
    -- A significand that was rounded up to the next power of two carries into the exponent.
    let magnitude := (scale + 1074).toNat * twoTo 52 + significand
    if 2047 * twoTo 52 ≤ magnitude then
      infinity negative
    else
      withSign negative ⟨UInt64.ofNat magnitude⟩

/-- The magnitude of a finite number as a quotient of natural numbers. It is not in lowest
terms, and the sign is left out. -/
def ratio (x : Binary64) : Nat × Nat :=
  if 0 ≤ x.scale then
    (x.significand * twoTo x.scale.toNat, 1)
  else
    (x.significand, twoTo (-x.scale).toNat)

/-- The magnitude of the product of two finite numbers, rounded once. The signs are left to the
caller. -/
def multiply (x y : Binary64) : Binary64 :=
  nearest false (x.ratio.1 * y.ratio.1) (x.ratio.2 * y.ratio.2)

/-- The magnitude of the quotient of two finite numbers, the second one not zero, rounded once.
The signs are left to the caller. -/
def divide (x y : Binary64) : Binary64 :=
  nearest false (x.ratio.1 * y.ratio.2) (x.ratio.2 * y.ratio.1)

/-- The double of a natural number. Up to two to the 53rd it is that number; beyond it is the
nearest double, and in the end the infinity. -/
def ofNat (value : Nat) : Binary64 :=
  nearest false value 1

/-- The double of the same value as a single-precision number. The payload of a NaN moves to the
upper fraction bits and is made quiet; everything else is exact. -/
def ofSingle (x : Binary32) : Binary64 :=
  let word := x.bits.toNat
  let negative : Bool := decide (twoTo 31 ≤ word)
  let exponent := word / twoTo 23 % twoTo 8
  let fraction := word % twoTo 23
  if exponent = 255 then
    if fraction = 0 then
      infinity negative
    else
      let quiet := twoTo 22 + fraction % twoTo 22
      withSign negative ⟨UInt64.ofNat (2047 * twoTo 52 + quiet * twoTo 29)⟩
  else
    let significand := if exponent = 0 then fraction else twoTo 23 + fraction
    nearest negative (significand * twoTo (max exponent 1)) (twoTo 150)

end Binary64

end BoundSql
