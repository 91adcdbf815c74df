/-!
# Double-precision numbers

A number is its 64 bits: two infinities, every NaN payload and both zeros are
different values here, and telling values apart means telling bits apart. The
numeric comparison, in which NaN differs from itself and the zeros are equal,
is `equals`. The meaning of the bits is exact: a finite number is a natural
significand times a power of two, with a sign.
-/

namespace BoundSql

/-- A double-precision number, given by its bits. Equality is equality of bits; numeric
comparison is separate, since a NaN differs from itself and the two zeros are equal. -/
structure Binary64 where
  bits : UInt64
deriving DecidableEq

namespace Binary64

/-- A power of two, as a natural number. Negative exponents are turned round by the caller. -/
def twoTo (exponent : Nat) : Nat :=
  Nat.pow 2 exponent

/-- A power of ten. -/
def tenTo (exponent : Nat) : Nat :=
  Nat.pow 10 exponent

/-- The sign bit; set for `-0.0` and for negative NaN patterns too. -/
def isNegative (x : Binary64) : Bool :=
  twoTo 63 ≤ x.bits.toNat

/-- The eleven exponent bits, without the bias taken off. -/
def exponentField (x : Binary64) : Nat :=
  x.bits.toNat / twoTo 52 % twoTo 11

/-- The fifty-two fraction bits. The leading bit of a normal number is not among them. -/
def fraction (x : Binary64) : Nat :=
  x.bits.toNat % twoTo 52

/-- The largest exponent field is kept for infinities and NaN. -/
def isFinite (x : Binary64) : Bool :=
  x.exponentField != 2047

/-- A NaN, of either sign and with any payload. -/
def isNaN (x : Binary64) : Bool :=
  x.exponentField == 2047 && x.fraction != 0

/-- The natural significand of a finite number: the fraction, and for a normal number the bit in
front of it. For infinities and NaN it means nothing. -/
def significand (x : Binary64) : Nat :=
  if x.exponentField = 0 then x.fraction else twoTo 52 + x.fraction

/-- The power of two that the significand of a finite number counts in. Subnormal numbers share
the scale of the smallest normal ones. -/
def scale (x : Binary64) : Int :=
  max x.exponentField 1 - 1075

/-- Either zero. -/
def isZero (x : Binary64) : Bool :=
  x.exponentField == 0 && x.fraction == 0

/-- Numeric equality: false as soon as a NaN is involved, true between the two zeros. -/
def equals (x y : Binary64) : Bool :=
  !x.isNaN && !y.isNaN && (x == y || (x.isZero && y.isZero))

/-- The integer that a finite number is, if it is one. Nothing is rounded: a fraction, an
infinity or a NaN is no integer, and both zeros are zero. The integer may be far outside any
word. -/
def toInt? (x : Binary64) : Option Int :=
  let magnitude? :=
    if 0 ≤ x.scale then
      some (x.significand * twoTo x.scale.toNat)
    else
      let unit := twoTo (-x.scale).toNat
      if x.significand % unit = 0 then some (x.significand / unit) else none
  if x.isFinite then
    magnitude?.map fun magnitude => if x.isNegative then -(magnitude : Int) else magnitude
  else
    none

/-- The positive or negative zero. -/
def zero (negative : Bool) : Binary64 :=
  ⟨if negative then 0x8000000000000000 else 0⟩

/-- The infinity of a sign. -/
def infinity (negative : Bool) : Binary64 :=
  ⟨if negative then 0xFFF0000000000000 else 0x7FF0000000000000⟩

/-- The same number with its sign bit set or cleared. The other bits stay, also those of a NaN. -/
def withSign (negative : Bool) (x : Binary64) : Binary64 :=
  let magnitude := x.bits.toNat % twoTo 63
  ⟨UInt64.ofNat (if negative then twoTo 63 + magnitude else magnitude)⟩

end Binary64

end BoundSql
