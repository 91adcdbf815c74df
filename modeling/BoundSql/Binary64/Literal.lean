import BoundSql.Binary64.Rounding

/-!
# Doubles from decimal digits

A decimal is read with two roundings: its significant digits, as far as they fit
a 64-bit word, become a double, and that double is multiplied or divided by the
double of a power of ten. For the usual numerals of up to fifteen digits this is
the nearest double; longer ones may be off by a unit in the last place, and a
value that is written back and read again stays what it is only up to that.
-/

namespace BoundSql.Binary64

/-- The largest power of ten that is a finite double. -/
def greatestPower : Nat := 308

/-- A non-negative double times a power of ten, in steps of at most the greatest one. Nothing is
returned beyond the largest finite double; below the smallest one the result is zero. Each step
rounds. -/
def scaleByTen? (x : Binary64) (exponent : Int) : Option Binary64 :=
  if exponent.natAbs ≤ greatestPower then
    let power := ofNat (tenTo exponent.natAbs)
    if 0 ≤ exponent then
      let product := multiply x power
      if product.isFinite then some product else none
    else
      some (divide x power)
  else if x.isZero then
    some x
  else if 0 ≤ exponent then
    none
  else
    scaleByTen? (divide x (ofNat (tenTo greatestPower))) (exponent + greatestPower)
termination_by exponent.natAbs
decreasing_by
  simp only [greatestPower] at *
  omega

/-- Digits gathered into a word: the number they form and how many were taken. A digit that
would overflow the word ends the gathering, even if a later one would fit. -/
def gather : Nat → List Nat → Nat × Nat
  | word, [] => (word, 0)
  | word, digit :: rest =>
    if word * 10 + digit < UInt64.size then
      let (gathered, taken) := gather (word * 10 + digit) rest
      (gathered, taken + 1)
    else
      (word, 0)

/-- The double of a decimal numeral: digits before the point, digits behind it and a power of ten.
Digits before the point that no longer fit the word count as powers of ten; those behind it are
dropped. -/
def ofDecimal? (negative : Bool) (integer fraction : List Nat) (exponent : Int) :
    Option Binary64 :=
  let (word, taken) := gather 0 integer
  let (word, places) := gather word fraction
  let power := exponent + ((integer.length - taken : Nat) : Int) - (places : Int)
  (scaleByTen? (ofNat word) power).map (withSign negative)

end BoundSql.Binary64
