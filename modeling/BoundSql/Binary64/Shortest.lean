import BoundSql.Binary64.Basic

/-!
# The fewest digits that read back

Every finite double is the nearest one to a whole interval of reals. The
shortest decimal in that interval is found by trying one digit, two digits and
so on up to seventeen: on the grid of each length only the two neighbours of
the number itself can be the best choice. All arithmetic is on natural numbers,
so the choice is exact. Which of two equally near neighbours is taken is a
decision of the format that writes them.
-/

namespace BoundSql.Binary64

/-- What is taken of two neighbours at the same distance. Both read back as the same double, so
this is a matter of the text alone. -/
inductive Tie
  | toEven
  | up
deriving DecidableEq

/-- A natural number of units of a power of ten. One number has many such forms; zeros at the
end are only dropped where it is said. -/
structure Decimal where
  digits : Nat
  exponent : Int
deriving DecidableEq

/-- The reals that round to a positive finite number, over one denominator. The ends belong to the
interval when the significand is even. -/
structure Interval where
  lower : Nat
  middle : Nat
  upper : Nat
  denominator : Nat
  closed : Bool

/-- The rounding interval. It reaches half a unit to each side, but only a quarter of a unit below a
power of two, where the smaller numbers lie twice as dense. -/
def interval (x : Binary64) : Interval :=
  let quarter := x.scale - 2
  let factor := twoTo quarter.toNat
  let below := if x.fraction = 0 ∧ 1 < x.exponentField then 1 else 2
  { lower := (4 * x.significand - below) * factor
    middle := 4 * x.significand * factor
    upper := (4 * x.significand + 2) * factor
    denominator := twoTo (-quarter).toNat
    closed := x.significand % 2 == 0 }

/-- The number of decimal digits of a natural number; zero has none, since it has no significant
one. -/
def digitCount (value : Nat) : Nat :=
  if value = 0 then 0 else (Nat.toDigits 10 value).length

/-- The exponent of the first significant digit of a positive quotient. No logarithm is taken:
the digits of the whole part, or of the reciprocal, are counted. -/
def leadingExponent (numerator denominator : Nat) : Int :=
  if denominator ≤ numerator then
    (digitCount (numerator / denominator) : Int) - 1
  else
    -(digitCount ((denominator + numerator - 1) / numerator - 1) : Int)

/-- The best multiple of a power of ten in the interval, if one of the two neighbours of the
middle lies in it. If both do, the nearer one is taken, and the tie decides only at equal
distance. -/
def Interval.onGrid? (reals : Interval) (tie : Tie) (exponent : Int) : Option Nat :=
  let unit := tenTo exponent.toNat * reals.denominator
  let shift := tenTo (-exponent).toNat
  let inside (candidate : Nat) : Bool :=
    let position := candidate * unit
    if reals.closed then
      decide (reals.lower * shift ≤ position) && decide (position ≤ reals.upper * shift)
    else
      decide (reals.lower * shift < position) && decide (position < reals.upper * shift)
  let middle := reals.middle * shift
  let below := middle / unit
  let above := below + 1
  match inside below, inside above with
  | false, false => none
  | true, false => some below
  | false, true => some above
  | true, true =>
    let fromBelow := middle - below * unit
    let fromAbove := above * unit - middle
    if fromBelow < fromAbove then some below
    else if fromAbove < fromBelow then some above
    else match tie with
      | .toEven => some (if below % 2 = 0 then below else above)
      | .up => some above

/-- The same decimal without zeros at the end of its digits; `fuel` bounds their number. The
value never changes, so too little fuel would only leave zeros. -/
def Decimal.dropZeros : Nat → Decimal → Decimal
  | 0, decimal => decimal
  | fuel + 1, decimal =>
    if decimal.digits ≠ 0 ∧ decimal.digits % 10 = 0 then
      dropZeros fuel ⟨decimal.digits / 10, decimal.exponent + 1⟩
    else
      decimal

/-- The shortest decimal that reads back as a positive finite number, nearest to it among those of
its length. Seventeen digits always suffice. -/
def shortest (tie : Tie) (x : Binary64) : Decimal :=
  let reals := x.interval
  let leading := leadingExponent reals.middle reals.denominator
  let found := (List.range 17).findSome? fun (extra : Nat) =>
    let exponent := leading - (extra : Int)
    (reals.onGrid? tie exponent).map fun digits => Decimal.mk digits exponent
  (found.getD ⟨x.significand, x.scale⟩).dropZeros 18

end BoundSql.Binary64
