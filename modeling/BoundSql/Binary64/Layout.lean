import BoundSql.Binary64.Shortest

/-!
# Layouts of floating-point text

Which digits to write is settled by `shortest`; a layout decides where they
stand. Numbers of moderate size are positional and keep a decimal point, all
others have one digit before the point and an exponent.
-/

namespace BoundSql.Binary64

/-- The decisions of a format that writes doubles. The digits are not among them: every layout
writes the fewest that read back, up to the choice between two equally near ones. -/
structure Layout where
  /-- The exponent of the smallest numbers that are written positionally. -/
  firstPositional : Int
  /-- The exponent of the largest numbers that are written positionally. -/
  lastPositional : Int
  /-- What stands before a positive exponent. -/
  positiveExponent : String
  tie : Tie
  nan : String
  infinite : String

/-- Digits with a decimal point after the first `1 + exponent` of them. Zeros fill the places
that the digits do not reach, and at least one digit stands on each side of the point. -/
def positional (digits : List Char) (exponent : Int) : String :=
  if exponent < 0 then
    "0." ++ String.ofList (List.replicate ((-exponent).toNat - 1) '0' ++ digits)
  else
    let whole := exponent.toNat + 1
    let integer := digits.take whole ++ List.replicate (whole - digits.length) '0'
    let rest := digits.drop whole
    String.ofList (integer ++ '.' :: if rest.isEmpty then ['0'] else rest)

/-- Digits with a point after the first one, and an exponent. A single digit has no point, and a
negative exponent brings its own sign. -/
def scientific (positiveExponent : String) (digits : List Char) (exponent : Int) : String :=
  let mantissa := digits.take 1 ++ if digits.length ≤ 1 then [] else '.' :: digits.drop 1
  let power := if exponent < 0 then toString exponent else positiveExponent ++ toString exponent
  String.ofList mantissa ++ "e" ++ power

/-- The text of a double in a layout. A NaN is written without its sign and payload, so
different ones have one text; both zeros and both infinities keep their signs. -/
def Layout.write (layout : Layout) (x : Binary64) : String :=
  if x.isNaN then
    layout.nan
  else
    let sign := if x.isNegative then "-" else ""
    if !x.isFinite then
      sign ++ layout.infinite
    else if x.isZero then
      sign ++ "0.0"
    else
      let decimal := x.shortest layout.tie
      let digits := Nat.toDigits 10 decimal.digits
      let exponent := decimal.exponent + (digits.length : Int) - 1
      if layout.firstPositional ≤ exponent ∧ exponent ≤ layout.lastPositional then
        sign ++ positional digits exponent
      else
        sign ++ scientific layout.positiveExponent digits exponent

end BoundSql.Binary64
