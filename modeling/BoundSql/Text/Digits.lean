/-!
# Numbers in text

Writing with a least width, and reading the numerals of configuration values,
counts and date components: ASCII digits behind an optional sign, with any
number of leading zeros. Reading never wraps: a numeral outside the asked range
is refused.
-/

namespace BoundSql.Text

/-- A text with enough copies of `fill` in front to be `width` characters long. A text that is
longer stays as it is; nothing is ever cut off. -/
def padLeft (fill : Char) (width : Nat) (text : List Char) : List Char :=
  List.replicate (width - text.length) fill ++ text

/-- A decimal numeral of at least `width` digits. The width is only ever a lower bound, so no
digit of the number is lost. -/
def decimal (width : Nat) (value : Nat) : String :=
  String.ofList (padLeft '0' width (Nat.toDigits 10 value))

/-- A hexadecimal numeral of at least `width` digits, in small letters. As with decimals the
width is a lower bound. -/
def hexadecimal (width : Nat) (value : Nat) : String :=
  String.ofList (padLeft '0' width (Nat.toDigits 16 value))

/-- The value of a character as a digit of a base up to sixteen. Only ASCII digits and letters
count, in either case; digits of other scripts do not. -/
def digitValue? (base : Nat) (c : Char) : Option Nat :=
  let value? :=
    if '0' ≤ c ∧ c ≤ '9' then some (c.toNat - '0'.toNat)
    else if 'a' ≤ c ∧ c ≤ 'f' then some (c.toNat - 'a'.toNat + 10)
    else if 'A' ≤ c ∧ c ≤ 'F' then some (c.toNat - 'A'.toNat + 10)
    else none
  value?.filter (· < base)

/-- The number that a non-empty row of digits stands for. The row may be as long as it likes, as
the number is not bounded here; who needs a bound asks for it afterwards. -/
def naturalOf? (base : Nat) (digits : List Char) : Option Nat :=
  if digits.isEmpty then
    none
  else
    digits.foldlM (fun value c => (digitValue? base c).map (value * base + ·)) 0

/-- The number of hexadecimal digits behind a letter that announces a code point. Other letters
announce none. -/
def codeLength? : Char → Option Nat
  | 'x' => some 2
  | 'u' => some 4
  | 'U' => some 8
  | _ => none

/-- The character with a code point written in hexadecimal. Surrogates and numbers above the
last code point stand for no character and are refused. -/
def charOfHex? (digits : List Char) : Option Char := do
  let code ← naturalOf? 16 digits
  if (0xD800 ≤ code ∧ code ≤ 0xDFFF) ∨ 0x10FFFF < code then none else some (Char.ofNat code)

/-- A decimal natural number behind an optional plus sign. A minus sign is refused, in front of
zero as well. -/
def unsigned? : List Char → Option Nat
  | '+' :: digits => naturalOf? 10 digits
  | digits => naturalOf? 10 digits

/-- A decimal integer behind an optional sign. One sign at most is read, and there may be no
blank on either side of it. -/
def signed? : List Char → Option Int
  | '+' :: digits => (naturalOf? 10 digits).map Int.ofNat
  | '-' :: digits => (naturalOf? 10 digits).map fun value => -(value : Int)
  | digits => (naturalOf? 10 digits).map Int.ofNat

/-- A numeral of a natural number below `bound`. The number is read in full and compared then,
so a numeral too large for the range is refused and not wrapped. -/
def unsignedBelow? (bound : Nat) (text : String) : Option Nat :=
  (unsigned? text.toList).filter (· < bound)

/-- An integer that fits a signed 64-bit word. The conversion is only made inside the range,
where it loses nothing. -/
def int64OfInt? (value : Int) : Option Int64 :=
  if -0x8000000000000000 ≤ value ∧ value < 0x8000000000000000 then
    some (Int64.ofInt value)
  else
    none

/-- A numeral of a signed 64-bit word. Blanks are not taken off here; who allows them trims the
text before. -/
def int64? (text : List Char) : Option Int64 :=
  (signed? text).bind int64OfInt?

end BoundSql.Text
