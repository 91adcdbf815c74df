import BoundSql.Text.Digits
import Mathlib.Tactic.IntervalCases

/-!
# Written numerals

What the library writes as a numeral, its own reader gives back: leading zeros
count for nothing and every digit has its value. Two numerals of one base are
therefore equal only if their numbers are, whatever widths they were padded to.

A numeral also ends by itself. Its characters are digits of base sixteen at
most, so a colon, a hyphen or a bracket behind it cannot be one of its own.
-/

namespace BoundSql.Text

/-- Whether a character can stand in a numeral of any base up to sixteen. -/
def isNumeralChar (c : Char) : Bool := (digitValue? 16 c).isSome

/-- The digit that a number is written with has that number as its value. -/
theorem digitValue?_digitChar {base digit : Nat} (small : base ≤ 16) (below : digit < base) :
    digitValue? base digit.digitChar = some digit := by
  have inTable : digit < 16 := Nat.lt_of_lt_of_le below small
  interval_cases digit <;> simp_all [digitValue?, Nat.digitChar]

/-- Reading one row of digits behind a number already read: the number moves up
by as many places as the row is long.

Induct over the number's digits from the last one. A number below the base is
its own digit; any other is the quotient's row with one digit behind it. -/
theorem foldlM_toDigits {base : Nat} (large : 1 < base) (small : base ≤ 16) (value start : Nat) :
    (Nat.toDigits base value).foldlM
        (fun read c => (digitValue? base c).map (read * base + ·)) start =
      some (start * base ^ (Nat.toDigits base value).length + value) := by
  induction value using Nat.strongRecOn generalizing start with
  | ind value inductionHypothesis =>
    by_cases single : value < base
    · rw [Nat.toDigits_of_lt_base single]
      simp [digitValue?_digitChar small single]
    · have reaches : base ≤ value := Nat.le_of_not_lt single
      have smaller : value / base < value := Nat.div_lt_self (by omega) large
      have last : value % base < base := Nat.mod_lt value (by omega)
      rw [Nat.toDigits_of_base_le large reaches, List.foldlM_append,
        inductionHypothesis (value / base) smaller start]
      simp only [Option.bind_eq_bind, Option.bind_some, List.foldlM_cons, List.foldlM_nil,
        digitValue?_digitChar small last, Option.map_some, List.length_append,
        List.length_singleton, Nat.pow_succ]
      have parts : value / base * base + value % base = value := Nat.div_add_mod' value base
      congr 1
      rw [Nat.add_mul, Nat.add_assoc, parts, Nat.mul_assoc]

/-- Zeros in front leave nothing read: the number read so far is zero and stays so. -/
theorem foldlM_replicate_zero {base : Nat} (large : 1 < base) (count : Nat) :
    (List.replicate count '0').foldlM
      (fun read c => (digitValue? base c).map (read * base + ·)) 0 = some 0 := by
  have zero : digitValue? base '0' = some 0 := by
    simp [digitValue?, Option.filter, Nat.lt_trans Nat.zero_lt_one large]
  induction count with
  | zero => rfl
  | succ count inductionHypothesis => simp [List.replicate_succ, zero, inductionHypothesis]

/-- A padded numeral is read as the number it was written for. It is not empty even without
padding, since zero has a digit too. -/
theorem naturalOf?_padLeft_toDigits {base : Nat} (large : 1 < base) (small : base ≤ 16)
    (width value : Nat) :
    naturalOf? base (padLeft '0' width (Nat.toDigits base value)) = some value := by
  have present : (padLeft '0' width (Nat.toDigits base value)).isEmpty = false := by
    simp [padLeft]
  rw [naturalOf?, present, if_neg Bool.false_ne_true, padLeft, List.foldlM_append,
    foldlM_replicate_zero large]
  simpa using foldlM_toDigits large small value 0

/-- Padded numerals of one base are equal only if their numbers are, whatever widths they were
padded to. -/
theorem padLeft_toDigits_injective {base : Nat} (large : 1 < base) (small : base ≤ 16)
    {width otherWidth value other : Nat}
    (same : padLeft '0' width (Nat.toDigits base value) =
      padLeft '0' otherWidth (Nat.toDigits base other)) : value = other := by
  have read := naturalOf?_padLeft_toDigits large small width value
  rw [same, naturalOf?_padLeft_toDigits large small otherWidth other] at read
  exact (Option.some.inj read).symm

/-- A numeral without padding is the padded one of width zero. -/
theorem padLeft_zero (text : List Char) : padLeft '0' 0 text = text := by
  simp [padLeft]

/-- Unpadded numerals of one base are equal only if their numbers are. -/
theorem toDigits_injective {base : Nat} (large : 1 < base) (small : base ≤ 16) {value other : Nat}
    (same : Nat.toDigits base value = Nat.toDigits base other) : value = other := by
  rw [← padLeft_zero (Nat.toDigits base value), ← padLeft_zero (Nat.toDigits base other)] at same
  exact padLeft_toDigits_injective large small same

/-- A digit of a smaller base is one of base sixteen. -/
theorem isNumeralChar_digitChar {digit : Nat} (below : digit < 16) :
    isNumeralChar digit.digitChar = true := by
  rw [isNumeralChar, digitValue?_digitChar (Nat.le_refl 16) below]
  rfl

/-- A numeral consists of numeral characters. -/
theorem isNumeralChar_of_mem_toDigits {base value : Nat} (large : 1 < base) (small : base ≤ 16)
    {c : Char} (member : c ∈ Nat.toDigits base value) : isNumeralChar c = true := by
  induction value using Nat.strongRecOn with
  | ind value inductionHypothesis =>
    by_cases single : value < base
    · rw [Nat.toDigits_of_lt_base single, List.mem_singleton] at member
      exact member ▸ isNumeralChar_digitChar (Nat.lt_of_lt_of_le single small)
    · have reaches : base ≤ value := Nat.le_of_not_lt single
      have smaller : value / base < value := Nat.div_lt_self (by omega) large
      have last : value % base < 16 := Nat.lt_of_lt_of_le (Nat.mod_lt value (by omega)) small
      rw [Nat.toDigits_of_base_le large reaches, List.mem_append, List.mem_singleton] at member
      rcases member with earlier | rfl
      · exact inductionHypothesis (value / base) smaller earlier
      · exact isNumeralChar_digitChar last

/-- Padding adds numeral characters only. -/
theorem isNumeralChar_of_mem_padLeft {base width value : Nat} (large : 1 < base)
    (small : base ≤ 16) {c : Char}
    (member : c ∈ padLeft '0' width (Nat.toDigits base value)) : isNumeralChar c = true := by
  rcases List.mem_append.mp member with zero | digit
  · rw [List.eq_of_mem_replicate zero]
    rfl
  · exact isNumeralChar_of_mem_toDigits large small digit

/-- An integer is written as its magnitude, behind a sign if it is negative. -/
theorem toList_toString_int (value : Int) :
    (toString value).toList =
      (if value < 0 then ['-'] else []) ++ Nat.toDigits 10 value.natAbs := by
  rw [Int.toString_eq_repr, Int.repr_eq_if]
  by_cases negative : value < 0
  · have magnitude : (-value).toNat = value.natAbs := by omega
    simp [negative, Int.not_le.mpr negative, magnitude]
  · have magnitude : value.toNat = value.natAbs := by omega
    simp [negative, Int.not_lt.mp negative, magnitude]

end BoundSql.Text
