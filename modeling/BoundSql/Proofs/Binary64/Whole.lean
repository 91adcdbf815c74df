import BoundSql.Binary64.Basic
import Mathlib.Algebra.Order.Field.Rat
import Mathlib.Algebra.Order.Field.Power
import Mathlib.Tactic.Positivity
import Mathlib.Tactic.Linarith

/-!
# Whole doubles

A finite double is a rational number: its significand in the unit of its scale,
with a sign. It is read as an integer exactly if that number is one; neither
rounding nor truncation happens on the way.
-/

namespace BoundSql.Binary64

/-- The magnitude of a finite double. For NaN and the infinities it is a rational number too,
but not one that means anything. -/
def magnitude (x : Binary64) : ℚ := x.significand * 2 ^ x.scale

/-- The number that a finite double is. Both zeros are the number zero, so the number does not
give the bits back. -/
def value (x : Binary64) : ℚ := if x.isNegative then -x.magnitude else x.magnitude

/-- The natural number that a magnitude is, if it is one. Below the point only zeros may stand,
so nothing is cut off. -/
def wholeMagnitude? (x : Binary64) : Option Nat :=
  if 0 ≤ x.scale then
    some (x.significand * twoTo x.scale.toNat)
  else if x.significand % twoTo (-x.scale).toNat = 0 then
    some (x.significand / twoTo (-x.scale).toNat)
  else
    none

/-- A double is read as an integer by its magnitude and its sign. -/
theorem toInt?_eq (x : Binary64) : x.toInt? =
    if x.isFinite then
      x.wholeMagnitude?.map fun (magnitude : Nat) =>
        if x.isNegative then -(magnitude : Int) else magnitude
    else none := by
  change (if x.isFinite then
    (x.wholeMagnitude?.bind fun magnitude => some (magnitude : Int)).map fun magnitude =>
      if x.isNegative then -magnitude else magnitude
    else none) = _
  cases x.wholeMagnitude? <;> rfl

/-- A magnitude is not negative. -/
theorem magnitude_nonneg (x : Binary64) : 0 ≤ x.magnitude := by
  unfold magnitude
  positivity

/-- A magnitude is read as a natural number exactly if it is that number. The cases are the sign
of the scale: a unit of one or more makes every magnitude whole. -/
theorem wholeMagnitude?_eq_some_iff {x : Binary64} {whole : Nat} :
    x.wholeMagnitude? = some whole ↔ x.magnitude = whole := by
  unfold wholeMagnitude? magnitude twoTo
  generalize x.significand = significand
  generalize x.scale = scale
  by_cases large : 0 ≤ scale
  · obtain ⟨places, rfl⟩ := Int.eq_ofNat_of_zero_le large
    rw [if_pos large, Option.some_inj]
    simp only [Int.toNat_natCast, zpow_natCast, Nat.pow_eq]
    norm_cast
  · obtain ⟨places, rfl⟩ : ∃ places : Nat, scale = -(places : Int) := ⟨(-scale).toNat, by omega⟩
    have unit : 0 < 2 ^ places := by positivity
    rw [if_neg large]
    simp only [neg_neg, Int.toNat_natCast, zpow_neg, zpow_natCast, Nat.pow_eq]
    have whole_iff : (significand : ℚ) * ((2 : ℚ) ^ places)⁻¹ = whole ↔
        significand = whole * 2 ^ places := by
      rw [← div_eq_mul_inv, div_eq_iff (by positivity)]
      norm_cast
    rw [whole_iff]
    by_cases divides : significand % 2 ^ places = 0
    · rw [if_pos divides, Option.some_inj]
      have parts := Nat.div_add_mod' significand (2 ^ places)
      constructor
      · intro quotient
        rw [← quotient]
        omega
      · intro product
        rw [product, Nat.mul_div_cancel _ unit]
    · rw [if_neg divides]
      constructor
      · intro impossible
        cases impossible
      · intro product
        exact absurd (by rw [product, Nat.mul_mod_left]) divides

/-- A double is read as an integer exactly if it is finite and is that number. The integer may
have any size; whether it fits a word is asked elsewhere. -/
theorem toInt?_eq_some_iff {x : Binary64} {whole : Int} :
    x.toInt? = some whole ↔ x.isFinite = true ∧ x.value = whole := by
  have nonneg := x.magnitude_nonneg
  rw [toInt?_eq]
  by_cases finite : x.isFinite = true
  · simp only [finite, if_true, true_and, Option.map_eq_some_iff, wholeMagnitude?_eq_some_iff]
    unfold value
    by_cases negative : x.isNegative = true
    · simp only [negative, if_true]
      constructor
      · rintro ⟨magnitude, same, rfl⟩
        rw [same]
        norm_cast
      · intro same
        have sign : whole ≤ 0 := by
          have below : (whole : ℚ) ≤ 0 := by linarith
          exact_mod_cast below
        obtain ⟨magnitude, rfl⟩ : ∃ magnitude : Nat, whole = -(magnitude : Int) :=
          ⟨(-whole).toNat, by omega⟩
        push_cast at same
        exact ⟨magnitude, by linarith, rfl⟩
    · simp only [negative, Bool.false_eq_true, if_false]
      constructor
      · rintro ⟨magnitude, same, rfl⟩
        rw [same]
        norm_cast
      · intro same
        have sign : 0 ≤ whole := by
          have above : (0 : ℚ) ≤ whole := by linarith
          exact_mod_cast above
        obtain ⟨magnitude, rfl⟩ := Int.eq_ofNat_of_zero_le sign
        exact ⟨magnitude, by exact_mod_cast same, rfl⟩
  · simp [finite]

/-- A double that is a whole number has the magnitude of that number. -/
theorem magnitude_of_value {x : Binary64} {whole : Int} (known : x.value = whole) :
    x.magnitude = whole.natAbs := by
  have nonneg := x.magnitude_nonneg
  unfold value at known
  rw [Nat.cast_natAbs]
  by_cases negative : x.isNegative = true
  · rw [if_pos negative] at known
    have sign : whole ≤ 0 := by
      have below : (whole : ℚ) ≤ 0 := by linarith
      exact_mod_cast below
    rw [abs_of_nonpos sign, Int.cast_neg]
    linarith
  · rw [if_neg negative] at known
    have sign : 0 ≤ whole := by
      have above : (0 : ℚ) ≤ whole := by linarith
      exact_mod_cast above
    rw [abs_of_nonneg sign]
    exact known

end BoundSql.Binary64
