import BoundSql.Binding.Token
import Mathlib.Tactic.IntervalCases

/-!
# Words as numbers

A word of small letters is read as a number whose digits run from one to
twenty-six. Reading the word with an index gives the index plus one, so no two
indices share a word. Every such word is made of small letters only.
-/

namespace BoundSql.Token

/-- The digit that a small letter is, from one on. There is no digit zero, so no word is another
one with something in front. -/
def place (c : Char) : Nat := c.toNat - 'a'.toNat + 1

/-- The number that a row of letters stands for behind a number already read. Of other
characters it says nothing. -/
def numberFrom (start : Nat) (letters : List Char) : Nat :=
  letters.foldl (fun number c => number * 26 + place c) start

/-- The letters of the alphabet stand for its twenty-six digits. -/
theorem place_letter (index : Nat) : place (letter index) = index % 26 + 1 := by
  have below : index % 26 < 26 := Nat.mod_lt index (by decide)
  unfold letter place
  generalize index % 26 = digit at below
  interval_cases digit <;> rfl

/-- A letter of a word is a small letter. -/
theorem letter_isSmall (index : Nat) : 'a' ≤ letter index ∧ letter index ≤ 'z' := by
  have below : index % 26 < 26 := Nat.mod_lt index (by decide)
  unfold letter
  generalize index % 26 = digit at below
  interval_cases digit <;> decide

/-- The letters put before others stand for the index plus one, and the others
are read behind that.

Induct along the numbering itself. A larger index leaves its last digit as a
letter and goes on with the quotient less one, which is the carry of a numbering
without zero. -/
theorem numberFrom_lettersBefore (index : Nat) (behind : List Char) :
    numberFrom 0 (lettersBefore index behind) = numberFrom (index + 1) behind := by
  induction index, behind using lettersBefore.induct with
  | case1 index behind single =>
    rw [lettersBefore, if_pos single, numberFrom, List.foldl_cons, place_letter,
      Nat.mod_eq_of_lt single, Nat.zero_mul, Nat.zero_add, numberFrom]
  | case2 index behind several inductionHypothesis =>
    have carried : (index / 26 - 1 + 1) * 26 + (index % 26 + 1) = index + 1 := by omega
    rw [lettersBefore, if_neg several, inductionHypothesis, numberFrom, List.foldl_cons,
      place_letter, carried, numberFrom]

/-- Two indices with the same word are one index: the word is read as the index plus one. -/
theorem nth_injective {first second : Nat} (same : nth first = nth second) : first = second := by
  have letters : lettersBefore first [] = lettersBefore second [] :=
    String.ofList_injective (congrArg text same)
  have numbers := congrArg (numberFrom 0) letters
  rw [numberFrom_lettersBefore, numberFrom_lettersBefore] at numbers
  exact Nat.succ.inj numbers

/-- Tokens with the same text are the same token. -/
theorem eq_of_text {first second : Token} (same : first.text = second.text) : first = second := by
  cases first
  cases second
  cases same
  rfl

/-- Letters put before small letters leave only small letters, and at least one. Induct along
the numbering, with the letters behind left arbitrary. -/
theorem lettersBefore_areSmall (index : Nat) (behind : List Char)
    (small : ∀ c ∈ behind, 'a' ≤ c ∧ c ≤ 'z') :
    lettersBefore index behind ≠ [] ∧
      ∀ c ∈ lettersBefore index behind, 'a' ≤ c ∧ c ≤ 'z' := by
  induction index, behind using lettersBefore.induct with
  | case1 index behind single =>
    rw [lettersBefore, if_pos single]
    refine ⟨List.cons_ne_nil _ _, ?_⟩
    intro c member
    rcases List.mem_cons.mp member with rfl | later
    · exact letter_isSmall index
    · exact small c later
  | case2 index behind several inductionHypothesis =>
    rw [lettersBefore, if_neg several]
    apply inductionHypothesis
    intro c member
    rcases List.mem_cons.mp member with rfl | later
    · exact letter_isSmall index
    · exact small c later

end BoundSql.Token
