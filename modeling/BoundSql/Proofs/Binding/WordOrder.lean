import BoundSql.Proofs.Binding.Numbering
import Mathlib.Data.List.Induction

/-!
# Words in the order of their numbers

The number that a word stands for grows with the word: it is smaller for a shorter
word, and among words of one length for the one that comes first in the alphabet.
Every word of small letters stands for a number, and the token with that number is
spelled by it. So tokens run through all words, each once, shorter ones first.
-/

namespace BoundSql.Token

/-- A word of small letters. The empty text is none. -/
def IsWord (letters : List Char) : Prop :=
  letters ≠ [] ∧ ∀ c ∈ letters, 'a' ≤ c ∧ c ≤ 'z'

/-- The letters put before others for an index, one step at a time. One is taken
from a quotient only where there is one to take. -/
inductive Spells : Nat → List Char → List Char → Prop
  | last (index : Nat) (behind : List Char) (single : index < 26) :
      Spells index behind (letter index :: behind)
  | carry (index quotient : Nat) (behind letters : List Char) (several : ¬ index < 26)
      (taken : index / 26 = quotient + 1)
      (rest : Spells quotient (letter index :: behind) letters) : Spells index behind letters

/-- The numbering comes to its end from every index, and never takes one from
nothing: an index of at least 26 has a quotient of at least one. -/
theorem spells_lettersBefore (index : Nat) (behind : List Char) :
    Spells index behind (lettersBefore index behind) := by
  induction index, behind using lettersBefore.induct with
  | case1 index behind single =>
    rw [lettersBefore, if_pos single]
    exact .last index behind single
  | case2 index behind several inductionHypothesis =>
    have taken : index / 26 = index / 26 - 1 + 1 := by omega
    rw [lettersBefore, if_neg several]
    exact .carry index (index / 26 - 1) behind _ several taken inductionHypothesis

/-! ## Every word is spelled -/

section Letters

variable {c : Char}

/-- A small letter is one of the digits from one to twenty-six. -/
theorem place_bounds (small : 'a' ≤ c ∧ c ≤ 'z') : 1 ≤ place c ∧ place c ≤ 26 := by
  have first : 97 ≤ c.toNat := small.1
  have last : c.toNat ≤ 122 := small.2
  have start : 'a'.toNat = 97 := rfl
  unfold place
  omega

/-- The letter with a small letter's digit is that letter. -/
theorem letter_place (small : 'a' ≤ c ∧ c ≤ 'z') : letter (place c - 1) = c := by
  have first : 97 ≤ c.toNat := small.1
  have last : c.toNat ≤ 122 := small.2
  have start : 'a'.toNat = 97 := rfl
  have code : 'a'.toNat + (place c - 1) % 26 = c.toNat := by
    unfold place
    omega
  rw [letter, code, Char.ofNat_toNat]

end Letters

/-- A letter in front of others is one more digit behind the number before them. -/
theorem numberFrom_cons (start : Nat) (c : Char) (rest : List Char) :
    numberFrom start (c :: rest) = numberFrom (start * 26 + place c) rest := rfl

/-- A letter behind others is one more digit, and the last one of the number. -/
theorem numberFrom_concat (start : Nat) (letters : List Char) (c : Char) :
    numberFrom start (letters ++ [c]) = numberFrom start letters * 26 + place c := by
  rw [numberFrom, List.foldl_append]
  rfl

/-- Letters only add to the number before them. -/
theorem le_numberFrom (start : Nat) (letters : List Char) : start ≤ numberFrom start letters := by
  induction letters generalizing start with
  | nil => exact Nat.le_refl start
  | cons c rest inductionHypothesis =>
    have grown : start ≤ start * 26 + place c := by omega
    exact grown.trans (inductionHypothesis (start * 26 + place c))

/-- A word stands for no number below one. -/
theorem IsWord.numberFrom_pos {letters : List Char} (word : IsWord letters) :
    0 < numberFrom 0 letters := by
  cases letters with
  | nil => exact absurd rfl word.1
  | cons c rest =>
    have first := (place_bounds (word.2 c List.mem_cons_self)).1
    have others := le_numberFrom (0 * 26 + place c) rest
    rw [numberFrom_cons]
    omega

/-- A word is spelled by the number it stands for, less one.

Induct from the last letter: the carry leaves the number of the word before it,
again less one. -/
theorem lettersBefore_numberFrom {letters : List Char} (word : IsWord letters)
    (behind : List Char) : lettersBefore (numberFrom 0 letters - 1) behind = letters ++ behind := by
  induction letters using List.reverseRecOn generalizing behind with
  | nil => exact absurd rfl word.1
  | append_singleton earlier last inductionHypothesis =>
    have small := word.2 last (by simp)
    obtain ⟨low, high⟩ := place_bounds small
    rw [numberFrom_concat]
    by_cases single : earlier = []
    · subst single
      have index : numberFrom 0 [] * 26 + place last - 1 = place last - 1 := by
        simp [numberFrom]
      rw [index, lettersBefore, if_pos (by omega), letter_place small]
      rfl
    · have others : IsWord earlier :=
        ⟨single, fun c member => word.2 c (List.mem_append_left [last] member)⟩
      have positive := others.numberFrom_pos
      have quotient : (numberFrom 0 earlier * 26 + place last - 1) / 26 - 1 =
          numberFrom 0 earlier - 1 := by omega
      have digit : (numberFrom 0 earlier * 26 + place last - 1) % 26 = (place last - 1) % 26 := by
        omega
      have same : letter (numberFrom 0 earlier * 26 + place last - 1) = last := by
        rw [letter, digit, ← letter, letter_place small]
      rw [lettersBefore, if_neg (by omega), quotient, same, inductionHypothesis others,
        List.append_assoc]
      rfl

/-! ## Numbers grow with the words -/

section Order

variable {first second : List Char}

/-- A smaller number in front decides, whatever as many letters follow: the digits behind cannot
make up for a difference of one in front. -/
theorem numberFrom_lt_of_lt {start other : Nat} (length : first.length = second.length)
    (firstSmall : ∀ c ∈ first, 'a' ≤ c ∧ c ≤ 'z') (secondSmall : ∀ c ∈ second, 'a' ≤ c ∧ c ≤ 'z')
    (smaller : start < other) : numberFrom start first < numberFrom other second := by
  induction first generalizing second start other with
  | nil =>
    obtain rfl := List.eq_nil_of_length_eq_zero length.symm
    exact smaller
  | cons c rest inductionHypothesis =>
    cases second with
    | nil => cases length
    | cons d others =>
      obtain ⟨here, later⟩ := List.forall_mem_cons.mp firstSmall
      obtain ⟨there, further⟩ := List.forall_mem_cons.mp secondSmall
      have digit := (place_bounds here).2
      have otherDigit := (place_bounds there).1
      have carried : start * 26 + place c < other * 26 + place d := by omega
      have remaining : rest.length = others.length := Nat.succ.inj length
      rw [numberFrom_cons, numberFrom_cons]
      exact inductionHypothesis remaining later further carried

/-- Among words of one length the one that comes first in the alphabet stands for the smaller
number. Induct over the words: equal letters go on, and the first that differ decide. -/
theorem numberFrom_lt_of_alphabetical (length : first.length = second.length)
    (firstSmall : ∀ c ∈ first, 'a' ≤ c ∧ c ≤ 'z') (secondSmall : ∀ c ∈ second, 'a' ≤ c ∧ c ≤ 'z')
    (alphabetical : first < second) (start : Nat) :
    numberFrom start first < numberFrom start second := by
  induction first generalizing second start with
  | nil =>
    obtain rfl := List.eq_nil_of_length_eq_zero length.symm
    exact absurd alphabetical (List.lt_irrefl [])
  | cons c rest inductionHypothesis =>
    cases second with
    | nil => cases length
    | cons d others =>
      obtain ⟨here, later⟩ := List.forall_mem_cons.mp firstSmall
      obtain ⟨there, further⟩ := List.forall_mem_cons.mp secondSmall
      have remaining : rest.length = others.length := Nat.succ.inj length
      rw [numberFrom_cons, numberFrom_cons]
      obtain before | ⟨rfl, behind⟩ := List.cons_lt_cons_iff.mp alphabetical
      · have digits : place c < place d := by
          have codes : c.toNat < d.toNat := before
          have low : 97 ≤ c.toNat := here.1
          have base : 'a'.toNat = 97 := rfl
          unfold place
          omega
        have carried : start * 26 + place c < start * 26 + place d := by omega
        exact numberFrom_lt_of_lt remaining later further carried
      · exact inductionHypothesis remaining later further behind _

/-- A shorter word stands for the smaller number: the letters by which the other
one is longer stand for a number in front. -/
theorem numberFrom_lt_of_shorter (firstSmall : ∀ c ∈ first, 'a' ≤ c ∧ c ≤ 'z')
    (secondSmall : ∀ c ∈ second, 'a' ≤ c ∧ c ≤ 'z') (shorter : first.length < second.length) :
    numberFrom 0 first < numberFrom 0 second := by
  generalize excess_eq : second.length - first.length = excess
  have parts := List.take_append_drop excess second
  have front : IsWord (second.take excess) := by
    refine ⟨?_, fun c member => secondSmall c (List.mem_of_mem_take member)⟩
    rw [ne_eq, List.take_eq_nil_iff, not_or]
    exact ⟨by omega, List.ne_nil_of_length_pos (by omega)⟩
  have length : first.length = (second.drop excess).length := by
    rw [List.length_drop]
    omega
  have split : numberFrom 0 second =
      numberFrom (numberFrom 0 (second.take excess)) (second.drop excess) := by
    conv_lhs => rw [← parts, numberFrom, List.foldl_append]
    rfl
  rw [split]
  exact numberFrom_lt_of_lt length firstSmall
    (fun c member => secondSmall c (List.mem_of_mem_drop member)) front.numberFrom_pos

end Order

/-- The word of a token. -/
theorem toList_text_nth (index : Nat) : (nth index).text.toList = lettersBefore index [] :=
  String.toList_ofList

/-- A token is a word. -/
theorem isWord_text_nth (index : Nat) : IsWord (nth index).text.toList := by
  rw [toList_text_nth]
  exact lettersBefore_areSmall index [] fun c member => by cases member

/-- The word of a token stands for the index plus one. -/
theorem numberFrom_text_nth (index : Nat) : numberFrom 0 (nth index).text.toList = index + 1 := by
  rw [toList_text_nth, numberFrom_lettersBefore]
  rfl

/-- A text comes before another one: it is shorter, or as long and earlier in the
alphabet. -/
def Precedes (first second : String) : Prop :=
  first.length < second.length ∨ first.length = second.length ∧ first < second

/-- Of two tokens, the one whose word comes first has the smaller index. The converse follows
because different words come one before the other. -/
theorem lt_of_precedes {first second : Nat} (before : Precedes (nth first).text (nth second).text) :
    first < second := by
  have firstSmall := (isWord_text_nth first).2
  have secondSmall := (isWord_text_nth second).2
  have numbers : numberFrom 0 (nth first).text.toList < numberFrom 0 (nth second).text.toList := by
    obtain shorter | ⟨length, alphabetical⟩ := before
    · exact numberFrom_lt_of_shorter firstSmall secondSmall
        (by rwa [String.length_toList, String.length_toList])
    · exact numberFrom_lt_of_alphabetical (by rwa [String.length_toList, String.length_toList])
        firstSmall secondSmall (String.lt_iff.mp alphabetical) 0
  rw [numberFrom_text_nth, numberFrom_text_nth] at numbers
  exact Nat.lt_of_succ_lt_succ numbers

/-- Different texts come one before the other. -/
theorem precedes_or_precedes {first second : String} (different : first ≠ second) :
    Precedes first second ∨ Precedes second first := by
  rcases Nat.lt_trichotomy first.length second.length with shorter | length | longer
  · exact Or.inl (Or.inl shorter)
  · rcases Std.lt_trichotomy first second with before | same | behind
    · exact Or.inl (Or.inr ⟨length, before⟩)
    · exact absurd same different
    · exact Or.inr (Or.inr ⟨length.symm, behind⟩)
  · exact Or.inr (Or.inl longer)

/-- The numbering of tokens is an order isomorphism onto the words of small
letters. From every index it comes to an end without taking one from nothing and
gives a word; every word belongs to exactly one index; and a smaller index is the
same as a shorter word, or one as long and earlier in the alphabet. -/
theorem nth_numbers_words :
    (∀ index, Spells index [] (nth index).text.toList ∧ IsWord (nth index).text.toList) ∧
      (∀ word : String, IsWord word.toList → ∃! index, (nth index).text = word) ∧
      ∀ first second, first < second ↔ Precedes (nth first).text (nth second).text := by
  refine ⟨fun index => ⟨?_, isWord_text_nth index⟩, ?_, ?_⟩
  · rw [toList_text_nth]
    exact spells_lettersBefore index []
  · intro word isWord
    have spelled : (nth (numberFrom 0 word.toList - 1)).text = word := by
      rw [← String.toList_inj, toList_text_nth, lettersBefore_numberFrom isWord, List.append_nil]
    refine ⟨_, spelled, fun index same => ?_⟩
    exact nth_injective (eq_of_text (same.trans spelled.symm))
  · intro first second
    constructor
    · intro smaller
      have different : (nth first).text ≠ (nth second).text :=
        fun same => Nat.ne_of_lt smaller (nth_injective (eq_of_text same))
      refine (precedes_or_precedes different).resolve_right fun behind => ?_
      exact Nat.lt_asymm smaller (lt_of_precedes behind)
    · exact lt_of_precedes

end BoundSql.Token
