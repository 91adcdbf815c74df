import BoundSql.Proofs.Binding.Appearance
import BoundSql.Proofs.Value.Fingerprint
import Mathlib.Data.List.Induction

/-!
# Tokens show only which values are equal

On a fresh registry a token is the number of its value among the different
values taken so far. So the row of tokens does not depend on what the values
are: two rows of values that repeat themselves at the same places get the same
tokens.
-/

namespace BoundSql

/-- Two rows repeat themselves at the same places. What stands at the places is not compared, so
the rows may be of different kinds. -/
def RepeatAlike {α β : Type} (first : List α) (second : List β) : Prop :=
  ∀ i j, i < first.length → j < first.length →
    (first[i]? = first[j]? ↔ second[i]? = second[j]?)

namespace RepeatAlike

variable {α β γ δ : Type} {first : List α} {second : List β}

/-- Things may be renamed if different ones get different names. Only the things in the two rows
must be told apart. -/
theorem map {name : α → γ} {other : β → δ} (alike : RepeatAlike first second)
    (length : first.length = second.length)
    (apart : ∀ x ∈ first, ∀ y ∈ first, name x = name y → x = y)
    (otherApart : ∀ x ∈ second, ∀ y ∈ second, other x = other y → x = y) :
    RepeatAlike (first.map name) (second.map other) := by
  intro i j below beneath
  rw [List.length_map] at below beneath
  have same := alike i j below beneath
  have reached : i < second.length := length ▸ below
  have attained : j < second.length := length ▸ beneath
  simp only [List.getElem?_map, List.getElem?_eq_getElem, below, beneath, reached, attained,
    Option.map_some, Option.some.injEq] at same ⊢
  constructor
  · intro equal
    rw [same.mp (apart _ (List.getElem_mem below) _ (List.getElem_mem beneath) equal)]
  · intro equal
    rw [same.mpr (otherApart _ (List.getElem_mem reached) _ (List.getElem_mem attained) equal)]

/-- Rows that repeat themselves alike do so without their last things, if they are equally long. -/
theorem dropLast {last : α} {final : β} (length : first.length = second.length)
    (alike : RepeatAlike (first ++ [last]) (second ++ [final])) : RepeatAlike first second := by
  intro i j below beneath
  have whole := alike i j (by simp; omega) (by simp; omega)
  rwa [List.getElem?_append_left below, List.getElem?_append_left beneath,
    List.getElem?_append_left (length ▸ below), List.getElem?_append_left (length ▸ beneath)]
    at whole

/-- The last thing of one row came before exactly where that of the other did. -/
theorem last_iff {last : α} {final : β} (length : first.length = second.length)
    (alike : RepeatAlike (first ++ [last]) (second ++ [final])) {i : Nat}
    (below : i < first.length) : first[i]? = some last ↔ second[i]? = some final := by
  have whole := alike i first.length (by simp; omega) (by simp)
  have reached : i < second.length := by omega
  have here : (second ++ [final])[first.length]? = some final := by simp [length]
  rwa [List.getElem?_append_left below, List.getElem?_append_left reached,
    List.getElem?_concat_length, here] at whole

end RepeatAlike

/-! ## Numbered rows -/

/-- The tokens of a row, each where it appears first, are numbered from zero. A token may come
again at any later place. -/
def Numbered (tokens : List Token) : Prop :=
  ∃ size, tokens.foldl appear [] = (List.range size).map Token.nth

/-- In a numbered row the tokens before the last one are numbered, and the last
one came before or has the next number. -/
theorem Numbered.last {tokens : List Token} {token : Token}
    (numbered : Numbered (tokens ++ [token])) :
    Numbered tokens ∧ (token ∉ tokens → token = Token.nth (tokens.foldl appear []).length) := by
  obtain ⟨size, whole⟩ := numbered
  rw [List.foldl_append, List.foldl_cons, List.foldl_nil] at whole
  by_cases earlier : token ∈ tokens
  · have known : (tokens.foldl appear []).contains token = true :=
      List.contains_iff_mem.mpr (mem_foldl_appear.mpr (Or.inr earlier))
    rw [appear, if_pos known] at whole
    exact ⟨⟨size, whole⟩, fun new => absurd earlier new⟩
  · have new : ¬ (tokens.foldl appear []).contains token = true := by
      rw [List.contains_iff_mem, mem_foldl_appear]
      simpa using earlier
    rw [appear, if_neg new] at whole
    cases size with
    | zero => simp at whole
    | succ size =>
      rw [List.range_succ, List.map_append, List.map_singleton] at whole
      obtain ⟨before, last⟩ := List.append_inj' whole rfl
      refine ⟨⟨size, before⟩, fun _ => ?_⟩
      rw [before, List.length_map, List.length_range]
      exact List.singleton_inj.mp last

/-- Numbered rows that repeat themselves alike are the same row.

Induct from the end. A last token that came before stands at the same place in
both rows, and a new one has the next number in both. -/
theorem Numbered.eq_of_repeatAlike {first second : List Token}
    (length : first.length = second.length) (numbered : Numbered first)
    (otherNumbered : Numbered second) (alike : RepeatAlike first second) : first = second := by
  induction first using List.reverseRecOn generalizing second with
  | nil => exact (List.eq_nil_of_length_eq_zero length.symm).symm
  | append_singleton tokens token inductionHypothesis =>
    obtain rfl | ⟨others, other, rfl⟩ := List.eq_nil_or_concat' second
    · simp at length
    · have sameLength : tokens.length = others.length := by simpa using length
      obtain ⟨front, next⟩ := numbered.last
      obtain ⟨otherFront, otherNext⟩ := otherNumbered.last
      have last := fun {i} => alike.last_iff (i := i) sameLength
      obtain rfl : tokens = others :=
        inductionHypothesis sameLength front otherFront (alike.dropLast sameLength)
      by_cases earlier : token ∈ tokens
      · obtain ⟨i, below, here⟩ := List.mem_iff_getElem.mp earlier
        have found : tokens[i]? = some token := List.getElem?_eq_some_iff.mpr ⟨below, here⟩
        have also : tokens[i]? = some other := (last below).mp found
        rw [Option.some.inj (found.symm.trans also)]
      · have new : other ∉ tokens := by
          intro member
          obtain ⟨i, below, here⟩ := List.mem_iff_getElem.mp member
          have found : tokens[i]? = some other := List.getElem?_eq_some_iff.mpr ⟨below, here⟩
          exact earlier (List.mem_of_getElem? ((last below).mpr found))
        rw [next earlier, otherNext new]

/-! ## Tokens of a fresh registry -/

namespace Registry

variable {after : Registry} {values : List Value}

/-- The tokens of the values that a fresh registry has grown by are numbered. On a used registry
they need not be: a value may be known there by an earlier token. -/
theorem GrowsBy.numbered (grown : GrowsBy empty values after) :
    Numbered (values.map after.tokenOf) := by
  have settled : after.Consistent := Grows.consistent ⟨_, grown⟩ consistent_empty
  have given : after.parameters.tokens = (values.map after.tokenOf).foldl appear [] :=
    grown.tokens_eq consistent_empty
  exact ⟨after.size, given.symm.trans settled.numbered⟩

/-- Values that a registry has grown by share a token only if they are equal, as
far as their digests are apart. -/
theorem GrowsBy.eq_of_tokenOf {before : Registry} (grown : GrowsBy before values after)
    (consistent : before.Consistent) (apart : Value.DigestsApart values) :
    ∀ one ∈ values, ∀ other ∈ values, after.tokenOf one = after.tokenOf other → one = other := by
  intro one member other alsoMember same
  have settled : after.Consistent := Grows.consistent ⟨_, grown⟩ consistent
  have fingerprints : one.fingerprint = other.fingerprint :=
    (settled.tokenOf_eq_iff (grown.known_of_mem member) other).mp same
  exact Value.eq_of_fingerprint apart member alsoMember fingerprints

/-- Two fresh registries give the same tokens to rows of values that repeat
themselves alike, as far as the digests within each row are apart. -/
theorem tokens_of_repeatAlike {first second : Registry} {others : List Value}
    (grown : GrowsBy empty values first) (otherGrown : GrowsBy empty others second)
    (apart : Value.DigestsApart values) (otherApart : Value.DigestsApart others)
    (length : values.length = others.length) (alike : RepeatAlike values others) :
    values.map first.tokenOf = others.map second.tokenOf := by
  refine Numbered.eq_of_repeatAlike ?_ grown.numbered otherGrown.numbered ?_
  · rw [List.length_map, List.length_map, length]
  · exact alike.map length (grown.eq_of_tokenOf consistent_empty apart)
      (otherGrown.eq_of_tokenOf consistent_empty otherApart)

end Registry

end BoundSql
