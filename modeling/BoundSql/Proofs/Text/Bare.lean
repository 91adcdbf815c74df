import BoundSql.Proofs.Text.Numeral
import BoundSql.Text.Blank
import BoundSql.Text.Split

/-!
# Texts without braces

Braces stand in a statement only around tokens, so it matters which texts have
none. Numerals have none, and whatever is cut out of a text has none if the text
has none.
-/

namespace BoundSql.Text

/-- A text in which no brace stands, neither an opening nor a closing one. -/
def Bare (text : List Char) : Prop :=
  ∀ c ∈ text, c ≠ '\x7b' ∧ c ≠ '\x7d'

instance (text : List Char) : Decidable (Bare text) :=
  decidable_of_iff ((text.all fun c => c != '\x7b' && c != '\x7d') = true) (by simp [Bare])

variable {text front back : List Char}

/-- No text, no brace. -/
theorem bare_nil : Bare [] := by
  intro c member
  cases member

/-- What consists of characters of a bare text is bare, in whatever order and however often they
stand in it. -/
theorem Bare.of_subset (bare : Bare text) (among : back ⊆ text) : Bare back :=
  fun c member => bare c (among member)

/-- Bare texts behind each other are bare. -/
theorem Bare.append (start : Bare front) (finish : Bare back) : Bare (front ++ back) := by
  intro c member
  rcases List.mem_append.mp member with earlier | later
  · exact start c earlier
  · exact finish c later

/-- Bare texts with a bare separator between them are a bare text. -/
theorem bare_intercalate {separator : List Char} {texts : List (List Char)}
    (between : Bare separator) (each : ∀ text ∈ texts, Bare text) :
    Bare (separator.intercalate texts) := by
  induction texts with
  | nil => exact bare_nil
  | cons first rest inductionHypothesis =>
    obtain ⟨here, others⟩ := List.forall_mem_cons.mp each
    cases rest with
    | nil =>
      rw [List.intercalate_singleton]
      exact here
    | cons second remaining =>
      rw [List.intercalate_cons_cons]
      exact (here.append between).append (inductionHypothesis others)

/-- A row of decimal digits has no braces. -/
theorem bare_toDigits (value : Nat) : Bare (Nat.toDigits 10 value) := by
  intro c member
  have digit : isNumeralChar c = true :=
    isNumeralChar_of_mem_toDigits (by decide) (by decide) member
  constructor
  · rintro rfl
    exact absurd digit (by decide)
  · rintro rfl
    exact absurd digit (by decide)

/-- A natural number is written without braces. -/
theorem bare_nat (value : Nat) : Bare (toString value).toList := by
  rw [Nat.toString_eq_repr, Nat.toList_repr]
  exact bare_toDigits value

/-- An integer is written without braces: its digits have none, and neither has its sign. -/
theorem bare_int (value : Int) : Bare (toString value).toList := by
  rw [toList_toString_int]
  refine Bare.append ?_ (bare_toDigits _)
  split <;> decide

/-! ## Pieces of a text -/

/-- Trimming only removes characters. -/
theorem trimChars_subset (text : List Char) : trimChars text ⊆ text := by
  intro c member
  rw [trimChars, List.mem_reverse] at member
  have inside := (List.dropWhile_sublist isBlank).subset member
  rw [List.mem_reverse] at inside
  exact (List.dropWhile_sublist isBlank).subset inside

/-- What stands around a cut stood in the text. The separator itself is left out of both parts. -/
theorem cutOn_subset {fold : Char → Char} {separator before after : List Char}
    (found : cutOn fold separator text = some (before, after)) :
    before ⊆ text ∧ after ⊆ text := by
  induction text generalizing before after with
  | nil =>
    unfold cutOn at found
    split at found
    · cases found
      exact ⟨List.Subset.refl _, List.Subset.refl _⟩
    · cases found
  | cons c rest inductionHypothesis =>
    unfold cutOn at found
    split at found
    · cases found
      exact ⟨List.nil_subset _, List.drop_subset _ _⟩
    · obtain ⟨⟨head, tail⟩, further, same⟩ := Option.map_eq_some_iff.mp found
      cases same
      obtain ⟨headInside, tailInside⟩ := inductionHypothesis further
      exact ⟨List.cons_subset_cons c headInside, List.subset_cons_of_subset c tailInside⟩

/-- The pieces of a text stood in it. -/
theorem splitAll_subset (separator text : List Char) :
    ∀ piece ∈ splitAll separator text, piece ⊆ text := by
  fun_induction splitAll separator text with
  | case1 => exact fun piece member => List.mem_singleton.mp member ▸ List.Subset.refl _
  | case2 => exact fun piece member => List.mem_singleton.mp member ▸ List.Subset.refl _
  | case3 text separates before after found inductionHypothesis =>
    obtain ⟨beforeInside, afterInside⟩ := cutOn_subset found
    intro piece member
    rcases List.mem_cons.mp member with rfl | later
    · exact beforeInside
    · exact List.Subset.trans (inductionHypothesis piece later) afterInside

end BoundSql.Text
